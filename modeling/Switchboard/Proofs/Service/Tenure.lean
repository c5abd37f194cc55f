import Switchboard.Proofs.Session.Handover
import Switchboard.Proofs.Service.Points
import Switchboard.Proofs.Trace

set_option autoImplicit false

namespace Switchboard

/-- How far the task of a service is. -/
inductive Stint where
  | unbegun
  | underway
  | ended (outcome : Except ServiceError Unit)
  | givenUp

/-- What happens to a service. -/
inductive Proceeding where
  /-- Somebody who shares the bot does something. -/
  | shared (affair : Affair)
  /-- Nobody goes on with a call any more. -/
  | forsaken (call : CallId)
  /-- The service sends a request. -/
  | asked (request : Request)
  /-- The service is answered. -/
  | answered (op : Op) (answer : op.Answer)
  /-- The task ends. -/
  | ended (outcome : Except ServiceError Unit)
  /-- Some milliseconds pass. -/
  | passed (span : Nat)
  /-- A task of its own sends the request that was left to it. -/
  | ran (request : Request)

def Proceeding.span : Proceeding → Nat
  | .passed span => span
  | _ => 0

/-- A service (`MiraiRuntime.run_until`) with its bot and its task. It holds one clone of the bot
and gives another one to the task; whoever is given a clone may share the bot further, call for
sessions and for their release, and go on after the service has returned. The task ends only while
the service waits for it, and a shutdown, the end of the task and the end of the grace come in any
order. -/
structure Tenure where
  bot : Custody
  work : Activity (Except ServiceError Unit)
  /-- The request that comes next is sent. -/
  asked : Bool
  stint : Stint
  clock : Instant

def Op.isShared : Op → Bool
  | .request _ | .session | .bindSession _ | .unbindSession _ => true
  | _ => false

theorem Custody.Answered.concerns {slot left : Option Session} {op : Op} {answer : op.Answer}
    (answered : Custody.Answered slot op answer left) : op.isShared = true := by
  cases answered <;> rfl

namespace Tenure

def own : CloneId := 0

/-- A service that was just started, with a bot of its own. -/
def start (settings : SessionSettings) (shutdown : Option Instant) (stops : StopForest) : Tenure :=
  ⟨.start stops, Service.serve settings shutdown, false, .unbegun, 0⟩

/-- The service has returned with a result. -/
def Returned (tenure : Tenure) (result : Except ServiceError Unit) : Prop :=
  tenure.work = .done result

/-- The service waits for its task. -/
def Awaits (tenure : Tenure) : Prop :=
  ∃ deadline next, tenure.work = .step (.awaitTask deadline) next

/-- What a service can be answered, and what becomes of its bot and its task. A task that has ended
is seen before the deadline is looked at. -/
inductive Answered (tenure : Tenure) : (op : Op) → op.Answer → Custody → Stint → Prop
  | bot (op : Op) (answer : op.Answer) (slot : Option Session)
      (answered : Custody.Answered tenure.bot.slot op answer slot) :
      Answered tenure op answer { tenure.bot with slot := slot } tenure.stint
  | begun (clone : CloneId) (unused : clone ∉ tenure.bot.clones) :
      Answered tenure .beginTask ()
        { tenure.bot with clones := clone :: tenure.bot.clones } .underway
  | ended (deadline : Option Instant) (outcome : Except ServiceError Unit)
      (ceased : tenure.stint = .ended outcome) :
      Answered tenure (.awaitTask deadline) (some outcome) tenure.bot tenure.stint
  | elapsed (deadline : Instant) (due : deadline ≤ tenure.clock)
      (underway : tenure.stint = .underway) :
      Answered tenure (.awaitTask (some deadline)) none tenure.bot tenure.stint
  | stopped :
      Answered tenure .requestStop ()
        { tenure.bot with stops := tenure.bot.stops.request tenure.bot.botStop } tenure.stint
  | told : Answered tenure .now tenure.clock tenure.bot tenure.stint
  | givenUp : Answered tenure .giveUpTask () tenure.bot .givenUp

def forsake (tenure : Tenure) (call : CallId) : Tenure :=
  { tenure with
    bot := { tenure.bot with calls := Function.update tenure.bot.calls call none } }

/-- A step of anybody. The service keeps its clone until it returns. -/
inductive Step (tenure : Tenure) : Proceeding → Tenure → Prop
  | shared (affair : Affair) (bot : Custody) (step : Custody.Step tenure.bot affair bot)
      (kept : affair = .dropped own → ∃ result, tenure.Returned result) :
      Step tenure (.shared affair) { tenure with bot := bot }
  | forsaken (call : CallId) : Step tenure (.forsaken call) (tenure.forsake call)
  | asks (request : Request)
      (next : Except TransportError Json → Activity (Except ServiceError Unit))
      (stands : tenure.work = .step (.request request) next) (unsent : tenure.asked = false) :
      Step tenure (.asked request) { tenure with asked := true }
  | answer (op : Op) (next : op.Answer → Activity (Except ServiceError Unit)) (answer : op.Answer)
      (bot : Custody) (stint : Stint) (stands : tenure.work = .step op next)
      (due : tenure.asked = op.isSent) (answered : Answered tenure op answer bot stint) :
      Step tenure (.answered op answer)
        { tenure with bot := bot, stint := stint, work := next answer, asked := false }
  | ended (outcome : Except ServiceError Unit) (underway : tenure.stint = .underway)
      (awaited : tenure.Awaits) :
      Step tenure (.ended outcome) { tenure with stint := .ended outcome }
  | passed (span : Nat) : Step tenure (.passed span) { tenure with clock := tenure.clock + span }
  | ran (request : Request) (left : request ∈ tenure.bot.spawned) :
      Step tenure (.ran request) tenure

theorem Step.of_goes {tenure : Tenure} {settings : SessionSettings} {shutdown : Option Instant}
    {point after : Service.Point} {op : Op} {answer : op.Answer} {bot : Custody} {stint : Stint}
    (goes : Service.Goes settings shutdown point op answer after)
    (stands : tenure.work = point.work settings shutdown) (due : tenure.asked = op.isSent)
    (answered : Answered tenure op answer bot stint) :
    Step tenure (.answered op answer)
      { tenure with
        bot := bot, stint := stint, work := after.work settings shutdown, asked := false } := by
  obtain ⟨next, asks, left⟩ := goes.asks
  rw [← left]
  exact .answer op next answer bot stint (stands.trans asks) due answered

/-- Steps of any parties in any order. -/
abbrev Run : Tenure → List Proceeding → Tenure → Prop := Trace Step

/-- What happens to a service from its start. -/
abbrev Reached (settings : SessionSettings) (shutdown : Option Instant) (stops : StopForest)
    (history : List Proceeding) (tenure : Tenure) : Prop :=
  Run (start settings shutdown stops) history tenure

def elapsed : List Proceeding → Nat
  | [] => 0
  | proceeding :: rest => proceeding.span + elapsed rest

@[simp] theorem elapsed_append (history more : List Proceeding) :
    elapsed (history ++ more) = elapsed history + elapsed more := by
  induction history with
  | nil => simp [elapsed]
  | cons proceeding rest ih =>
    rw [List.cons_append, elapsed, elapsed, ih]
    omega

/-- Somebody sent a request. -/
def Requested (history : List Proceeding) (request : Request) : Prop :=
  .asked request ∈ history ∨ (∃ call, .shared (.asked call request) ∈ history) ∨
    .ran request ∈ history

/-- The service learned that its session is tied to its account. -/
def Verified (history : List Proceeding) (session : Session) : Prop :=
  ∃ result response, Call.verdict result = .ok response ∧
    .answered (.request (Session.verifyRequest session)) result ∈ history

/-- The service began its task. -/
def Begun (history : List Proceeding) : Prop := .answered .beginTask () ∈ history

theorem Requested.mono {history more : List Proceeding} {request : Request}
    (requested : Requested history request) : Requested (history ++ more) request := by
  rcases requested with sent | ⟨call, sent⟩ | sent
  · exact .inl (List.mem_append_left _ sent)
  · exact .inr (.inl ⟨call, List.mem_append_left _ sent⟩)
  · exact .inr (.inr (List.mem_append_left _ sent))

end Tenure
end Switchboard
