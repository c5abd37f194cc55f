import Switchboard.Proofs.Session.Points
import Switchboard.Proofs.Waiter.History

set_option autoImplicit false

namespace Switchboard

open Session (Demand Goes Point grant openRequest verifyRequest)

/-- The number of a clone. -/
abbrev CloneId := Nat

/-- The number of a call. -/
abbrev CallId := Nat

/-- A call that was made. -/
structure Engagement where
  clone : CloneId
  work : Activity (Except ApiError Unit)
  /-- The request that comes next is sent. -/
  asked : Bool

/-- The call has returned. -/
def Engagement.Over (engagement : Engagement) : Prop := ∃ result, engagement.work = .done result

/-- What happens to a bot. -/
inductive Affair where
  | called (call : CallId) (demand : Demand)
  /-- A request is sent. -/
  | asked (call : CallId) (request : Request)
  | answered (call : CallId) (op : Op) (answer : op.Answer)
  | cloned (clone : CloneId)
  | dropped (clone : CloneId)
  /-- A stream is started, with a stop handle made from the bot's. -/
  | started (stream : StopId)
  | stopped (handle : StopId)

namespace Affair

def call? : Affair → Option CallId
  | .called call _ | .asked call _ | .answered call _ _ => some call
  | .cloned _ | .dropped _ | .started _ | .stopped _ => none

def grant? : Affair → Option (CallId × String)
  | .answered call (.request request) result =>
    if request.path = "/auth" then (grant result).toOption.map (Prod.mk call) else none
  | _ => none

def binding? : Affair → Option (CallId × Session)
  | .answered call (.bindSession session) true => some (call, session)
  | _ => none

theorem call?_of_binding {affair : Affair} {binding : CallId × Session}
    (binds : affair.binding? = some binding) : affair.call? = some binding.1 := by
  unfold binding? at binds
  split at binds
  · cases binds
    rfl
  · cases binds

end Affair

def Op.isSent : Op → Bool
  | .request _ => true
  | _ => false

/-- A bot (`Bot`) in the hands of several parties: its clones, its streams, and the calls of
`authorize` and `release` for its session. Calls run beside each other. A request is sent and
answered in two steps, and between any two operations of a call anybody else goes on. Whoever drops
the last clone takes the session out and leaves its release to a task of its own. -/
structure Custody where
  slot : Option Session
  calls : CallId → Option Engagement
  clones : List CloneId
  stops : StopForest
  /-- The stop handle of the bot. -/
  botStop : StopId
  /-- The stop handles of the streams that were started. -/
  streams : List StopId
  /-- The requests that were left to tasks of their own. -/
  spawned : List Request

namespace Custody

/-- A bot that was just made, with a stop handle of its own. -/
def start (stops : StopForest) : Custody :=
  ⟨none, fun _ => none, [0], stops.addRoot.2, stops.addRoot.1, [], []⟩

def setCall (custody : Custody) (call : CallId) (engagement : Engagement) : Custody :=
  { custody with calls := Function.update custody.calls call (some engagement) }

/-- The end of a bot: its streams are asked to stop, and the session that is bound is taken out and
its release left to a task. -/
def disband (custody : Custody) : Custody :=
  { custody with
    stops := custody.stops.request custody.botStop
    slot := none
    spawned := custody.spawned ++ (custody.slot.map Session.releaseRequest).toList }

def leave (custody : Custody) (clone : CloneId) : Custody :=
  if custody.clones.erase clone = [] then
    disband { custody with clones := custody.clones.erase clone }
  else { custody with clones := custody.clones.erase clone }

/-- A call has returned with a result. -/
def Returned (custody : Custody) (call : CallId) (result : Except ApiError Unit) : Prop :=
  ∃ engagement, custody.calls call = some engagement ∧ engagement.work = .done result

/-- What a call can be answered, and which session is bound then. The server answers anything. -/
inductive Answered : Option Session → (op : Op) → op.Answer → Option Session → Prop
  | request (slot : Option Session) (request : Request) (result : Except TransportError Json) :
      Answered slot (.request request) result slot
  | session (slot : Option Session) : Answered slot .session slot slot
  | bound (session : Session) : Answered none (.bindSession session) true (some session)
  | occupied (session other : Session) :
      Answered (some other) (.bindSession session) false (some other)
  | unbound (session : Session) : Answered (some session) (.unbindSession session) () none
  | elsewhere (slot : Option Session) (session : Session) (differs : slot ≠ some session) :
      Answered slot (.unbindSession session) () slot

theorem Answered.session_eq {slot left answer : Option Session}
    (answered : Answered slot .session answer left) : answer = slot := by
  cases answered
  rfl

/-- A step of anybody. -/
inductive Step (custody : Custody) : Affair → Custody → Prop
  | call (call : CallId) (clone : CloneId) (demand : Demand) (unmade : custody.calls call = none)
      (held : clone ∈ custody.clones) :
      Step custody (.called call demand) (custody.setCall call ⟨clone, demand.work, false⟩)
  | ask (call : CallId) (clone : CloneId) (request : Request)
      (next : Except TransportError Json → Activity (Except ApiError Unit))
      (stands : custody.calls call = some ⟨clone, .step (.request request) next, false⟩) :
      Step custody (.asked call request)
        (custody.setCall call ⟨clone, .step (.request request) next, true⟩)
  | answer (call : CallId) (clone : CloneId) (op : Op)
      (next : op.Answer → Activity (Except ApiError Unit)) (answer : op.Answer)
      (slot : Option Session)
      (stands : custody.calls call = some ⟨clone, .step op next, op.isSent⟩)
      (answered : Answered custody.slot op answer slot) :
      Step custody (.answered call op answer)
        ({ custody with slot := slot }.setCall call ⟨clone, next answer, false⟩)
  | clone (clone other : CloneId) (held : clone ∈ custody.clones)
      (unused : other ∉ custody.clones) :
      Step custody (.cloned other) { custody with clones := other :: custody.clones }
  | drop (clone : CloneId) (held : clone ∈ custody.clones)
      (idle : ∀ call engagement, custody.calls call = some engagement →
        engagement.clone = clone → engagement.Over) :
      Step custody (.dropped clone) (custody.leave clone)
  | startStream (clone : CloneId) (held : clone ∈ custody.clones) :
      Step custody (.started (custody.stops.addChild custody.botStop).1)
        { custody with
          stops := (custody.stops.addChild custody.botStop).2
          streams := custody.streams ++ [(custody.stops.addChild custody.botStop).1] }
  | requestStop (handle : StopId) :
      Step custody (.stopped handle)
        { custody with stops := custody.stops.request handle }

theorem Step.of_asks {custody : Custody} (call : CallId) {clone : CloneId} (point : Point)
    {request : Request} {next : Except TransportError Json → Activity (Except ApiError Unit)}
    (stands : custody.calls call = some ⟨clone, point.work, false⟩)
    (asks : point.work = .step (.request request) next) :
    Step custody (.asked call request) (custody.setCall call ⟨clone, point.work, true⟩) := by
  rw [asks] at stands ⊢
  exact .ask call clone request next stands

theorem Step.of_goes {custody : Custody} (call : CallId) {clone : CloneId} {point after : Point}
    {op : Op} {answer : op.Answer} {slot : Option Session}
    (stands : custody.calls call = some ⟨clone, point.work, op.isSent⟩)
    (goes : Goes point op answer after) (answered : Answered custody.slot op answer slot) :
    Step custody (.answered call op answer)
      ({ custody with slot := slot }.setCall call ⟨clone, after.work, false⟩) := by
  obtain ⟨next, asks, left⟩ := goes.asks
  rw [asks] at stands
  rw [← left]
  exact .answer call clone op next answer slot stands answered

/-- Steps of any parties in any order. -/
inductive Run (first : Custody) : List Affair → Custody → Prop
  | nil : Run first [] first
  | snoc {history : List Affair} {custody next : Custody} {affair : Affair}
      (run : Run first history custody) (step : Step custody affair next) :
      Run first (history ++ [affair]) next

theorem Run.append {first middle last : Custody} {earlier later : List Affair}
    (begun : Run first earlier middle) (ended : Run middle later last) :
    Run first (earlier ++ later) last := by
  induction ended with
  | nil => rwa [List.append_nil]
  | snoc run step ih =>
    rw [← List.append_assoc]
    exact ih.snoc step

/-- What happens to a bot from when it is made. -/
abbrev Reached (stops : StopForest) (history : List Affair) (custody : Custody) : Prop :=
  Run (start stops) history custody

def grants (history : List Affair) : List (CallId × String) := history.filterMap Affair.grant?

def bindings (history : List Affair) : List (CallId × Session) := history.filterMap Affair.binding?

/-- A call was given the key of a session for the account that it was made for. -/
def Granted (history : List Affair) (call : CallId) (session : Session) : Prop :=
  ∃ authKey opening, grant opening = .ok session.key ∧
    [.called call (.authorize authKey session.botId),
      .answered call (.request (openRequest authKey)) opening].Sublist history

/-- A call learned that its session is tied to an account. -/
def Verified (history : List Affair) (call : CallId) (session : Session) : Prop :=
  ∃ result response, Call.verdict result = .ok response ∧
    .answered call (.request (verifyRequest session)) result ∈ history

/-- A call was given the key of a session for the account that it was made for, and then learned
that the session is tied to the account. -/
def Earned (history : List Affair) (call : CallId) (session : Session) : Prop :=
  ∃ authKey opening result response,
    grant opening = .ok session.key ∧ Call.verdict result = .ok response ∧
    [.called call (.authorize authKey session.botId),
      .answered call (.request (openRequest authKey)) opening,
      .answered call (.request (verifyRequest session)) result].Sublist history

/-- A call for the release of the session that is bound released a session after it was bound. -/
def Released (history : List Affair) (call : CallId) (session : Session) : Prop :=
  .called call .release ∈ history ∧ ∃ opener result response,
    Call.verdict result = .ok response ∧
    [.answered opener (.bindSession session) true,
      .asked call session.releaseRequest,
      .answered call (.request session.releaseRequest) result].Sublist history

theorem Earned.granted {history : List Affair} {call : CallId} {session : Session}
    (earned : Earned history call session) : (call, session.key) ∈ grants history := by
  obtain ⟨authKey, opening, result, response, opened, verified, order⟩ := earned
  refine List.mem_filterMap.mpr ⟨_, order.subset (List.mem_cons_of_mem _ List.mem_cons_self), ?_⟩
  rw [Affair.grant?, if_pos (show (openRequest authKey).path = "/auth" from rfl), opened]
  rfl

/-- What has happened when a call stands at a point. -/
def Tells (history : List Affair) (call : CallId) (asked : Bool) : Point → Prop
  | .beginning demand => .called call demand ∈ history
  | .opening authKey botId => .called call (.authorize authKey botId) ∈ history
  | .verifying session => Granted history call session
  | .binding session => Earned history call session
  | .returning _ | .settled _ => True
  | .releasing session => .called call .release ∈ history ∧ ∃ opener,
      (.answered opener (.bindSession session) true ::
        if asked then [.asked call session.releaseRequest] else []).Sublist history
  | .unbinding session => Released history call session

variable {history more : List Affair} {call : CallId} {asked : Bool} {point after : Point}

theorem Tells.mono (tells : Tells history call asked point) :
    Tells (history ++ more) call asked point := by
  have longer := List.sublist_append_left history more
  cases point with
  | beginning demand => exact longer.subset tells
  | opening authKey botId => exact longer.subset tells
  | verifying session =>
    obtain ⟨authKey, opening, succeeded, order⟩ := tells
    exact ⟨authKey, opening, succeeded, order.trans longer⟩
  | binding session =>
    obtain ⟨authKey, opening, result, response, opened, verified, order⟩ := tells
    exact ⟨authKey, opening, result, response, opened, verified, order.trans longer⟩
  | returning session | settled result => trivial
  | releasing session =>
    obtain ⟨demanded, opener, order⟩ := tells
    exact ⟨longer.subset demanded, opener, order.trans longer⟩
  | unbinding session =>
    obtain ⟨demanded, opener, result, response, succeeded, order⟩ := tells
    exact ⟨longer.subset demanded, opener, result, response, succeeded, order.trans longer⟩

theorem Tells.ask {request : Request}
    {next : Except TransportError Json → Activity (Except ApiError Unit)}
    (tells : Tells history call false point) (asks : point.work = .step (.request request) next) :
    Tells (history ++ [.asked call request]) call true point := by
  cases point with
  | releasing session =>
    cases asks
    obtain ⟨demanded, opener, order⟩ := tells
    exact ⟨List.mem_append_left _ demanded, opener, order.append (.refl [_])⟩
  | beginning demand => exact tells.mono
  | opening authKey botId => exact tells.mono
  | verifying session => exact tells.mono
  | binding session => exact tells.mono
  | unbinding session => exact tells.mono
  | returning session | settled result => trivial

/-- What is told once an operation is answered. Only a session that was bound can be found bound. -/
theorem Tells.answer {op : Op} {answer : op.Answer} (tells : Tells history call op.isSent point)
    (goes : Goes point op answer after)
    (known : ∀ session, Affair.answered call op answer = .answered call .session (some session) →
      ∃ opener, .answered opener (.bindSession session) true ∈ history) :
    Tells (history ++ [.answered call op answer]) call false after := by
  cases goes with
  | vacant authKey botId => exact List.mem_append_left _ tells
  | granted authKey botId result key succeeded =>
    exact ⟨authKey, result, succeeded,
      (List.singleton_sublist.mpr tells).append (.refl [_])⟩
  | verified session result response succeeded =>
    obtain ⟨authKey, opening, opened, order⟩ := tells
    exact ⟨authKey, opening, result, response, opened, succeeded, order.append (.refl [_])⟩
  | found session =>
    obtain ⟨opener, bound⟩ := known session rfl
    exact ⟨List.mem_append_left _ tells, opener,
      List.singleton_sublist.mpr (List.mem_append_left _ bound)⟩
  | released session result response succeeded =>
    obtain ⟨demanded, opener, order⟩ := tells
    exact ⟨List.mem_append_left _ demanded, opener, result, response, succeeded,
      order.append (.refl [_])⟩
  | _ => trivial

end Custody
end Switchboard
