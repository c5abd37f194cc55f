import Switchboard.Proofs.Repeater.Points
import Switchboard.Proofs.Waiter.Deadline

set_option autoImplicit false

namespace Switchboard.Repeater

variable {asker : UserId} {origin : Api.Origin} {exchanges : List Exchange} {exchange : Exchange}
  {work rest : Activity (Except Fault Unit)}

/-- The bot has its session, and the server takes what is sent. -/
def Granted : Exchange → Prop
  | ⟨.session, bound⟩ => (bound : Option Session).isSome
  | ⟨.request _, result⟩ => ∃ id, Api.receipt result = .ok id
  | _ => True

def outcome? : Exchange → Option (Except WaitError (Option Event))
  | ⟨.awaitEvent _ _ _, result⟩ => some result
  | _ => none

def outcomes (exchanges : List Exchange) : List (Except WaitError (Option Event)) :=
  exchanges.filterMap outcome?

theorem outcomes_append (begun later : List Exchange) :
    outcomes (begun ++ later) = outcomes begun ++ outcomes later :=
  List.filterMap_append

theorem Command.ofText_of_ask {text : String} (asks : Text.trim text = "/ask") :
    Command.ofText text = .ask := by
  simp only [ofText, asks]
  rfl

/-- What is said after the wait, and which message it quotes. -/
def lastWord (origin : Api.Origin) : Option String → Message × Option MessageId
  | some answer => (comment answer, some origin.id)
  | none => (tooSlow, none)

theorem fromAnswer_eq (origin : Api.Origin) (answer : Option String) :
    fromAnswer origin answer =
      fromSending origin.target (lastWord origin answer).1 (lastWord origin answer).2 fromEnd := by
  cases answer <;> rfl

def sending (session : Session) (target : ReplyTarget) (message : Message)
    (quote : Option MessageId) (receipt : Except TransportError Json) : List Exchange :=
  [⟨.session, some session⟩,
    ⟨.request (Api.messageRequest session.key target message quote), receipt⟩]

/-- A wait for an answer until half a minute later ended. -/
def waited (asker : UserId) (target : ReplyTarget) (now : Instant)
    (result : Except WaitError (Option Event)) : Exchange :=
  ⟨.awaitEvent (answerPattern asker target).1 (answerPattern asker target).2
    (some (now + answerTime)), result⟩

/-- The question was posed, and then the clock told a time. -/
def Posed (origin : Api.Origin) (now : Instant) (exchanges : List Exchange) : Prop :=
  ∃ session receipt,
    exchanges = sending session origin.target question none receipt ++ [⟨.now, now⟩]

theorem Posed.outcomes_eq {now : Instant} (posed : Posed origin now exchanges) :
    outcomes exchanges = [] := by
  obtain ⟨session, receipt, rfl⟩ := posed
  rfl

theorem Posed.outcomes_append {now : Instant} (posed : Posed origin now exchanges)
    (later : List Exchange) : outcomes (exchanges ++ later) = outcomes later := by
  rw [Repeater.outcomes_append, posed.outcomes_eq, List.nil_append]

theorem Posed.requests_eq {now : Instant} (posed : Posed origin now exchanges) :
    ∃ key, requests exchanges = [Api.messageRequest key origin.target question none] := by
  obtain ⟨session, receipt, rfl⟩ := posed
  exact ⟨session.key, rfl⟩

/-- How far a handling has come that asks. -/
inductive Course (asker : UserId) (origin : Api.Origin) :
    List Exchange → Activity (Except Fault Unit) → Prop
  | asking : Course asker origin [] (fromAsking asker origin)
  | posing (session : Session) :
      Course asker origin [⟨.session, some session⟩]
        (fromPosting session.key origin.target question none (fromTiming asker origin))
  | timing (session : Session) (receipt : Except TransportError Json) :
      Course asker origin (sending session origin.target question none receipt)
        (fromTiming asker origin)
  | stranded (now : Instant) (posed : List Exchange) (before : Posed origin now posed) :
      Course asker origin posed (.done (.error (.crash Instant.overflow)))
  | waiting (now : Instant) (posed : List Exchange) (before : Posed origin now posed) :
      Course asker origin posed (fromWaiting asker origin (now + answerTime))
  | failed (now : Instant) (posed : List Exchange) (before : Posed origin now posed)
      (error : WaitError) :
      Course asker origin (posed ++ [waited asker origin.target now (.error error)])
        (.done (.error (.wait error)))
  | telling (now : Instant) (posed : List Exchange) (before : Posed origin now posed)
      (event : Option Event) :
      Course asker origin (posed ++ [waited asker origin.target now (.ok event)])
        (fromAnswer origin (heard event))
  | posting (now : Instant) (posed : List Exchange) (before : Posed origin now posed)
      (event : Option Event) (session : Session) :
      Course asker origin
        (posed ++ [waited asker origin.target now (.ok event), ⟨.session, some session⟩])
        (fromPosting session.key origin.target (lastWord origin (heard event)).1
          (lastWord origin (heard event)).2 fromEnd)
  | finished (now : Instant) (posed : List Exchange) (before : Posed origin now posed)
      (event : Option Event) (session : Session) (receipt : Except TransportError Json) :
      Course asker origin
        (posed ++ waited asker origin.target now (.ok event) ::
          sending session origin.target (lastWord origin (heard event)).1
            (lastWord origin (heard event)).2 receipt)
        fromEnd

theorem goes_of_sending {target : ReplyTarget} {message : Message} {quote : Option MessageId}
    (goes : (fromSending target message quote work).GoesOn exchange rest)
    (granted : Granted exchange) :
    ∃ session, exchange = ⟨.session, some session⟩ ∧
      rest = fromPosting session.key target message quote work := by
  obtain ⟨_, _, bound⟩ := goes
  cases bound with
  | none => cases granted
  | some session => exact ⟨session, rfl, rfl⟩

theorem goes_of_posting {key : String} {target : ReplyTarget} {message : Message}
    {quote : Option MessageId}
    (goes : (fromPosting key target message quote work).GoesOn exchange rest)
    (granted : Granted exchange) :
    (∃ receipt, exchange = ⟨.request (Api.messageRequest key target message quote), receipt⟩) ∧
      rest = work := by
  obtain ⟨_, _, receipt⟩ := goes
  obtain ⟨id, taken⟩ := granted
  refine ⟨⟨receipt, rfl⟩, ?_⟩
  simp only [taken]

theorem Course.snoc (course : Course asker origin exchanges work)
    (goes : work.GoesOn exchange rest) (granted : Granted exchange) :
    Course asker origin (exchanges ++ [exchange]) rest := by
  cases course with
  | asking =>
    obtain ⟨session, rfl, rfl⟩ := goes_of_sending goes granted
    exact .posing session
  | posing session =>
    obtain ⟨⟨receipt, rfl⟩, rfl⟩ := goes_of_posting goes granted
    exact .timing session receipt
  | timing session receipt =>
    obtain ⟨_, _, now⟩ := goes
    have posed : Posed origin now _ := ⟨session, receipt, rfl⟩
    dsimp only
    by_cases reached : now.Reaches (.ofMillis answerTime)
    · rw [Instant.after?_of_reaches reached]
      exact .waiting now _ posed
    · rw [Instant.after?_of_not_reaches reached]
      exact .stranded now _ posed
  | waiting now posed before =>
    obtain ⟨_, _, result⟩ := goes
    cases result with
    | error error => exact .failed now _ before error
    | ok event => exact .telling now _ before event
  | stranded | failed | finished => cases goes
  | telling now posed before event =>
    rw [fromAnswer_eq] at goes
    obtain ⟨session, rfl, rfl⟩ := goes_of_sending goes granted
    rw [List.append_assoc]
    exact .posting now posed before event session
  | posting now posed before event session =>
    obtain ⟨⟨receipt, rfl⟩, rfl⟩ := goes_of_posting goes granted
    rw [List.append_assoc]
    exact .finished now posed before event session receipt

/-- A handling that stands before a wait has posed its question, and waits for an answer until half
a minute after it looked at the clock. -/
theorem Course.posed {kind : EventKind} {pattern : Pattern} {deadline : Option Instant}
    {next : Except WaitError (Option Event) → Activity (Except Fault Unit)}
    (course : Course asker origin exchanges (.step (.awaitEvent kind pattern deadline) next)) :
    ∃ now, Posed origin now exchanges ∧ kind = (answerPattern asker origin.target).1 ∧
      pattern = (answerPattern asker origin.target).2 ∧ deadline = some (now + answerTime) := by
  generalize stands : Activity.step (.awaitEvent kind pattern deadline) next = work at course
  cases course with
  | waiting now _ before =>
    cases stands
    exact ⟨now, before, rfl, rfl, rfl⟩
  | telling now posed before event =>
    rw [fromAnswer_eq] at stands
    cases stands
  | _ => cases stands

section Outcome

variable {event : Option Event}

/-- After a wait that came to something or nothing the handling says its last word. -/
theorem Course.after_wait (course : Course asker origin exchanges work)
    (waited : outcomes exchanges = [.ok event]) :
    work = fromAnswer origin (heard event) ∨
      (∃ session : Session, work = fromPosting session.key origin.target
        (lastWord origin (heard event)).1 (lastWord origin (heard event)).2 fromEnd) ∨
      work = fromEnd ∧ ∃ key, Api.messageRequest key origin.target
        (lastWord origin (heard event)).1 (lastWord origin (heard event)).2 ∈
          requests exchanges := by
  cases course with
  | asking | posing | timing => cases waited
  | stranded now _ before | waiting now _ before => cases before.outcomes_eq.symm.trans waited
  | failed now posed before error => cases (before.outcomes_append _).symm.trans waited
  | telling now posed before event =>
    cases (before.outcomes_append _).symm.trans waited
    exact .inl rfl
  | posting now posed before event session =>
    cases (before.outcomes_append _).symm.trans waited
    exact .inr (.inl ⟨session, rfl⟩)
  | finished now posed before event session receipt =>
    cases (before.outcomes_append _).symm.trans waited
    refine .inr (.inr ⟨rfl, session.key, ?_⟩)
    rw [requests_append]
    exact List.mem_append_right _ List.mem_cons_self

theorem Course.said (course : Course asker origin exchanges work) {request : Request}
    (made : request ∈ requests exchanges) :
    (∃ key, request = Api.messageRequest key origin.target question none) ∨
      ∃ event, outcomes exchanges = [.ok event] ∧
        ∃ key, request = Api.messageRequest key origin.target
          (lastWord origin (heard event)).1 (lastWord origin (heard event)).2 := by
  cases course with
  | asking | posing => cases made
  | timing session receipt => exact .inl ⟨session.key, List.mem_singleton.mp made⟩
  | stranded now _ before | waiting now _ before =>
    obtain ⟨key, sole⟩ := before.requests_eq
    rw [sole] at made
    exact .inl ⟨key, List.mem_singleton.mp made⟩
  | failed now posed before | telling now posed before | posting now posed before =>
    obtain ⟨key, sole⟩ := before.requests_eq
    rw [requests_append, sole] at made
    exact .inl ⟨key, List.mem_singleton.mp made⟩
  | finished now posed before event session receipt =>
    obtain ⟨key, sole⟩ := before.requests_eq
    rw [requests_append, sole] at made
    rcases List.mem_cons.mp made with first | second
    · exact .inl ⟨key, first⟩
    · exact .inr ⟨event, before.outcomes_append _, session.key, List.mem_singleton.mp second⟩

end Outcome

end Switchboard.Repeater
