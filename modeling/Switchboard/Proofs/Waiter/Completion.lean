import Switchboard.Declaration.Variant
import Switchboard.Proofs.Waiter.Closing
import Switchboard.Proofs.Waiter.Waiting

set_option autoImplicit false

namespace Switchboard

/-- Errors that the queue has for its own faults: an event of another kind arrived, or nothing. -/
def WaitError.isInternal : WaitError → Bool
  | .closed | .kindMismatch _ _ => true
  | .patternFailed _ | .streamFailed _ | .streamClosed => false

/-- The outcome that a holder finds by a step: he looks for it, or his wait or his cancelling
ends. -/
def Act.completion? : Act → Option (WaiterId × Except WaitError (Option Event))
  | .polled id result => some (id, result.map some)
  | .returned id _ result => some (id, result)
  | _ => none

namespace Event

variable (event : Event)

theorem isKind_iff (kind : EventKind) : event.isKind kind = true ↔ kind = event.kind := by
  rw [isKind, decide_eq_true_eq, eq_comm]

end Event

namespace Declaration

theorem attributeVariant_of_others (named : Option String) {attributes : List Attribute}
    (others : ∀ mark ∈ attributes, mark.path ≠ ["event"]) :
    attributeVariant named attributes = .ok named := by
  induction attributes with
  | nil => rfl
  | cons first rest ih =>
    rw [attributeVariant, if_pos (others first List.mem_cons_self)]
    exact ih fun mark member => others mark (List.mem_cons_of_mem _ member)

theorem variant_of_kind (kind : EventKind) {attributes : List Attribute}
    (others : ∀ mark ∈ attributes, mark.path ≠ ["event"]) :
    variant ⟨attributes, true, kind.name ++ "Event", 0⟩ = .ok kind.name := by
  have stem : stem? (kind.name ++ "Event") = some kind.name := by
    cases kind <;> decide
  simp only [variant, attributeVariant_of_others none others, stem]
  rfl

end Declaration

namespace EventKind

theorem ofName?_name (kind : EventKind) : ofName? kind.name = some kind := by
  cases kind <;> decide

end EventKind

namespace Hall

variable {answers : Answers} {hall next : Hall} {act : Act} {history : List Act} {id : WaiterId}

/-- The slot was put into the queue when its waiter was registered. -/
def Enrolled (answers : Answers) (history : List Act) (hall : Hall) (slot : Slot) : Prop :=
  ∃ earlier later use before after,
    history = earlier ++ .registered slot.id slot.kind use none :: later ∧
      Reached answers earlier before ∧
      Step answers before (.registered slot.id slot.kind use none) after ∧
      slot ∉ before.queue.slots ∧ slot ∈ after.queue.slots ∧ Run answers after later hall

theorem Enrolled.snoc {slot : Slot} (enrolled : Enrolled answers history hall slot)
    (step : Step answers hall act next) : Enrolled answers (history ++ [act]) next slot := by
  obtain ⟨earlier, later, use, before, after, rfl, reached, registers, fresh, member, run⟩ :=
    enrolled
  exact ⟨earlier, later ++ [act], use, before, after, List.append_assoc .., reached, registers,
    fresh, member, run.snoc step⟩

theorem Enrolled.registered {slot : Slot} (enrolled : Enrolled answers history hall slot) :
    ∃ use, .registered slot.id slot.kind use none ∈ history := by
  obtain ⟨earlier, later, use, -, -, rfl, -⟩ := enrolled
  exact ⟨use, List.mem_append_right _ List.mem_cons_self⟩

theorem Reached.enrolled (reached : Reached answers history hall) {slot : Slot}
    (member : slot ∈ hall.queue.slots) : Enrolled answers history hall slot := by
  induction reached with
  | nil => cases member
  | @snoc history hall next act run step ih =>
    rcases step.effect.slot_cases member with old | ⟨fresh, use, rfl⟩
    · exact (ih old).snoc step
    · refine ⟨history, [], use, hall, next, rfl, run, step, ?_, member, .nil⟩
      intro old
      have numbered := (Reached.orderly run).numbered slot old
      rw [fresh] at numbered
      exact Nat.lt_irrefl _ numbered

/-- A waiter got an event that its pattern accepted when it was offered. -/
def Chose (answers : Answers) (history : List Act) (hall : Hall) (id : WaiterId) (event : Event) :
    Prop :=
  ∃ slot errand, Enrolled answers history hall slot ∧ slot.id = id ∧ slot.kind = event.kind ∧
    answers slot event .accepts ∧ .offer event ∈ requests history errand

/-- Somebody meant to send the waiter an error: its pattern failed, or the queue was emptied. -/
def Meant (history : List Act) (id : WaiterId) (reason : WaitError) : Prop :=
  (∃ errand event text, .saw errand event id (.failed text) ∈ history ∧
    reason = .patternFailed text) ∨
  ∃ errand closing, .sweep reason closing ∈ requests history errand

/-- The slot that a search looks at is one of the queue's, and of the kind of the event. -/
theorem Reached.consulted_slot (reached : Reached answers history hall) {errand : ErrandId}
    {event : Event} {findings : Findings} {slot : Slot} {rest : List Slot}
    (held : hall.lock = .consulting errand event findings slot rest) :
    slot ∈ hall.queue.slots ∧ slot.kind = event.kind := by
  have sound := reached.orderly.lock
  rw [held] at sound
  exact ⟨sound.2.1.subset List.mem_cons_self, sound.2.2.2⟩

theorem Reached.accepted (reached : Reached answers history hall) {errand : ErrandId}
    {event : Event} (taken : .saw errand event id .taken ∈ history) :
    ∃ slot, Enrolled answers history hall slot ∧ slot.id = id ∧ slot.kind = event.kind ∧
      answers slot event .accepts := by
  induction reached with
  | nil => cases taken
  | @snoc history hall next act run step ih =>
    rcases List.mem_append.mp taken with old | new
    · obtain ⟨slot, enrolled, rest⟩ := ih old
      exact ⟨slot, enrolled.snoc step, rest⟩
    · have same := List.mem_singleton.mp new
      cases step with
      | judge owner shown findings after slot rest verdict queue held answer judged =>
        obtain ⟨member, kind⟩ := Reached.consulted_slot run held
        have enrolled := (Reached.enrolled run member).snoc
          (.judge owner shown findings after slot rest verdict queue held answer judged)
        simp only [Act.saw.injEq] at same
        obtain ⟨rfl, rfl, rfl, sight⟩ := same
        have accepts : verdict = .accepts := by
          cases verdict with
          | accepts => rfl
          | rejects => cases sight
          | fails reason =>
            simp only [Verdict.sight] at sight
            split at sight <;> cases sight
        exact ⟨slot, enrolled, rfl, kind, accepts ▸ answer⟩
      | _ => cases same

theorem saw_of_deliver {errand : ErrandId} {event : Event}
    (captor : .deliver errand event ∈ captors history id) :
    .saw errand event id .taken ∈ history := by
  obtain ⟨act, member, hit⟩ := List.mem_filterMap.mp (mem_captors.mp captor)
  cases capture_act hit
  exact member

theorem saw_of_fail {errand : ErrandId} {reason : String}
    (captor : .fail errand reason ∈ captors history id) :
    ∃ event, .saw errand event id (.failed reason) ∈ history := by
  obtain ⟨act, member, hit⟩ := List.mem_filterMap.mp (mem_captors.mp captor)
  obtain ⟨event, rfl⟩ := capture_act hit
  exact ⟨event, member⟩

theorem withdrew_of_withdraw (captor : .withdraw ∈ captors history id) :
    .withdrew id true ∈ history := by
  obtain ⟨act, member, hit⟩ := List.mem_filterMap.mp (mem_captors.mp captor)
  cases capture_act hit
  exact member

theorem requests_append {errand : ErrandId} {request : Errand}
    (asked : request ∈ requests history errand) (later : List Act) :
    request ∈ requests (history ++ later) errand := by
  rw [requests, List.filterMap_append]
  exact List.mem_append_left _ asked

theorem Reached.request_of_sweep (reached : Reached answers history hall) {errand : ErrandId}
    {reason : WaitError} (captor : .sweep errand reason ∈ captors history id) :
    ∃ closing, .sweep reason closing ∈ requests history errand := by
  obtain ⟨earlier, later, rfl⟩ := List.append_of_mem (swept_of_sweep captor)
  rw [List.append_cons] at reached
  obtain ⟨after, through, -⟩ := Run.split reached
  obtain ⟨moment, before, step⟩ := Run.last through
  cases step with
  | sweep owner cause closing other rest ids won queue held tried =>
    have sound := (Reached.orderly before).lock
    rw [held] at sound
    have balanced := Reached.balanced before errand
    simp only [Balanced, sound.1] at balanced
    exact ⟨closing, requests_append (balanced.1 ▸ List.mem_singleton_self _) _⟩

theorem Reached.request_of_refuse (reached : Reached answers history hall) {reason : WaitError}
    (captor : .refuse reason ∈ captors history id) :
    ∃ errand, .sweep reason true ∈ requests history errand := by
  obtain ⟨kind, use, member⟩ := registered_of_refuse captor
  obtain ⟨earlier, later, rfl⟩ := List.append_of_mem member
  rw [List.append_cons] at reached
  obtain ⟨after, through, -⟩ := Run.split reached
  obtain ⟨moment, before, step⟩ := Run.last through
  obtain ⟨errand, first, rest, rfl, asked, -⟩ :=
    Reached.shut_of_closed before step.registered_cases.1.symm
  rw [List.append_assoc]
  exact ⟨errand, requests_append asked _⟩

theorem Reached.meant (reached : Reached answers history hall) {capture : Capture}
    (captor : capture ∈ captors history id) {reason : WaitError}
    (owed : capture.result? = some (.error reason)) : Meant history id reason := by
  cases capture with
  | fail errand text =>
    cases owed
    obtain ⟨event, saw⟩ := saw_of_fail captor
    exact .inl ⟨errand, event, text, saw, rfl⟩
  | sweep errand cause =>
    cases owed
    obtain ⟨closing, asked⟩ := reached.request_of_sweep captor
    exact .inr ⟨errand, closing, asked⟩
  | refuse cause =>
    cases owed
    obtain ⟨errand, asked⟩ := reached.request_of_refuse captor
    exact .inr ⟨errand, true, asked⟩
  | deliver | withdraw | abandon => cases owed

/-- An error that stands for a fault of the queue is meant only by those who empty it. -/
theorem Meant.request_of_internal {reason : WaitError} (meant : Meant history id reason)
    (internal : reason.isInternal = true) :
    ∃ errand closing, .sweep reason closing ∈ requests history errand := by
  rcases meant with ⟨errand, event, text, saw, rfl⟩ | asked
  · cases internal
  · exact asked

/-- The first outcome that a holder finds follows from how his waiter was won. -/
theorem Step.completed (step : Step answers hall act next) (reached : Reached answers history hall)
    {result : Except WaitError (Option Event)} (completes : act.completion? = some (id, result))
    (fresh : ¬ awaited history id) :
    ∃ capture ∈ captors history id, capture.result? = some result := by
  cases act with
  | polled other outcome =>
    cases completes
    cases step with
    | poll _ kind settled _ ticket queue holding found =>
      have sound := reached.tracked.holders id
      rw [holding] at sound
      cases settled with
      | true => exact absurd sound.2.1 fresh
      | false =>
        obtain ⟨resolution, sent, rfl, -⟩ := Ticket.collect_open found
        exact reached.captor_of_found sent (by rw [holding]; rfl)
  | returned other use outcome =>
    cases completes
    obtain ⟨capture, captor, owed⟩ := (step.concluded reached).captor fun after => by
      rcases awaited_snoc_cases after with old | ⟨outcome, same⟩
      · exact fresh old
      · cases same
    rcases captors_snoc_cases captor with old | hit
    · exact ⟨capture, old, owed⟩
    · cases hit
  | _ => cases completes

/-- What a holder can find first: an event of his kind that his pattern accepted, an error that was
meant for him, or nothing because he cancelled the waiter himself. -/
def Completed (answers : Answers) (history : List Act) (hall : Hall) (id : WaiterId) :
    Except WaitError (Option Event) → Prop
  | .ok (some event) => Chose answers history hall id event
  | .ok none => .withdrew id true ∈ history
  | .error reason => Meant history id reason

theorem Reached.completed (reached : Reached answers history hall)
    (step : Step answers hall act next) {result : Except WaitError (Option Event)}
    (completes : act.completion? = some (id, result)) (fresh : ¬ awaited history id) :
    Completed answers history hall id result := by
  obtain ⟨capture, captor, owed⟩ := step.completed reached completes fresh
  rcases result with reason | ⟨⟨⟩⟩ | event
  · exact reached.meant captor owed
  · exact withdrew_of_withdraw ((Capture.result?_none owed).mp rfl ▸ captor)
  · obtain ⟨errand, rfl⟩ := (Capture.result?_event owed event).mp rfl
    obtain ⟨slot, enrolled, named, kind, accepts⟩ := reached.accepted (saw_of_deliver captor)
    exact ⟨slot, errand, enrolled, named, kind, accepts, (reached.claimed_of_deliver captor).1⟩

/-- The first outcome that the holder of a waiter finds is an event of the kind that the waiter was
registered for, which its own pattern accepted when it was offered, or an error that somebody meant
to send, or nothing after he cancelled the waiter himself. It is no error of the queue's own unless
somebody empties the queue with that very error. And as long as somebody waits for an outcome it
was sent, or an errand has won the waiter and will send it, or nobody has won the waiter and it can
still be found.

The kind of a declared type is the one it is named after, and an event has a payload of its own kind
only. -/
theorem completes_as_meant (reached : Reached answers history hall) (id : WaiterId) :
    (∀ earlier act later result, history = earlier ++ act :: later →
      act.completion? = some (id, result) →
      (∀ other ∈ earlier, ∀ outcome, other.completion? ≠ some (id, outcome)) →
      ∃ before, Reached answers earlier before ∧
        (∀ event, result = .ok (some event) →
          ∃ slot errand, Enrolled answers earlier before slot ∧ slot.id = id ∧
            answers slot event .accepts ∧ .offer event ∈ requests earlier errand ∧
            (∃ payload, event.payload? slot.kind = some payload ∧ event = ⟨slot.kind, payload⟩) ∧
            ∀ kind, (event.isKind kind = true ↔ kind = slot.kind) ∧
              ((event.payload? kind).isSome = true ↔ kind = slot.kind)) ∧
        (∀ reason, result = .error reason → Meant earlier id reason ∧
          (reason.isInternal = true →
            ∃ errand closing, .sweep reason closing ∈ requests earlier errand)) ∧
        (result = .ok none → .withdrew id true ∈ earlier)) ∧
    ((hall.holders id).waits →
      (∃ resolution, (id, resolution) ∈ hall.queue.sent ∨ hall.Promised id resolution) ∨
        (id ∉ hall.queue.won ∧ hall.Placed id)) ∧
    ∀ kind : EventKind, EventKind.ofName? kind.name = some kind ∧
      ∀ attributes : List Declaration.Attribute, (∀ mark ∈ attributes, mark.path ≠ ["event"]) →
        Declaration.variant ⟨attributes, true, kind.name ++ "Event", 0⟩ = .ok kind.name := by
  refine ⟨?_, fun waits => reached.attended waits, fun kind =>
    ⟨kind.ofName?_name, fun attributes others => Declaration.variant_of_kind kind others⟩⟩
  rintro earlier act later result rfl completes first
  rw [List.append_cons] at reached
  obtain ⟨after, through, -⟩ := Run.split reached
  obtain ⟨before, run, step⟩ := Run.last through
  have run : Reached answers earlier before := run
  have fresh : ¬ awaited earlier id := fun ⟨outcome, polled⟩ => first _ polled _ rfl
  have completed := run.completed step completes fresh
  refine ⟨before, run, ?_, ?_, ?_⟩
  · rintro event rfl
    obtain ⟨slot, errand, enrolled, named, kind, accepts, offered⟩ := completed
    have own : ∀ other, event.isKind other = true ↔ other = slot.kind := by
      intro other
      rw [event.isKind_iff, kind]
    refine ⟨slot, errand, enrolled, named, accepts, offered, ?_, fun other => ⟨own other, ?_⟩⟩
    · rw [kind]
      exact ⟨event.payload, event.payload?_self, rfl⟩
    · rw [event.payload?_isSome]
      exact own other
  · rintro reason rfl
    exact ⟨completed, fun internal => completed.request_of_internal internal⟩
  · rintro rfl
    exact completed

/-- In the race the third waiter completes with the event that its pattern accepted, although its
deadline has passed. -/
theorem race_completed :
    ∃ hall before slot, Reached evaluated race hall ∧
      Reached evaluated (race.take 18) before ∧
      race[18]? = some (.returned 2 (.waiting (some 0)) (.ok (some raceEvent))) ∧
      Enrolled evaluated (race.take 18) before slot ∧ slot.id = 2 ∧
      evaluated slot raceEvent .accepts ∧ slot.kind = .botOnline := by
  obtain ⟨hall, reached⟩ := race_reached
  obtain ⟨before, run, chosen, -⟩ := (completes_as_meant reached 2).1 (race.take 18)
    (.returned 2 (.waiting (some 0)) (.ok (some raceEvent))) (race.drop 19) _ rfl rfl
    (by simp [race, raceBefore, raceDuring, raceAfter, Act.completion?])
  obtain ⟨slot, errand, enrolled, named, accepts, -, ⟨payload, -, same⟩, -⟩ := chosen raceEvent rfl
  exact ⟨hall, before, slot, reached, run, rfl, enrolled, named, accepts,
    (congrArg Event.kind same).symm⟩

end Hall
end Switchboard
