import Switchboard.Proofs.Waiter.Fate

set_option autoImplicit false

namespace Switchboard

def Capture.result? : Capture → Option (Except WaitError (Option Event))
  | .deliver _ event => some (.ok (some event))
  | .fail _ reason => some (.error (.patternFailed reason))
  | .sweep _ reason | .refuse reason => some (.error reason)
  | .withdraw => some (.ok none)
  | .abandon => none

theorem Ticket.read_own (event : Event) : Ticket.read event.kind (.ok event) = .ok event := by
  simp only [Ticket.read, Event.payload?_self]

theorem Capture.result?_of_read {capture : Capture} {resolution : Resolution} {kind : EventKind}
    (owed : capture.resolution? = some resolution)
    (same : ∀ errand event, capture = .deliver errand event → event.kind = kind) :
    capture.result? = some ((Ticket.read kind resolution).map some) := by
  cases capture with
  | deliver errand event =>
    cases owed
    rw [← same errand event rfl, Ticket.read_own]
    rfl
  | fail | sweep | refuse =>
    cases owed
    rfl
  | withdraw | abandon => cases owed

theorem Capture.result?_event {capture : Capture} {result : Except WaitError (Option Event)}
    (returned : capture.result? = some result) (event : Event) :
    result = .ok (some event) ↔ ∃ errand, capture = .deliver errand event := by
  cases capture <;> cases returned <;> simp

theorem Capture.result?_error {capture : Capture} {result : Except WaitError (Option Event)}
    (returned : capture.result? = some result) (reason : WaitError) :
    result = .error reason ↔ capture.resolution? = some (.error reason) := by
  cases capture <;> cases returned <;> simp [resolution?]

theorem Capture.result?_none {capture : Capture} {result : Except WaitError (Option Event)}
    (returned : capture.result? = some result) : result = .ok none ↔ capture = .withdraw := by
  cases capture <;> cases returned <;> simp

theorem Findings.winner_of_letter (findings : Findings) {shown event : Event} {id : WaiterId}
    (owed : (id, .ok event) ∈ findings.letters shown) :
    findings.winner = some id ∧ shown = event := by
  rcases List.mem_append.mp owed with failed | taken
  · obtain ⟨entry, -, same⟩ := List.mem_map.mp failed
    cases same
  · obtain ⟨winner, member, same⟩ := List.mem_map.mp taken
    cases same
    exact ⟨Option.mem_toList.mp member, rfl⟩

namespace Hall

variable {answers : Answers} {hall next : Hall} {act : Act} {history : List Act} {id : WaiterId}

theorem Reached.unlocked_of_letter (reached : Reached answers history hall) {errand : ErrandId}
    {letter : WaiterId × Resolution} (sent : letter ∈ letters history errand) :
    hall.lock.errand? ≠ some errand := by
  intro held
  obtain ⟨request, asked⟩ := reached.orderly.lock.asked held
  have balanced := reached.balanced errand
  simp only [Balanced, asked] at balanced
  rw [balanced.2.2.1] at sent
  cases sent

theorem Reached.clear_of_sent (reached : Reached answers history hall) {resolution : Resolution}
    (sent : (id, resolution) ∈ hall.queue.sent) : ∀ slot ∈ hall.queue.slots, slot.id ≠ id := by
  rintro slot member rfl
  have tracked := reached.tracked
  rcases tracked.sent slot.id resolution sent with ⟨errand, letter⟩ | ⟨reason, captor, -⟩
  · obtain ⟨capture, captor, party, -⟩ := reached.captor_of_letter letter
    rcases tracked.slots slot member capture captor with ⟨owner, won, held⟩ | ⟨won, -⟩
    · rw [party] at won
      cases won
      exact reached.unlocked_of_letter letter held
    · rw [party] at won
      cases won
  · rcases tracked.slots slot member _ captor with ⟨owner, won, -⟩ | ⟨won, -⟩ <;> cases won

theorem Step.clear_kept (step : Step answers hall act next) (known : id ≠ hall.queue.nextId)
    (clear : ∀ slot ∈ hall.queue.slots, slot.id ≠ id) :
    ∀ slot ∈ next.queue.slots, slot.id ≠ id := by
  intro slot member
  rcases step.effect.slot_cases member with old | ⟨fresh, -⟩
  · exact clear slot old
  · exact fun same => known (same.symm.trans fresh)

theorem Reached.unawaited_nextId (reached : Reached answers history hall) :
    ¬ awaited history hall.queue.nextId := by
  have sound := reached.tracked.holders hall.queue.nextId
  rw [reached.orderly.absent] at sound
  exact sound

theorem Reached.clear_of_awaited (reached : Reached answers history hall)
    (polled : awaited history id) : ∀ slot ∈ hall.queue.slots, slot.id ≠ id := by
  induction reached with
  | nil =>
    obtain ⟨result, member⟩ := polled
    cases member
  | @snoc history hall next act run step ih =>
    have reached : Reached answers history hall := run
    by_cases before : awaited history id
    · refine step.clear_kept ?_ (ih before)
      rintro rfl
      exact reached.unawaited_nextId before
    · rcases awaited_snoc_cases polled with old | ⟨result, rfl⟩
      · exact absurd old before
      · cases step with
        | poll _ kind settled _ ticket queue holding found =>
          cases settled with
          | false =>
            obtain ⟨resolution, sent, -, -, rfl⟩ := Ticket.collect_open found
            exact reached.clear_of_sent sent
          | true =>
            have sound := reached.tracked.holders id
            rw [holding] at sound
            exact absurd sound.2.1 before

theorem Step.gone_kept (step : Step answers hall act next) (orderly : Orderly hall)
    (gone : hall.holders id = .gone) : next.holders id = .gone := by
  by_cases own : act.holder? = some id
  · cases step with
    | register =>
      have fresh : hall.queue.nextId = id := Option.some.inj own
      rw [← fresh, orderly.absent] at gone
      cases gone
    | detach _ holding =>
      cases own
      rcases holding with it | it <;> exact nomatch it.symm.trans gone
    | poll _ _ _ _ _ _ holding | finish _ _ _ _ _ _ holding | cancelSettled _ _ holding
    | cancel _ _ _ _ _ holding | remove _ _ holding | collect _ _ _ _ _ _ holding
    | dropSettled _ _ _ holding | drop _ _ _ _ holding | dropLost _ _ _ _ holding
    | dropRemoving _ _ holding | dropCollecting _ _ _ holding | defer _ holding =>
      cases own
      exact nomatch holding.symm.trans gone
    | _ => cases own
  · rw [step.holder_frame own]
    exact gone

/-- What a wait returned agrees with how the waiter was won. -/
structure Concluded (history : List Act) (hall : Hall) (id : WaiterId) (use : Use)
    (result : Except WaitError (Option Event)) : Prop where
  gone : hall.holders id = .gone
  clear : ∀ slot ∈ hall.queue.slots, slot.id ≠ id
  awaited : awaited history id → use = .keeping ∧ result = .ok none
  captor : ¬ Hall.awaited history id → ∃ capture ∈ captors history id, capture.result? = some result

theorem Concluded.snoc {use : Use} {result : Except WaitError (Option Event)}
    (concluded : Concluded history hall id use result) (reached : Reached answers history hall)
    (step : Step answers hall act next) : Concluded (history ++ [act]) next id use result := by
  refine ⟨step.gone_kept reached.orderly concluded.gone, ?_, ?_, ?_⟩
  · have known : id ≠ hall.queue.nextId := by
      rintro rfl
      have absent := reached.orderly.absent
      rw [concluded.gone] at absent
      cases absent
    exact step.clear_kept known concluded.clear
  · intro after
    rcases awaited_snoc_cases after with old | ⟨outcome, rfl⟩
    · exact concluded.awaited old
    · cases step with
      | poll _ _ _ _ _ _ holding => exact nomatch holding.symm.trans concluded.gone
  · intro never
    obtain ⟨capture, captor, same⟩ := concluded.captor fun old => never (awaited_append old _)
    exact ⟨capture, mem_captors_append captor _, same⟩

theorem Reached.captor_of_found (reached : Reached answers history hall) {kind : EventKind}
    {resolution : Resolution} (sent : (id, resolution) ∈ hall.queue.sent)
    (known : (hall.holders id).kind? = some kind) :
    ∃ capture ∈ captors history id,
      capture.result? = some ((Ticket.read kind resolution).map some) := by
  obtain ⟨capture, captor, owed⟩ := reached.tracked.captor_of_sent reached sent
  refine ⟨capture, captor, Capture.result?_of_read owed ?_⟩
  rintro errand event rfl
  exact (reached.tracked.kinds id kind known).2 errand event captor

theorem Step.concluded {use : Use} {result : Except WaitError (Option Event)}
    (step : Step answers hall (.returned id use result) next)
    (reached : Reached answers history hall) :
    Concluded (history ++ [.returned id use result]) next id use result := by
  have sound := reached.tracked.holders id
  have calm : awaited (history ++ [.returned id use result]) id → awaited history id := by
    intro after
    rcases awaited_snoc_cases after with old | ⟨outcome, same⟩
    · exact old
    · cases same
  cases step with
  | finish _ kind deadline outcome ticket queue holding found =>
    obtain ⟨resolution, sent, rfl, -, rfl⟩ := Ticket.collect_open found
    rw [holding] at sound
    refine ⟨Function.update_self .., reached.clear_of_sent sent,
      fun after => absurd (calm after) sound.1, fun _ => ?_⟩
    obtain ⟨capture, captor, same⟩ := reached.captor_of_found sent (by rw [holding]; rfl)
    exact ⟨capture, mem_captors_append captor _, same⟩
  | cancelSettled _ kind holding =>
    rw [holding] at sound
    exact ⟨Function.update_self .., reached.clear_of_awaited sound.2.1, fun _ => ⟨rfl, rfl⟩,
      fun never => absurd (awaited_append sound.2.1 _) never⟩
  | remove _ use holding free =>
    rw [holding] at sound
    refine ⟨Function.update_self .., fun slot member => ?_,
      fun after => absurd (calm after) sound.1,
      fun _ => ⟨.withdraw, mem_captors_append sound.2 _, rfl⟩⟩
    exact ((hall.queue.mem_remove_slots id slot).mp member).2
  | collect _ kind use outcome ticket queue holding found =>
    obtain ⟨resolution, sent, rfl, -, rfl⟩ := Ticket.collect_open found
    rw [holding] at sound
    refine ⟨Function.update_self .., reached.clear_of_sent sent,
      fun after => absurd (calm after) sound.1, fun _ => ?_⟩
    obtain ⟨capture, captor, same⟩ := reached.captor_of_found sent (by rw [holding]; rfl)
    exact ⟨capture, mem_captors_append captor _, same⟩

theorem Reached.concluded (reached : Reached answers history hall) {use : Use}
    {result : Except WaitError (Option Event)} (returned : .returned id use result ∈ history) :
    Concluded history hall id use result := by
  induction reached with
  | nil => cases returned
  | @snoc history hall next act run step ih =>
    rcases List.mem_append.mp returned with old | new
    · exact (ih old).snoc run step
    · obtain rfl := List.mem_singleton.mp new
      exact step.concluded run

/-- An errand that delivered an event was asked to offer it, and answers that it was claimed. -/
theorem Reached.claimed_of_deliver (reached : Reached answers history hall) {errand : ErrandId}
    {event : Event} (captor : .deliver errand event ∈ captors history id) :
    .offer event ∈ requests history errand ∧
      ∀ reply ∈ replies history errand, reply = .claimed := by
  have pledged : (id, .ok event) ∈ pledges history errand := mem_pledges.mpr ⟨_, captor, rfl, rfl⟩
  obtain ⟨request, asked⟩ := reached.requested pledged
  obtain ⟨reply, fits, answered⟩ := reached.owed asked
  cases request with
  | offer shown =>
    obtain ⟨findings, owed, rfl⟩ := fits
    rw [owed] at pledged
    obtain ⟨won, rfl⟩ := findings.winner_of_letter pledged
    refine ⟨asked, ?_⟩
    intro answer member
    rw [(answered answer member).1, Findings.reply, won]
  | sweep reason closing =>
    obtain ⟨ids, owed, -⟩ := fits
    rw [owed] at pledged
    obtain ⟨other, -, same⟩ := List.mem_map.mp pledged
    cases same

/-- What a wait until a deadline or the cancelling of a waiter returns is decided by who won the
waiter: an event if an errand delivered it, an error if its pattern failed or if it was resolved
with the error, and nothing if the cancelling won, or if the outcome had been collected before. -/
theorem returned_by_captor (reached : Reached answers history hall) (use : Use)
    (result : Except WaitError (Option Event)) (returned : .returned id use result ∈ history) :
    (∀ slot ∈ hall.queue.slots, slot.id ≠ id) ∧
      ((∃ outcome, .polled id outcome ∈ history) → use = .keeping ∧ result = .ok none) ∧
      ((∀ outcome, .polled id outcome ∉ history) →
        (∀ event, result = .ok (some event) ↔
          ∃ errand, .deliver errand event ∈ captors history id) ∧
        (∀ reason, result = .error reason ↔
          ∃ capture ∈ captors history id, capture.resolution? = some (.error reason)) ∧
        (result = .ok none ↔ .withdraw ∈ captors history id) ∧
        (result = .ok none → ∀ errand event, .deliver errand event ∉ captors history id)) ∧
      ∀ errand event, .deliver errand event ∈ captors history id →
        .offer event ∈ requests history errand ∧
          ∀ reply ∈ replies history errand, reply = .claimed := by
  have concluded := reached.concluded returned
  refine ⟨concluded.clear, concluded.awaited, ?_, ?_⟩
  · intro never
    obtain ⟨capture, captor, same⟩ :=
      concluded.captor fun ⟨outcome, member⟩ => never outcome member
    have only : ∀ {other : Capture}, other ∈ captors history id ↔ other = capture := by
      intro other
      rw [reached.captors_eq captor, List.mem_singleton]
    refine ⟨?_, ?_, ?_, ?_⟩
    · intro event
      rw [Capture.result?_event same]
      apply exists_congr
      intro errand
      rw [only, eq_comm]
    · intro reason
      rw [Capture.result?_error same]
      constructor
      · intro owed
        exact ⟨capture, captor, owed⟩
      · rintro ⟨other, member, owed⟩
        rw [only.mp member] at owed
        exact owed
    · rw [Capture.result?_none same, only, eq_comm]
    · intro none errand event delivered
      rw [(Capture.result?_none same).mp none] at only
      cases only.mp delivered
  · intro errand event captor
    exact reached.claimed_of_deliver captor

/-- In the race the wait whose deadline passed returns its event, and the cancelling that won
returns nothing. -/
theorem race_returned :
    (∃ hall, Reached evaluated race hall) ∧
      (.returned 2 (.waiting (some 0)) (.ok (some raceEvent)) ∈ race ∧
        ∃ errand, .deliver errand raceEvent ∈ captors race 2) ∧
      (.returned 1 .keeping (.ok none) ∈ race ∧ .withdraw ∈ captors race 1) := by
  obtain ⟨hall, reached⟩ := race_reached
  have taken : .returned 2 (.waiting (some 0)) (.ok (some raceEvent)) ∈ race := by
    simp [race, raceBefore, raceDuring, raceAfter]
  have withdrawn : .returned 1 .keeping (.ok none) ∈ race := by
    simp [race, raceBefore, raceDuring, raceAfter]
  have unpolled : ∀ id outcome, .polled id outcome ∉ race := by
    simp [race, raceBefore, raceDuring, raceAfter]
  obtain ⟨-, -, event, -⟩ := returned_by_captor reached _ _ taken
  obtain ⟨-, -, nothing, -⟩ := returned_by_captor reached _ _ withdrawn
  exact ⟨⟨hall, reached⟩, ⟨taken, ((event (unpolled 2)).1 raceEvent).mp rfl⟩,
    withdrawn, ((nothing (unpolled 1)).2.2.1).mp rfl⟩

end Hall
end Switchboard
