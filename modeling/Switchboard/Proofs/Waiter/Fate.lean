import Switchboard.Proofs.Waiter.Delivery

set_option autoImplicit false

namespace Switchboard

/-- The holder has won the waiter and has not seen to its slot yet. -/
def Holder.owesRemoval : Holder → Prop
  | .removing _ | .leaving | .deferred => True
  | _ => False

/-- The kind of event that a holder who may still look for the outcome waits for. -/
def Holder.kind? : Holder → Option EventKind
  | .holding kind _ _ | .collecting kind _ => some kind
  | _ => none

def Act.holder? : Act → Option WaiterId
  | .registered id _ _ _ | .polled id _ | .withdrew id _ | .abandoned id _ | .deferred id
  | .removed id | .returned id _ _ => some id
  | _ => none

def Hall.awaited (history : List Act) (id : WaiterId) : Prop :=
  ∃ result, Act.polled id result ∈ history

/-- What a holder does agrees with the ways in which his waiter was won. -/
def Holder.Sound (history : List Act) (id : WaiterId) : Holder → Prop
  | .absent => ¬ Hall.awaited history id
  | .holding _ false _ =>
    ¬ Hall.awaited history id ∧ ∀ capture ∈ Hall.captors history id, capture.party ≠ .holder
  | .holding _ true use =>
    use = .keeping ∧ Hall.awaited history id ∧ Hall.captors history id ≠ []
  | .removing _ => ¬ Hall.awaited history id ∧ .withdraw ∈ Hall.captors history id
  | .collecting _ _ =>
    ¬ Hall.awaited history id ∧ ∃ capture ∈ Hall.captors history id, capture.party ≠ .holder
  | .leaving | .deferred => ∃ capture ∈ Hall.captors history id, capture.party = .holder
  | .gone => Hall.captors history id ≠ []

theorem Findings.mem_leaving_of_letter (findings : Findings) {event : Event} {id : WaiterId}
    {resolution : Resolution} (owed : (id, resolution) ∈ findings.letters event) :
    id ∈ findings.leaving := by
  rcases List.mem_append.mp owed with failed | taken
  · obtain ⟨entry, member, same⟩ := List.mem_map.mp failed
    cases same
    exact List.mem_append_left _ (List.mem_append_right _ (List.mem_map.mpr ⟨entry, member, rfl⟩))
  · obtain ⟨winner, member, same⟩ := List.mem_map.mp taken
    cases same
    exact List.mem_append_right _ member

namespace Hall

variable {answers : Answers} {hall next : Hall} {act : Act} {history : List Act}

theorem Step.holder_frame (step : Step answers hall act next) {id : WaiterId}
    (other : act.holder? ≠ some id) : next.holders id = hall.holders id := by
  have apart : ∀ {owner : WaiterId}, some owner ≠ some id → id ≠ owner :=
    fun differ same => differ (congrArg some same.symm)
  cases step with
  | register | poll | finish | cancelSettled | cancel | remove | collect | dropSettled | drop
  | dropLost | dropRemoving | dropCollecting | defer | detach =>
    exact Function.update_of_ne (apart other) _ _
  | _ => rfl

theorem Step.lock_kept (step : Step answers hall act next) {errand : ErrandId}
    (held : hall.lock.errand? = some errand) (stays : act ≠ .left errand) :
    next.lock.errand? = some errand := by
  by_cases own : act.errand? = some errand
  · cases step with
    | enterSearch _ _ free | enterSweep _ _ _ free =>
      rw [free] at held
      cases held
    | leaveSearch owner | leaveSweep owner =>
      cases own
      exact absurd rfl stays
    | passWon | passKind | consult | judge | sweep =>
      cases own
      rfl
    | ask | send | answer => exact held
    | _ => cases own
  · rw [(step.undisturbed held own).1]
    exact held

theorem captors_snoc_cases {id : WaiterId} {capture : Capture}
    (captor : capture ∈ captors (history ++ [act]) id) :
    capture ∈ captors history id ∨ act.capture? = some (id, capture) := by
  rw [mem_captors, captures_snoc] at captor
  rcases List.mem_append.mp captor with old | new
  · exact Or.inl (mem_captors.mpr old)
  · exact Or.inr (Option.mem_toList.mp new)

theorem captor_of_hit {id : WaiterId} {capture : Capture}
    (hit : act.capture? = some (id, capture)) :
    capture ∈ captors (history ++ [act]) id := by
  rw [mem_captors, captures_snoc, hit]
  exact List.mem_append_right _ (by simp)

theorem holder_of_capture {id : WaiterId} {capture : Capture}
    (hit : act.capture? = some (id, capture)) (bystander : act.holder? ≠ some id) :
    capture.party ≠ .holder := by
  cases act with
  | registered other kind use refusal =>
    cases refusal <;> cases hit
    exact absurd rfl bystander
  | saw errand event other sight => cases sight <;> cases hit <;> nofun
  | swept errand reason other won =>
    cases won <;> cases hit
    nofun
  | withdrew other won =>
    cases won <;> cases hit
    exact absurd rfl bystander
  | abandoned other won =>
    cases won <;> cases hit
    exact absurd rfl bystander
  | _ => cases hit

theorem captors_ne_nil_append {id : WaiterId} (won : captors history id ≠ []) (later : List Act) :
    captors (history ++ later) id ≠ [] := by
  obtain ⟨capture, captor⟩ := List.exists_mem_of_ne_nil _ won
  exact List.ne_nil_of_mem (mem_captors_append captor later)

theorem awaited_append {id : WaiterId} (before : awaited history id) (later : List Act) :
    awaited (history ++ later) id := by
  obtain ⟨result, member⟩ := before
  exact ⟨result, List.mem_append_left _ member⟩

theorem awaited_snoc_cases {id : WaiterId} (after : awaited (history ++ [act]) id) :
    awaited history id ∨ ∃ result, act = .polled id result := by
  obtain ⟨result, member⟩ := after
  rcases List.mem_append.mp member with old | new
  · exact Or.inl ⟨result, old⟩
  · exact Or.inr ⟨result, (List.mem_singleton.mp new).symm⟩

theorem unawaited_snoc {id : WaiterId} (before : ¬ awaited history id)
    (other : ∀ result, act ≠ .polled id result) : ¬ awaited (history ++ [act]) id := by
  intro after
  rcases awaited_snoc_cases after with old | ⟨result, same⟩
  · exact before old
  · exact other result same

theorem holder_sound_frame {holder : Holder} {id : WaiterId} (sound : holder.Sound history id)
    (bystander : act.holder? ≠ some id) : holder.Sound (history ++ [act]) id := by
  have unpolled : ∀ result, act ≠ .polled id result := by
    rintro result rfl
    exact bystander rfl
  cases holder with
  | absent => exact unawaited_snoc sound unpolled
  | holding kind settled use =>
    cases settled with
    | false =>
      refine ⟨unawaited_snoc sound.1 unpolled, ?_⟩
      intro capture captor
      rcases captors_snoc_cases captor with old | hit
      · exact sound.2 capture old
      · exact holder_of_capture hit bystander
    | true =>
      obtain ⟨keeping, polled, won⟩ := sound
      exact ⟨keeping, awaited_append polled _, captors_ne_nil_append won _⟩
  | removing use => exact ⟨unawaited_snoc sound.1 unpolled, mem_captors_append sound.2 _⟩
  | collecting kind use =>
    obtain ⟨open_, capture, captor, party⟩ := sound
    exact ⟨unawaited_snoc open_ unpolled, capture, mem_captors_append captor _, party⟩
  | leaving | deferred =>
    obtain ⟨capture, captor, party⟩ := sound
    exact ⟨capture, mem_captors_append captor _, party⟩
  | gone => exact captors_ne_nil_append sound _

structure Tracked (history : List Act) (hall : Hall) : Prop where
  /-- What was sent to a waiter was sent by an errand or by the one who refused it. -/
  sent : ∀ id resolution, (id, resolution) ∈ hall.queue.sent →
    (∃ errand, (id, resolution) ∈ letters history errand) ∨
      ∃ reason, .refuse reason ∈ captors history id ∧ resolution = .error reason
  /-- The slot of a waiter that is won is about to be taken out. -/
  slots : ∀ slot ∈ hall.queue.slots, ∀ capture ∈ captors history slot.id,
    (∃ errand, capture.party = .errand errand ∧ hall.lock.errand? = some errand) ∨
      capture.party = .holder ∧ (hall.holders slot.id).owesRemoval
  kinds : ∀ id kind, (hall.holders id).kind? = some kind →
    (∀ slot ∈ hall.queue.slots, slot.id = id → slot.kind = kind) ∧
      ∀ errand event, .deliver errand event ∈ captors history id → event.kind = kind
  holders : ∀ id, (hall.holders id).Sound history id

theorem start_tracked : Tracked [] start where
  sent := by
    intro id resolution member
    cases member
  slots := by
    intro slot member
    cases member
  kinds := by
    intro id kind known
    cases known
  holders := by
    rintro id ⟨result, member⟩
    cases member

theorem Reached.captors_nextId (reached : Reached answers history hall) :
    captors history hall.queue.nextId = [] := by
  apply List.eq_nil_iff_forall_not_mem.mpr
  intro capture captor
  exact Nat.lt_irrefl _ (reached.orderly.won _ (reached.mem_won.mpr ⟨capture, captor⟩))

theorem Tracked.captor_of_sent (tracked : Tracked history hall)
    (reached : Reached answers history hall) {id : WaiterId} {resolution : Resolution}
    (sent : (id, resolution) ∈ hall.queue.sent) :
    ∃ capture ∈ captors history id, capture.resolution? = some resolution := by
  rcases tracked.sent id resolution sent with ⟨errand, letter⟩ | ⟨reason, captor, same⟩
  · obtain ⟨capture, captor, -, owed⟩ := reached.captor_of_letter letter
    exact ⟨capture, captor, owed⟩
  · exact ⟨.refuse reason, captor, same ▸ rfl⟩

theorem Tracked.captors_of_sent (tracked : Tracked history hall)
    (reached : Reached answers history hall) {id : WaiterId} {resolution : Resolution}
    (sent : (id, resolution) ∈ hall.queue.sent) : captors history id ≠ [] := by
  obtain ⟨capture, captor, -⟩ := tracked.captor_of_sent reached sent
  exact List.ne_nil_of_mem captor

theorem Step.sent_tracked (step : Step answers hall act next) (tracked : Tracked history hall)
    (id : WaiterId) (resolution : Resolution) (member : (id, resolution) ∈ next.queue.sent) :
    (∃ errand, (id, resolution) ∈ letters (history ++ [act]) errand) ∨
      ∃ reason, .refuse reason ∈ captors (history ++ [act]) id ∧ resolution = .error reason := by
  rcases step.effect.sent_cases member with old | ⟨errand, rfl⟩ | ⟨reason, hit, same⟩
  · rcases tracked.sent id resolution old with ⟨errand, letter⟩ | ⟨reason, captor, same⟩
    · refine Or.inl ⟨errand, ?_⟩
      rw [letters_snoc]
      exact List.mem_append_left _ letter
    · exact Or.inr ⟨reason, mem_captors_append captor _, same⟩
  · refine Or.inl ⟨errand, ?_⟩
    rw [letters_snoc]
    exact List.mem_append_right _ (by simp [Act.letter?])
  · exact Or.inr ⟨reason, captor_of_hit hit, same⟩

/-- A waiter that is won takes part in the search of the one who has the lock, is taken out of the
queue by him, is won by its holder, or is refused just now. -/
theorem Step.capture_cases (step : Step answers hall act next) {id : WaiterId} {capture : Capture}
    (hit : act.capture? = some (id, capture)) :
    (∃ errand, capture.party = .errand errand ∧ next.lock.errand? = some errand) ∨
      (capture.party = .holder ∧ (next.holders id).owesRemoval) ∨ id = hall.queue.nextId := by
  cases step with
  | register kind pattern use free =>
    cases closed : hall.queue.closed with
    | none => simp [Act.capture?, closed] at hit
    | some reason =>
      simp only [Act.capture?, closed, Option.some.injEq, Prod.mk.injEq] at hit
      exact Or.inr (Or.inr hit.1.symm)
  | judge errand event findings found slot rest verdict queue held answer judged =>
    generalize verdict.sight (hall.queue.isWon slot.id) = sight at hit
    cases sight <;> cases hit <;> exact Or.inl ⟨errand, rfl, rfl⟩
  | sweep errand reason closing swept rest ids won queue held tried =>
    cases won <;> cases hit
    exact Or.inl ⟨errand, rfl, rfl⟩
  | cancel cancelled kind use won queue holding due tried =>
    cases won <;> cases hit
    refine Or.inr (Or.inl ⟨rfl, ?_⟩)
    simp [setHolder, Holder.owesRemoval]
  | drop dropped kind use queue holding tried =>
    cases hit
    refine Or.inr (Or.inl ⟨rfl, ?_⟩)
    simp [setHolder, Holder.owesRemoval]
  | _ => cases hit

theorem Orderly.absent (orderly : Orderly hall) :
    hall.holders hall.queue.nextId = .absent := by
  by_contra present
  exact Nat.lt_irrefl _ (orderly.held _ present)

theorem Step.removal_kept (step : Step answers hall act next) (orderly : Orderly hall) {slot : Slot}
    (stays : slot ∈ next.queue.slots) (owes : (hall.holders slot.id).owesRemoval) :
    (next.holders slot.id).owesRemoval := by
  by_cases own : act.holder? = some slot.id
  · cases step with
    | register =>
      have fresh : hall.queue.nextId = slot.id := Option.some.inj own
      rw [← fresh, orderly.absent] at owes
      exact owes.elim
    | remove id use holding free =>
      cases own
      exact absurd rfl ((hall.queue.mem_remove_slots _ slot).mp stays).2
    | detach id holding free =>
      cases own
      exact absurd rfl ((hall.queue.mem_remove_slots _ slot).mp stays).2
    | dropRemoving | defer =>
      cases own
      simp [setHolder, Holder.owesRemoval]
    | poll _ _ _ _ _ _ holding | finish _ _ _ _ _ _ holding | cancelSettled _ _ holding
    | cancel _ _ _ _ _ holding | collect _ _ _ _ _ _ holding | dropSettled _ _ _ holding
    | drop _ _ _ _ holding | dropLost _ _ _ _ holding | dropCollecting _ _ _ holding =>
      cases own
      rw [holding] at owes
      exact owes.elim
    | _ => cases own
  · rw [step.holder_frame own]
    exact owes

/-- When an errand gives the lock back, the slots of the waiters that it won are gone. -/
theorem Reached.left_clears (reached : Reached answers history hall) {errand : ErrandId}
    (step : Step answers hall (.left errand) next) {slot : Slot} (stays : slot ∈ next.queue.slots)
    {capture : Capture} (captor : capture ∈ captors history slot.id) :
    capture.party ≠ .errand errand := by
  intro party
  have lock := reached.orderly.lock
  have balanced := reached.balanced errand
  obtain ⟨resolution, owed⟩ := capture.resolution_of_errand party
  have pledged : (slot.id, resolution) ∈ pledges history errand :=
    mem_pledges.mpr ⟨capture, captor, party, owed⟩
  cases step with
  | leaveSearch _ event findings held =>
    rw [held] at lock
    simp only [Balanced, lock.1, held, Lock.letters, ↓reduceIte] at balanced
    rw [balanced.2.1] at pledged
    simp only [setErrand, Queue.settle_eq, List.mem_filter, decide_eq_true_eq] at stays
    exact stays.2 (findings.mem_leaving_of_letter pledged)
  | leaveSweep _ reason closing ids held =>
    rw [held] at lock
    simp only [setErrand, lock.2.1] at stays
    cases stays

theorem Step.slots_tracked (step : Step answers hall act next)
    (reached : Reached answers history hall) (tracked : Tracked history hall) (slot : Slot)
    (member : slot ∈ next.queue.slots) (capture : Capture)
    (captor : capture ∈ captors (history ++ [act]) slot.id) :
    (∃ errand, capture.party = .errand errand ∧ next.lock.errand? = some errand) ∨
      capture.party = .holder ∧ (next.holders slot.id).owesRemoval := by
  rcases step.effect.slot_cases member with old | ⟨fresh, use, rfl⟩
  · rcases captors_snoc_cases captor with earlier | hit
    · rcases tracked.slots slot old capture earlier with ⟨errand, party, held⟩ | ⟨party, owes⟩
      · -- who gives the lock back takes the slots of the waiters that he won out first
        by_cases leaves : act = .left errand
        · subst leaves
          exact absurd party (reached.left_clears step member earlier)
        · exact Or.inl ⟨errand, party, step.lock_kept held leaves⟩
      · exact Or.inr ⟨party, step.removal_kept reached.orderly member owes⟩
    · rcases step.capture_cases hit with lock | holder | fresh
      · exact Or.inl lock
      · exact Or.inr holder
      · exact absurd (reached.orderly.numbered slot old) (fresh ▸ Nat.lt_irrefl _)
  · rcases captors_snoc_cases captor with earlier | hit
    · rw [fresh, reached.captors_nextId] at earlier
      cases earlier
    · cases hit

/-- The kind of a holder's waiter was its kind before, or it was registered just now. -/
theorem Step.kind_cases (step : Step answers hall act next) {id : WaiterId} {kind : EventKind}
    (known : (next.holders id).kind? = some kind) :
    (hall.holders id).kind? = some kind ∨
      id = hall.queue.nextId ∧ ∃ use refusal, act = .registered id kind use refusal := by
  by_cases own : act.holder? = some id
  · cases step with
    | register kind pattern use free =>
      cases own
      simp only [setHolder, Function.update_self, Holder.kind?, Option.some.injEq] at known
      subst known
      exact Or.inr ⟨rfl, use, _, rfl⟩
    | poll _ _ _ _ _ _ holding =>
      cases own
      simp only [setHolder, Function.update_self] at known
      exact Or.inl (holding ▸ known)
    | cancel _ _ _ won _ holding =>
      cases own
      simp only [setHolder, Function.update_self] at known
      cases won
      · exact Or.inl (holding ▸ known)
      · cases known
    | finish | cancelSettled | remove | collect | dropSettled | drop | dropLost | dropRemoving
    | dropCollecting | defer | detach =>
      cases own
      simp only [setHolder, Function.update_self] at known
      cases known
    | _ => cases own
  · rw [step.holder_frame own] at known
    exact Or.inl known

theorem Step.deliver_cases (step : Step answers hall act next) (orderly : Orderly hall)
    {id : WaiterId} {errand : ErrandId} {event : Event}
    (hit : act.capture? = some (id, .deliver errand event)) :
    ∃ slot ∈ hall.queue.slots, slot.id = id ∧ slot.kind = event.kind := by
  have lock := orderly.lock
  cases step with
  | register =>
    cases closed : hall.queue.closed <;> simp [Act.capture?, closed] at hit
  | judge owner shown findings found slot rest verdict queue held answer judged =>
    rw [held] at lock
    generalize verdict.sight (hall.queue.isWon slot.id) = sight at hit
    cases sight <;> cases hit
    exact ⟨slot, lock.2.1.subset (List.mem_cons_self ..), rfl, lock.2.2.2⟩
  | sweep _ _ _ _ _ _ won => cases won <;> cases hit
  | cancel _ _ _ won => cases won <;> cases hit
  | _ => cases hit

theorem Step.kinds_tracked (step : Step answers hall act next)
    (reached : Reached answers history hall) (tracked : Tracked history hall) (id : WaiterId)
    (kind : EventKind) (known : (next.holders id).kind? = some kind) :
    (∀ slot ∈ next.queue.slots, slot.id = id → slot.kind = kind) ∧
      ∀ errand event, .deliver errand event ∈ captors (history ++ [act]) id →
        event.kind = kind := by
  rcases step.kind_cases known with before | ⟨rfl, use, refusal, rfl⟩
  · obtain ⟨slots, delivered⟩ := tracked.kinds id kind before
    constructor
    · intro slot member same
      rcases step.effect.slot_cases member with old | ⟨fresh, -⟩
      · exact slots slot old same
      · rw [← same, fresh, reached.orderly.absent] at before
        cases before
    · intro errand event captor
      rcases captors_snoc_cases captor with earlier | hit
      · exact delivered errand event earlier
      · obtain ⟨slot, member, same, agrees⟩ := step.deliver_cases reached.orderly hit
        rw [← agrees, slots slot member same]
  · constructor
    · intro slot member same
      rcases step.effect.slot_cases member with old | ⟨-, _, registered⟩
      · exact absurd (reached.orderly.numbered slot old) (same ▸ Nat.lt_irrefl _)
      · exact (Act.registered.inj registered).2.1.symm
    · intro errand event captor
      rcases captors_snoc_cases captor with earlier | hit
      · rw [reached.captors_nextId] at earlier
        cases earlier
      · cases refusal <;> cases hit

theorem Step.holder_tracked (step : Step answers hall act next)
    (reached : Reached answers history hall) (tracked : Tracked history hall) (id : WaiterId) :
    (next.holders id).Sound (history ++ [act]) id := by
  by_cases own : act.holder? = some id
  · have sound := tracked.holders id
    cases step with
    | register kind pattern use free =>
      cases own
      rw [reached.orderly.absent] at sound
      simp only [setHolder, Function.update_self]
      refine ⟨unawaited_snoc sound fun _ => Act.noConfusion, ?_⟩
      intro capture captor
      rcases captors_snoc_cases captor with earlier | hit
      · rw [reached.captors_nextId] at earlier
        cases earlier
      · cases closed : hall.queue.closed with
        | none => simp [Act.capture?, closed] at hit
        | some reason =>
          simp only [Act.capture?, closed, Option.some.injEq, Prod.mk.injEq] at hit
          rw [← hit.2]
          exact Party.noConfusion
    | poll _ kind settled result ticket queue holding found =>
      cases own
      rw [holding] at sound
      simp only [setHolder, Function.update_self]
      have polled : awaited (history ++ [.polled id result]) id :=
        ⟨result, List.mem_append_right _ (List.mem_singleton_self _)⟩
      cases settled with
      | false =>
        obtain ⟨resolution, sent, -, settled, -⟩ := Ticket.collect_open found
        rw [settled]
        exact ⟨rfl, polled, captors_ne_nil_append (tracked.captors_of_sent reached sent) _⟩
      | true =>
        cases found
        exact ⟨rfl, polled, captors_ne_nil_append sound.2.2 _⟩
    | finish _ kind deadline result ticket queue holding found =>
      cases own
      obtain ⟨resolution, sent, -⟩ := Ticket.collect_open found
      simp only [setHolder, Function.update_self]
      exact captors_ne_nil_append (tracked.captors_of_sent reached sent) _
    | cancelSettled _ kind holding =>
      cases own
      rw [holding] at sound
      simp only [setHolder, Function.update_self]
      exact captors_ne_nil_append sound.2.2 _
    | cancel _ kind use won queue holding due tried =>
      cases own
      rw [holding] at sound
      simp only [setHolder, Function.update_self]
      obtain ⟨rfl, -, -⟩ | ⟨rfl, won, -⟩ := Queue.win_cases tried
      · exact ⟨unawaited_snoc sound.1 fun _ => Act.noConfusion, captor_of_hit rfl⟩
      · obtain ⟨capture, captor⟩ := reached.mem_won.mp won
        exact ⟨unawaited_snoc sound.1 fun _ => Act.noConfusion, capture,
          mem_captors_append captor _, sound.2 capture captor⟩
    | remove _ use holding free =>
      cases own
      rw [holding] at sound
      simp only [setHolder, Function.update_self]
      exact captors_ne_nil_append (List.ne_nil_of_mem sound.2) _
    | collect _ kind use result ticket queue holding found =>
      cases own
      obtain ⟨resolution, sent, -⟩ := Ticket.collect_open found
      simp only [setHolder, Function.update_self]
      exact captors_ne_nil_append (tracked.captors_of_sent reached sent) _
    | dropSettled _ kind use holding =>
      cases own
      rw [holding] at sound
      simp only [setHolder, Function.update_self]
      exact captors_ne_nil_append sound.2.2 _
    | drop _ kind use queue holding tried =>
      cases own
      simp only [setHolder, Function.update_self]
      exact ⟨.abandon, captor_of_hit rfl, rfl⟩
    | dropLost _ kind use queue holding tried =>
      cases own
      obtain ⟨absurd, -, -⟩ | ⟨-, won, -⟩ := Queue.win_cases tried
      · cases absurd
      · obtain ⟨capture, captor⟩ := reached.mem_won.mp won
        simp only [setHolder, Function.update_self]
        exact captors_ne_nil_append (List.ne_nil_of_mem captor) _
    | dropRemoving _ use holding =>
      cases own
      rw [holding] at sound
      simp only [setHolder, Function.update_self]
      exact ⟨.withdraw, mem_captors_append sound.2 _, rfl⟩
    | dropCollecting _ kind use holding =>
      cases own
      rw [holding] at sound
      obtain ⟨-, capture, captor, -⟩ := sound
      simp only [setHolder, Function.update_self]
      exact captors_ne_nil_append (List.ne_nil_of_mem captor) _
    | defer _ holding =>
      cases own
      rw [holding] at sound
      obtain ⟨capture, captor, party⟩ := sound
      simp only [setHolder, Function.update_self]
      exact ⟨capture, mem_captors_append captor _, party⟩
    | detach _ holding free =>
      cases own
      have owed : ∃ capture ∈ captors history id, capture.party = .holder := by
        rcases holding with it | it <;> rw [it] at sound <;> exact sound
      obtain ⟨capture, captor, -⟩ := owed
      simp only [setHolder, Function.update_self]
      exact captors_ne_nil_append (List.ne_nil_of_mem captor) _
    | _ => cases own
  · rw [step.holder_frame own]
    exact holder_sound_frame (tracked.holders id) own

theorem Step.tracked (step : Step answers hall act next) (reached : Reached answers history hall)
    (tracked : Tracked history hall) : Tracked (history ++ [act]) next where
  sent := step.sent_tracked tracked
  slots := step.slots_tracked reached tracked
  kinds := step.kinds_tracked reached tracked
  holders := step.holder_tracked reached tracked

theorem Reached.tracked (reached : Reached answers history hall) : Tracked history hall := by
  induction reached with
  | nil => exact start_tracked
  | snoc run step ih => exact step.tracked run ih

end Hall
end Switchboard
