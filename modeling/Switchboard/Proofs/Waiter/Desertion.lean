import Switchboard.Proofs.Waiter.Closing
import Switchboard.Proofs.Waiter.Occupancy

set_option autoImplicit false

namespace Switchboard

theorem Lock.errand?_of_letters {lock : Lock} {errand : ErrandId} {letter : WaiterId × Resolution}
    (owed : letter ∈ lock.letters errand) : lock.errand? = some errand := by
  cases lock with
  | free => cases owed
  | searching owner | consulting owner | sweeping owner =>
    by_cases own : owner = errand
    · rw [own]
      rfl
    · simp only [Lock.letters, own, ↓reduceIte] at owed
      cases owed

namespace Hall

/-- The errand has nothing to send: it waits for the lock, or is answered. -/
def Rests (hall : Hall) (errand : ErrandId) : Prop :=
  ((∃ request, hall.errands errand = .asked request) ∧ hall.lock.errand? ≠ some errand) ∨
    ∃ request reply, hall.errands errand = .answered request reply

/-- The errand has won the waiter and will send this outcome. -/
def PromisedBy (hall : Hall) (errand : ErrandId) (id : WaiterId) (resolution : Resolution) : Prop :=
  (id, resolution) ∈ hall.lock.letters errand ∨
    ∃ request reply rest, hall.errands errand = .telling request reply rest ∧
      (id, resolution) ∈ rest

/-- Nobody is in the queue. Everybody who was let in is won; whoever waits finds the outcome, or an
errand of others has still to send it. Whoever comes is refused at once. -/
structure Deserted (answers : Answers) (history : List Act) (hall : Hall) (own : ErrandId → Prop) :
    Prop where
  empty : hall.queue.slots = []
  won : ∀ id ∈ admitted history, captors history id ≠ []
  told : ∀ id, (hall.holders id).waits →
    (∃ resolution, (id, resolution) ∈ hall.queue.sent) ∨
      ∃ errand resolution, ¬ own errand ∧ hall.PromisedBy errand id resolution
  refusing : ∀ id kind use refusal next,
    Step answers hall (.registered id kind use refusal) next →
      ∃ reason, refusal = some reason ∧ (id, .error reason) ∈ next.queue.sent

/-- Whoever waits and is not won can still be found, and whoever comes is let in. -/
structure Welcoming (answers : Answers) (hall : Hall) : Prop where
  placed : ∀ id, (hall.holders id).waits → id ∉ hall.queue.won → hall.Placed id
  admitting : ∀ id kind use refusal next,
    Step answers hall (.registered id kind use refusal) next →
      refusal = none ∧ ∃ slot ∈ next.queue.slots, slot.id = id ∧ slot.kind = kind

variable {answers : Answers} {hall next : Hall} {act : Act} {history : List Act}
  {errand : ErrandId} {reason : WaitError} {id : WaiterId}

theorem Rests.unpromised (rests : hall.Rests errand) (orderly : Orderly hall)
    (resolution : Resolution) : ¬ hall.PromisedBy errand id resolution := by
  rintro (locked | ⟨request, reply, rest, telling, -⟩)
  · have held := Lock.errand?_of_letters locked
    rcases rests with ⟨-, unlocked⟩ | ⟨request, reply, answered⟩
    · exact unlocked held
    · obtain ⟨request, asked⟩ := orderly.lock.asked held
      cases answered.symm.trans asked
  · rcases rests with ⟨⟨request, asked⟩, -⟩ | ⟨request, reply, answered⟩
    · cases telling.symm.trans asked
    · cases telling.symm.trans answered

theorem Reached.entered_of_told (reached : Reached answers history hall)
    (told : (hall.errands errand).told) : .entered errand ∈ history := by
  obtain ⟨earlier, later, rfl⟩ := List.append_of_mem (reached.left_of_told told)
  rw [List.append_cons] at reached
  obtain ⟨after, before, -⟩ := Run.split reached
  obtain ⟨moment, before, step⟩ := Run.last before
  have held : moment.lock.errand? = some errand := by
    cases step with
    | leaveSearch _ _ _ held | leaveSweep _ _ _ _ held =>
      rw [held]
      rfl
  exact List.mem_append_left _ (Reached.entered_of_held before held)

theorem Reached.shut_of_entered {earlier later : List Act}
    (reached : Reached answers (earlier ++ .entered errand :: later) hall)
    (asked : .sweep reason true ∈ requests (earlier ++ .entered errand :: later) errand)
    (unopened : .reopened ∉ later) : Shut (earlier ++ .entered errand :: later) errand reason := by
  refine ⟨earlier, later, rfl, ?_, unopened⟩
  have sole := reached.requests_eq asked
  rw [List.append_cons] at reached
  obtain ⟨after, before, -⟩ := Run.split reached
  obtain ⟨moment, before, step⟩ := Run.last before
  obtain ⟨request, -, first⟩ := Reached.request_of_enters before step
  have listed : request ∈ requests (earlier ++ .entered errand :: later) errand := by
    rw [requests, List.filterMap_append, ← requests, first]
    exact List.mem_append_left _ (List.mem_singleton_self _)
  rw [sole, List.mem_singleton] at listed
  rw [first, listed]
  exact List.mem_singleton_self _

theorem Reached.closed_of_shut (reached : Reached answers history hall)
    (shut : Shut history errand reason) : hall.queue.closed ≠ none := by
  induction reached with
  | nil => exact absurd shut not_shut_nil
  | @snoc history hall next act run step ih =>
    rcases shut_snoc.mp shut with ⟨rfl, requested⟩ | ⟨stays, before⟩
    · obtain ⟨request, asked, sole⟩ := Reached.request_of_enters run step
      rw [sole, List.mem_singleton] at requested
      subst requested
      rw [step.closed_of_enters asked]
      exact nofun
    · rcases step.closed_cases with ⟨opens, -⟩ | ⟨_, other, -, -, closed, -⟩ | ⟨-, same⟩
      · exact absurd opens stays
      · rw [closed]
        exact nofun
      · rw [same]
        exact ih before

theorem Reached.unswept_of_shut (reached : Reached answers history hall)
    (shut : Shut history errand reason) :
    hall.lock.errand? = some errand ∨ hall.lock.unswept = [] := by
  induction reached with
  | nil => exact absurd shut not_shut_nil
  | @snoc history hall next act run step ih =>
    have reached : Reached answers history hall := run
    rcases shut_snoc.mp shut with ⟨rfl, -⟩ | ⟨-, before⟩
    · cases step <;> exact .inl rfl
    · cases held : next.lock with
      | free | searching | consulting => exact .inr rfl
      | sweeping owner cause closing rest ids =>
        rcases step.sweeping_cases held with ⟨-, -, rfl⟩ | ⟨more, won, former, fewer⟩
        · rw [reached.slots_of_closed (reached.closed_of_shut before)]
          exact .inr rfl
        · rw [former] at ih
          rcases ih before with same | none_left
          · exact .inl same
          · have empty : more = [] := none_left
            rw [empty] at fewer
            exact .inr (List.subset_nil.mp fewer)

/-- A waiter cannot be found in a closed queue once the errand that closed it has given the lock
back. -/
theorem Reached.unplaced_of_shut (reached : Reached answers history hall)
    (shut : Shut history errand reason) (unlocked : hall.lock.errand? ≠ some errand) :
    ¬ hall.Placed id := by
  rintro (⟨slot, member, -⟩ | unswept)
  · rw [reached.slots_of_closed (reached.closed_of_shut shut)] at member
    cases member
  · rcases reached.unswept_of_shut shut with held | none_left
    · exact unlocked held
    · rw [none_left] at unswept
      cases unswept

/-- An errand that was asked to close the queue and is answered has left nobody there. -/
theorem Reached.deserted (reached : Reached answers history hall)
    (shut : Shut history errand reason) (unlocked : hall.lock.errand? ≠ some errand)
    {own : ErrandId → Prop} (rests : ∀ errand, own errand → hall.Rests errand) :
    Deserted answers history hall own := by
  have closed := reached.closed_of_shut shut
  refine ⟨reached.slots_of_closed closed, ?_, ?_, ?_⟩
  · intro id known unwon
    obtain ⟨kind, use, held⟩ := reached.held_of_unwon known unwon
    have waits : (hall.holders id).waits := by
      rw [held]
      trivial
    exact reached.unplaced_of_shut shut unlocked
      (reached.placed waits (reached.unwon_iff.mpr unwon))
  · intro id waits
    rcases reached.attended waits with ⟨resolution, sent | ⟨owner, promised⟩⟩ | ⟨-, placed⟩
    · exact .inl ⟨resolution, sent⟩
    · exact .inr ⟨owner, resolution, fun mine =>
        (rests owner mine).unpromised reached.orderly resolution promised, promised⟩
    · exact absurd placed (reached.unplaced_of_shut shut unlocked)
  · intro id kind use refusal next step
    cases step with
    | register _ pattern =>
      obtain ⟨opened, -⟩ | ⟨cause, refused, same⟩ := hall.queue.enqueue_cases kind pattern
      · exact absurd opened closed
      · refine ⟨cause, refused, ?_⟩
        simp only [setHolder, same]
        exact List.mem_append_right _ (List.mem_singleton_self _)

theorem Reached.welcoming (reached : Reached answers history hall)
    (open_ : ∀ errand reason, ¬ Shut history errand reason) : Welcoming answers hall where
  placed := fun _ waits unwon => reached.placed waits unwon
  admitting := by
    intro id kind use refusal next step
    have admitted : refusal = none := by
      rw [step.registered_cases.1]
      by_contra closed
      obtain ⟨reason, closed⟩ := Option.ne_none_iff_exists'.mp closed
      obtain ⟨errand, shut⟩ := reached.shut_of_closed closed
      exact open_ errand reason shut
    exact ⟨admitted, step.registered_cases.2.2.2 admitted⟩

end Hall
end Switchboard
