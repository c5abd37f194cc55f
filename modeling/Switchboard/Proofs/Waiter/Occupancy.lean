import Mathlib.Data.List.Sort
import Switchboard.Proofs.Waiter.Waiting

set_option autoImplicit false

namespace Switchboard

def Act.admitted? : Act → Option WaiterId
  | .registered id _ _ none => some id
  | _ => none

theorem Act.registered?_of_admitted {act : Act} {id : WaiterId}
    (admitted : act.admitted? = some id) : act.registered? = some id := by
  cases act with
  | registered other kind use refusal =>
    cases refusal <;> cases admitted
    rfl
  | _ => cases admitted

namespace Hall

variable {answers : Answers} {hall next : Hall} {act : Act} {history : List Act} {id : WaiterId}

def admitted (history : List Act) : List WaiterId := history.filterMap Act.admitted?

/-- The waiters that were let in and that nobody has won. -/
def outstanding (history : List Act) : List WaiterId :=
  (admitted history).filter fun id => (captors history id).isEmpty

/-- No operation is under way: nobody has the lock, what was won was sent, and no holder has a slot
still to take out. -/
structure Quiet (hall : Hall) : Prop where
  free : hall.lock = .free
  told : ∀ errand request reply letters,
    hall.errands errand = .telling request reply letters → letters = []
  removed : ∀ id, ¬ (hall.holders id).owesRemoval

theorem admitted_snoc (history : List Act) (act : Act) :
    admitted (history ++ [act]) = admitted history ++ act.admitted?.toList :=
  filterMap_snoc _ _ _

theorem Reached.admitted_ascending (reached : Reached answers history hall) :
    (admitted history).Pairwise (· < ·) := by
  have range : (admitted history).Sublist (Hall.registrations history) :=
    filterMap_sublist (fun _ _ => Act.registered?_of_admitted) history
  rw [reached.registrations] at range
  exact List.pairwise_lt_range.sublist range

theorem mem_outstanding :
    id ∈ outstanding history ↔ id ∈ admitted history ∧ captors history id = [] := by
  simp only [outstanding, List.mem_filter, List.isEmpty_iff]

theorem Reached.admitted_of_slot (reached : Reached answers history hall) {slot : Slot}
    (member : slot ∈ hall.queue.slots) : slot.id ∈ admitted history := by
  induction reached with
  | nil => cases member
  | snoc run step ih =>
    rw [admitted_snoc]
    rcases step.effect.slot_cases member with old | ⟨-, use, rfl⟩
    · exact List.mem_append_left _ (ih old)
    · exact List.mem_append_right _ (List.mem_singleton_self _)

theorem Step.present_kept (step : Step answers hall act next)
    (present : hall.holders id ≠ .absent) : next.holders id ≠ .absent := by
  by_cases own : act.holder? = some id
  · cases step with
    | cancel _ _ _ won =>
      cases own
      cases won <;> simp [setHolder]
    | register | poll | finish | cancelSettled | remove | collect | dropSettled | drop | dropLost
    | dropRemoving | dropCollecting | defer | detach =>
      cases own
      simp [setHolder]
    | _ => cases own
  · rwa [step.holder_frame own]

theorem Reached.present (reached : Reached answers history hall) (known : id ∈ admitted history) :
    hall.holders id ≠ .absent := by
  induction reached with
  | nil => cases known
  | snoc run step ih =>
    rw [admitted_snoc] at known
    rcases List.mem_append.mp known with old | new
    · exact step.present_kept (ih old)
    · have numbered := Act.registered?_of_admitted (Option.mem_toList.mp new)
      cases step with
      | register =>
        cases numbered
        simp [setHolder]
      | _ => cases numbered

/-- A waiter that was let in and that nobody has won is held, and was not resolved. -/
theorem Reached.held_of_unwon (reached : Reached answers history hall)
    (known : id ∈ admitted history) (unwon : captors history id = []) :
    ∃ kind use, hall.holders id = .holding kind false use := by
  have present := reached.present known
  have sound := reached.tracked.holders id
  cases holder : hall.holders id with
  | absent => exact absurd holder present
  | holding kind settled use =>
    cases settled with
    | false => exact ⟨kind, use, rfl⟩
    | true =>
      rw [holder] at sound
      exact absurd unwon sound.2.2
  | gone =>
    rw [holder] at sound
    exact absurd unwon sound
  | removing use =>
    rw [holder] at sound
    exact absurd unwon (List.ne_nil_of_mem sound.2)
  | collecting kind use =>
    rw [holder] at sound
    obtain ⟨-, capture, captor, -⟩ := sound
    exact absurd unwon (List.ne_nil_of_mem captor)
  | leaving | deferred =>
    rw [holder] at sound
    obtain ⟨capture, captor, -⟩ := sound
    exact absurd unwon (List.ne_nil_of_mem captor)

theorem Reached.unwon_iff (reached : Reached answers history hall) :
    id ∉ hall.queue.won ↔ captors history id = [] := by
  rw [reached.mem_won, List.eq_nil_iff_forall_not_mem]
  exact not_exists

/-- While nobody has the lock, a waiter that was let in and that nobody has won has its slot. -/
theorem Reached.slot_of_unwon (reached : Reached answers history hall) (free : hall.lock = .free)
    (known : id ∈ admitted history) (unwon : captors history id = []) :
    ∃ slot ∈ hall.queue.slots, slot.id = id := by
  obtain ⟨kind, use, held⟩ := reached.held_of_unwon known unwon
  have waits : (hall.holders id).waits := by
    rw [held]
    trivial
  rcases reached.placed waits (reached.unwon_iff.mpr unwon) with slot | unswept
  · exact slot
  · rw [free] at unswept
    cases unswept

theorem Reached.unwon_slots (reached : Reached answers history hall) (free : hall.lock = .free) :
    (hall.queue.slots.filter fun slot => !hall.queue.isWon slot.id).map Slot.id =
      outstanding history := by
  have ascending : ((hall.queue.slots.filter fun slot => !hall.queue.isWon slot.id).map
      Slot.id).Pairwise (· < ·) :=
    List.pairwise_map.mpr (reached.orderly.ascending.sublist List.filter_sublist)
  refine ascending.eq_of_mem_iff (reached.admitted_ascending.sublist List.filter_sublist) ?_
  intro id
  simp only [mem_outstanding, List.mem_map, List.mem_filter, Bool.not_eq_true',
    Queue.isWon_eq_false]
  constructor
  · rintro ⟨slot, ⟨member, unwon⟩, rfl⟩
    exact ⟨reached.admitted_of_slot member, reached.unwon_iff.mp unwon⟩
  · rintro ⟨known, unwon⟩
    obtain ⟨slot, member, rfl⟩ := reached.slot_of_unwon free known unwon
    exact ⟨slot, ⟨member, reached.unwon_iff.mpr unwon⟩, rfl⟩

/-- While nobody has the lock, a waiter that is won and has a slot was won by its holder, who has
still to take the slot out. -/
theorem Reached.removal_owed (reached : Reached answers history hall) (free : hall.lock = .free)
    {slot : Slot} (member : slot ∈ hall.queue.slots) (won : slot.id ∈ hall.queue.won) :
    (∃ capture ∈ captors history slot.id, capture.party = .holder) ∧
      (hall.holders slot.id).owesRemoval := by
  obtain ⟨capture, captor⟩ := reached.mem_won.mp won
  rcases reached.tracked.slots slot member capture captor with ⟨errand, -, held⟩ | ⟨party, owes⟩
  · rw [free] at held
    cases held
  · exact ⟨⟨capture, captor, party⟩, owes⟩

/-- While nobody has the lock, whoever has a slot to take out can do it, and is gone then. -/
theorem removal_possible (answers : Answers) (free : hall.lock = .free)
    (owes : (hall.holders id).owesRemoval) :
    ∃ act next, act.holder? = some id ∧ Step answers hall act next ∧
      next.queue = hall.queue.remove id ∧ next.holders id = .gone := by
  cases holder : hall.holders id with
  | removing use =>
    exact ⟨_, _, rfl, .remove id use holder free, rfl, Function.update_self ..⟩
  | leaving =>
    exact ⟨_, _, rfl, .detach id (.inl holder) free, rfl, Function.update_self ..⟩
  | deferred =>
    exact ⟨_, _, rfl, .detach id (.inr holder) free, rfl, Function.update_self ..⟩
  | _ =>
    rw [holder] at owes
    exact owes.elim

theorem Quiet.unpromised (quiet : hall.Quiet) (resolution : Resolution) :
    ¬ hall.Promised id resolution := by
  rintro ⟨errand, locked | ⟨request, reply, rest, telling, member⟩⟩
  · rw [quiet.free] at locked
    cases locked
  · rw [quiet.told errand request reply rest telling] at member
    cases member

theorem Reached.unwon_of_slot (reached : Reached answers history hall) (quiet : hall.Quiet)
    {slot : Slot} (member : slot ∈ hall.queue.slots) : slot.id ∉ hall.queue.won := fun won =>
  quiet.removed slot.id (reached.removal_owed quiet.free member won).2

theorem Reached.slots_of_quiet (reached : Reached answers history hall) (quiet : hall.Quiet) :
    hall.queue.slots.map Slot.id = outstanding history := by
  rw [← reached.unwon_slots quiet.free, List.filter_eq_self.mpr]
  intro slot member
  simpa using reached.unwon_of_slot quiet member

theorem Reached.slot_iff_unresolved (reached : Reached answers history hall)
    (quiet : hall.Quiet) :
    (∃ slot ∈ hall.queue.slots, slot.id = id) ↔
      (∃ kind use, hall.holders id = .holding kind false use) ∧
        ∀ resolution, (id, resolution) ∉ hall.queue.sent := by
  constructor
  · rintro ⟨slot, member, rfl⟩
    have unwon := reached.unwon_iff.mp (reached.unwon_of_slot quiet member)
    refine ⟨reached.held_of_unwon (reached.admitted_of_slot member) unwon, ?_⟩
    exact fun resolution sent => reached.tracked.captors_of_sent reached sent unwon
  · rintro ⟨⟨kind, use, held⟩, unsent⟩
    have waits : (hall.holders id).waits := by
      rw [held]
      trivial
    rcases reached.attended waits with ⟨resolution, sent | promised⟩ | ⟨-, slot | unswept⟩
    · exact absurd sent (unsent resolution)
    · exact absurd promised (quiet.unpromised resolution)
    · exact slot
    · rw [quiet.free] at unswept
      cases unswept

/-- Whenever nobody has the lock, the queue counts the waiters that were let in and that nobody has
won, and every other slot is still to be taken out by the holder who won its waiter, who can do so
at once. When nothing is under way, there are no slots but those of the waiters that are held and
not resolved. -/
theorem no_slot_leaks (reached : Reached answers history hall) (free : hall.lock = .free) :
    hall.queue.size = (outstanding history).length ∧
      (∀ slot ∈ hall.queue.slots, slot.id ∈ hall.queue.won →
        (∃ capture ∈ captors history slot.id, capture.party = .holder) ∧
        (hall.holders slot.id).owesRemoval ∧
        ∃ act next, act.holder? = some slot.id ∧ Step answers hall act next ∧
          next.queue = hall.queue.remove slot.id ∧ next.holders slot.id = .gone) ∧
      (hall.Quiet →
        hall.queue.slots.map Slot.id = outstanding history ∧
        ∀ id, (∃ slot ∈ hall.queue.slots, slot.id = id) ↔
          (∃ kind use, hall.holders id = .holding kind false use) ∧
            ∀ resolution, (id, resolution) ∉ hall.queue.sent) := by
  refine ⟨?_, ?_, ?_⟩
  · rw [← reached.unwon_slots free, List.length_map, Queue.size]
  · intro slot member won
    obtain ⟨captured, owes⟩ := reached.removal_owed free member won
    exact ⟨captured, owes, removal_possible answers free owes⟩
  · intro quiet
    exact ⟨reached.slots_of_quiet quiet, fun id => reached.slot_iff_unresolved quiet⟩

/-- Three waiters and an event that none of them takes. While the pattern of the second looks at the
event the first is given up, and its slot is left to a task. The third waits until a deadline. -/
def clearanceBefore : List Act :=
  [.registered 0 .botOnline .keeping none, .registered 1 .botOnline .keeping none,
    .registered 2 .botOnline (.waiting (some 0)) none, .asked 0 (.offer raceEvent), .entered 0,
    .consulted 0 raceEvent 0, .saw 0 raceEvent 0 .rejected, .consulted 0 raceEvent 1,
    .abandoned 0 true, .deferred 0, .saw 0 raceEvent 1 .rejected, .consulted 0 raceEvent 2,
    .saw 0 raceEvent 2 .rejected, .left 0]

/-- The task takes out the first slot, and the third waiter is withdrawn at its deadline. -/
def clearanceAfter : List Act :=
  [.withdrew 2 true, .removed 0, .returned 2 (.waiting (some 0)) (.ok none),
    .answered 0 (.unclaimed raceEvent)]

theorem clearance_reached : ∃ busy quiet, Reached evaluated clearanceBefore busy ∧
    Reached evaluated (clearanceBefore ++ clearanceAfter) quiet ∧ busy.lock = .free ∧
    busy.queue.slots.map Slot.id = [0, 1, 2] ∧ busy.queue.won = [0] ∧ quiet.Quiet := by
  have h0 : Reached evaluated [] start := .nil
  have h1 := h0.snoc (.register .botOnline .never .keeping rfl)
  have h2 := h1.snoc (.register .botOnline .never .keeping rfl)
  have h3 := h2.snoc (.register .botOnline .never (.waiting (some 0)) rfl)
  have h4 := h3.snoc (.ask 0 (.offer raceEvent) rfl)
  have h5 := h4.snoc (.enterSearch 0 raceEvent rfl rfl)
  have h6 := h5.snoc (.consult 0 raceEvent _ _ _ rfl (by decide) rfl)
  have h7 := h6.snoc (.judge 0 raceEvent _ _ _ _ .rejects _ rfl
    (by simp [evaluated, Pattern.evaluate]) rfl)
  have h8 := h7.snoc (.consult 0 raceEvent _ _ _ rfl (by decide) rfl)
  have h9 := h8.snoc (.drop 0 .botOnline .keeping _ rfl rfl)
  have h10 := h9.snoc (.defer 0 rfl)
  have h11 := h10.snoc (.judge 0 raceEvent _ _ _ _ .rejects _ rfl
    (by simp [evaluated, Pattern.evaluate]) rfl)
  have h12 := h11.snoc (.consult 0 raceEvent _ _ _ rfl (by decide) rfl)
  have h13 := h12.snoc (.judge 0 raceEvent _ _ _ _ .rejects _ rfl
    (by simp [evaluated, Pattern.evaluate]) rfl)
  have h14 := h13.snoc (.leaveSearch 0 raceEvent _ rfl)
  have h15 := h14.snoc (.cancel 2 .botOnline (.waiting (some 0)) true _ rfl (by decide) rfl)
  have h16 := h15.snoc (.detach 0 (.inr rfl) rfl)
  have h17 := h16.snoc (.remove 2 (.waiting (some 0)) rfl rfl)
  have h18 := h17.snoc (.answer 0 _ _ rfl)
  refine ⟨_, _, h14, h18, rfl, rfl, rfl, rfl, ?_, ?_⟩
  · intro errand request reply letters telling
    by_cases first : errand = 0
    · subst first
      cases telling
    · simp [setErrand, setHolder, start, first] at telling
  · intro id
    simp only [setErrand, setHolder, Function.update_apply]
    split_ifs <;> exact not_false

/-- Two of the three waiters count while the slot of the first is still to be taken out, and in the
end only the second has a slot. -/
theorem clearance_leaks_nothing : ∃ busy quiet,
    Reached evaluated clearanceBefore busy ∧ busy.lock = .free ∧
    busy.queue.slots.map Slot.id = [0, 1, 2] ∧ busy.queue.size = 2 ∧
    (busy.holders 0).owesRemoval ∧ Reached evaluated (clearanceBefore ++ clearanceAfter) quiet ∧
    quiet.Quiet ∧ quiet.queue.slots.map Slot.id = [1] := by
  obtain ⟨busy, quiet, before, after, free, slots, won, idle⟩ := clearance_reached
  obtain ⟨size, owed, -⟩ := no_slot_leaks before free
  obtain ⟨slot, member, same⟩ : ∃ slot ∈ busy.queue.slots, slot.id = 0 := by
    have listed : 0 ∈ busy.queue.slots.map Slot.id := by simp [slots]
    exact List.mem_map.mp listed
  have owes := (owed slot member (by simp [same, won])).2.1
  rw [same] at owes
  exact ⟨busy, quiet, before, free, slots, size, owes, after, idle,
    ((no_slot_leaks after idle.free).2.2 idle).1⟩

end Hall
end Switchboard
