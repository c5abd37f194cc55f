import Switchboard.Proofs.Waiter.Fate

set_option autoImplicit false

namespace Switchboard

/-- The holder waits for the outcome of the waiter, or may come to do so. -/
def Holder.waits : Holder → Prop
  | .holding _ false _ | .collecting _ _ => True
  | _ => False

/-- The waiters whose slots a search is to take out, as far as it has come. -/
def Lock.leaving : Lock → List WaiterId
  | .searching _ _ findings _ | .consulting _ _ findings _ _ => findings.leaving
  | .free | .sweeping .. => []

/-- The waiters that were taken out of the queue and are still to be won. -/
def Lock.unswept : Lock → List WaiterId
  | .sweeping _ _ _ rest _ => rest
  | .free | .searching .. | .consulting .. => []

theorem Queue.Effect.won_grows {queue next : Queue} {act : Act} (effect : queue.Effect act next)
    {id : WaiterId} (won : id ∈ queue.won) : id ∈ next.won := by
  rw [effect.won_eq]
  exact List.mem_append_right _ won

theorem Findings.mem_leaving (findings : Findings) (id : WaiterId) :
    id ∈ findings.leaving ↔
      id ∈ findings.stale ∨ id ∈ findings.failed.map Prod.fst ∨ findings.winner = some id := by
  simp only [leaving, List.mem_append, Option.mem_toList, or_assoc]

namespace Hall

variable {answers : Answers} {hall next : Hall} {act : Act} {history : List Act} {id : WaiterId}

/-- The waiter can still be found: it has its slot, or is about to be swept. -/
def Placed (hall : Hall) (id : WaiterId) : Prop :=
  (∃ slot ∈ hall.queue.slots, slot.id = id) ∨ id ∈ hall.lock.unswept

/-- An errand has won the waiter and will send this outcome. -/
def Promised (hall : Hall) (id : WaiterId) (resolution : Resolution) : Prop :=
  ∃ errand, (id, resolution) ∈ hall.lock.letters errand ∨
    ∃ request reply rest, hall.errands errand = .telling request reply rest ∧
      (id, resolution) ∈ rest

/-- The outcome was sent by an errand or by whoever refused the waiter. -/
def Dispatched (history : List Act) (id : WaiterId) (resolution : Resolution) : Prop :=
  (∃ errand, (id, resolution) ∈ letters history errand) ∨
    ∃ reason, .refuse reason ∈ captors history id ∧ resolution = .error reason

theorem Step.waits_cases (step : Step answers hall act next) (waits : (next.holders id).waits) :
    (hall.holders id).waits ∨
      id = hall.queue.nextId ∧ ∃ kind use, act = .registered id kind use hall.queue.closed := by
  by_cases own : act.holder? = some id
  · cases step with
    | register kind pattern use free =>
      cases own
      exact Or.inr ⟨rfl, kind, use, rfl⟩
    | poll _ kind settled _ _ _ holding found =>
      cases own
      simp only [setHolder, Function.update_self] at waits
      cases settled with
      | false =>
        rw [holding]
        exact Or.inl trivial
      | true =>
        cases found
        exact waits.elim
    | cancel _ _ _ _ _ holding =>
      cases own
      rw [holding]
      exact Or.inl trivial
    | finish | cancelSettled | remove | collect | dropSettled | drop | dropLost | dropRemoving
    | dropCollecting | defer | detach =>
      cases own
      simp only [setHolder, Function.update_self] at waits
      exact waits.elim
    | _ => cases own
  · rw [step.holder_frame own] at waits
    exact Or.inl waits

theorem Step.leaving_won (step : Step answers hall act next)
    (before : ∀ id ∈ hall.lock.leaving, id ∈ hall.queue.won) :
    ∀ id ∈ next.lock.leaving, id ∈ next.queue.won := by
  have still : ∀ id ∈ hall.lock.leaving, id ∈ next.queue.won :=
    fun id member => step.effect.won_grows (before id member)
  intro id member
  cases step with
  | enterSearch => cases member
  | passWon errand event findings slot rest held won =>
    simp only [held, Lock.leaving, Findings.mem_leaving] at still member
    rcases member with stale | other
    · rcases List.mem_append.mp stale with old | new
      · exact still id (Or.inl old)
      · rw [List.mem_singleton.mp new]
        exact won
    · exact still id (Or.inr other)
  | passKind _ _ _ _ _ held | consult _ _ _ _ _ held =>
    rw [held] at still
    exact still id member
  | judge errand event findings found slot rest verdict queue held answer judged =>
    simp only [held, Lock.leaving, Findings.mem_leaving] at still member
    obtain ⟨-, rfl, rfl⟩ | ⟨-, free, rfl, rfl⟩ | ⟨reason, -, free, rfl, rfl⟩ |
      ⟨-, taken, rfl, rfl⟩ := Queue.judge_cases judged
    · exact still id member
    · rcases member with stale | failed | same
      · exact still id (Or.inl stale)
      · exact still id (Or.inr (Or.inl failed))
      · cases same
        exact List.mem_cons_self ..
    · rcases member with stale | failed | same
      · exact still id (Or.inl stale)
      · simp only [Findings.addFailed, List.map_append] at failed
        rcases List.mem_append.mp failed with old | new
        · exact still id (Or.inr (Or.inl old))
        · rw [List.mem_singleton.mp new]
          exact List.mem_cons_self ..
      · exact still id (Or.inr (Or.inr same))
    · rcases member with stale | other
      · rcases List.mem_append.mp stale with old | new
        · exact still id (Or.inl old)
        · rw [List.mem_singleton.mp new]
          exact taken
      · exact still id (Or.inr other)
  | leaveSearch | enterSweep | sweep | leaveSweep => cases member
  | _ => exact still id member

theorem Reached.leaving_won (reached : Reached answers history hall) :
    ∀ id ∈ hall.lock.leaving, id ∈ hall.queue.won := by
  induction reached with
  | nil => exact fun _ member => nomatch member
  | snoc run step ih => exact step.leaving_won ih

/-- A slot is taken out by a search that says so, by a sweep or by the holder who withdrew. -/
theorem Step.slot_kept (step : Step answers hall act next) {slot : Slot}
    (member : slot ∈ hall.queue.slots) :
    slot ∈ next.queue.slots ∨ slot.id ∈ hall.lock.leaving ∨ slot.id ∈ next.lock.unswept ∨
      (hall.holders slot.id).owesRemoval := by
  cases step with
  | register kind pattern use free =>
    obtain ⟨-, same⟩ | ⟨reason, -, same⟩ := hall.queue.enqueue_cases kind pattern
    · simp only [setHolder, same]
      exact Or.inl (List.mem_append_left _ member)
    · simp only [setHolder, same]
      exact Or.inl member
  | judge errand event findings found slot rest verdict queue held answer judged =>
    obtain ⟨ids, rfl⟩ := Queue.judge_frame judged
    exact Or.inl member
  | leaveSearch errand event findings held =>
    by_cases leaves : slot.id ∈ findings.leaving
    · rw [held]
      exact Or.inr (Or.inl leaves)
    · simp only [setErrand, Queue.settle_eq]
      exact Or.inl (List.mem_filter.mpr ⟨member, by simpa using leaves⟩)
  | enterSweep => exact Or.inr (Or.inr (Or.inl (List.mem_map.mpr ⟨slot, member, rfl⟩)))
  | poll _ _ _ _ _ _ _ found | finish _ _ _ _ _ _ _ found | collect _ _ _ _ _ _ _ found =>
    rcases Ticket.collect_frame found with rfl | rfl <;> exact Or.inl member
  | sweep _ _ _ _ _ _ _ _ _ tried | cancel _ _ _ _ _ _ _ tried | drop _ _ _ _ _ tried
  | dropLost _ _ _ _ _ tried =>
    obtain ⟨ids, rfl⟩ := Queue.win_frame tried
    exact Or.inl member
  | remove other use holding free =>
    by_cases own : slot.id = other
    · rw [own, holding]
      exact Or.inr (Or.inr (Or.inr trivial))
    · exact Or.inl ((hall.queue.mem_remove_slots other slot).mpr ⟨member, own⟩)
  | detach other holding free =>
    by_cases own : slot.id = other
    · rw [own]
      refine Or.inr (Or.inr (Or.inr ?_))
      rcases holding with it | it <;> rw [it] <;> trivial
    · exact Or.inl ((hall.queue.mem_remove_slots other slot).mpr ⟨member, own⟩)
  | _ => exact Or.inl member

/-- A waiter that was taken out of the queue by a sweep is won by it, if nobody else has won it. -/
theorem Step.unswept_kept (step : Step answers hall act next) (member : id ∈ hall.lock.unswept) :
    id ∈ next.lock.unswept ∨ id ∈ next.queue.won := by
  cases step with
  | enterSearch _ _ free | enterSweep _ _ _ free =>
    rw [free] at member
    cases member
  | passWon _ _ _ _ _ held | passKind _ _ _ _ _ held | consult _ _ _ _ _ held
  | judge _ _ _ _ _ _ _ _ held | leaveSearch _ _ _ held | leaveSweep _ _ _ _ held =>
    rw [held] at member
    cases member
  | sweep errand reason closing other rest ids won queue held tried =>
    rw [held] at member
    rcases List.mem_cons.mp member with rfl | later
    · obtain ⟨-, -, rfl⟩ | ⟨-, taken, rfl⟩ := Queue.win_cases tried
      · exact Or.inr (List.mem_cons_self ..)
      · exact Or.inr taken
    · exact Or.inl later
  | _ => exact Or.inl member

theorem Step.placed (step : Step answers hall act next) (reached : Reached answers history hall)
    (waits : (hall.holders id).waits) (unwon : id ∉ next.queue.won) (placed : hall.Placed id) :
    next.Placed id := by
  rcases placed with ⟨slot, member, rfl⟩ | unswept
  · rcases step.slot_kept member with kept | leaves | unswept | owes
    · exact Or.inl ⟨slot, kept, rfl⟩
    · exact absurd (step.effect.won_grows (reached.leaving_won slot.id leaves)) unwon
    · exact Or.inr unswept
    · cases holder : hall.holders slot.id <;> rw [holder] at waits owes <;>
        first | exact waits.elim | exact owes.elim
  · rcases step.unswept_kept unswept with kept | won
    · exact Or.inr kept
    · exact absurd won unwon

/-- A waiter that somebody waits for and nobody has won can still be found. -/
theorem Reached.placed (reached : Reached answers history hall) (waits : (hall.holders id).waits)
    (unwon : id ∉ hall.queue.won) : hall.Placed id := by
  induction reached with
  | nil => exact waits.elim
  | @snoc history hall next act run step ih =>
    rcases step.waits_cases waits with before | ⟨rfl, kind, use, rfl⟩
    · have open_ : id ∉ hall.queue.won := fun won => unwon (step.effect.won_grows won)
      exact step.placed run before unwon (ih before open_)
    · cases step with
      | register _ pattern =>
        obtain ⟨-, same⟩ | ⟨reason, -, same⟩ := hall.queue.enqueue_cases kind pattern
        · refine Or.inl ⟨⟨hall.queue.nextId, kind, pattern⟩, ?_, rfl⟩
          simp only [setHolder, same]
          exact List.mem_append_right _ (List.mem_singleton_self _)
        · simp only [setHolder, same] at unwon
          exact absurd (List.mem_cons_self ..) unwon

/-- Only the holder himself takes out what was sent to him, and then he waits no more. -/
theorem Step.sent_kept (step : Step answers hall act next) (waits : (next.holders id).waits)
    {resolution : Resolution} (sent : (id, resolution) ∈ hall.queue.sent) :
    (id, resolution) ∈ next.queue.sent := by
  have forgotten : ∀ {first : Hall} {other : WaiterId} {holder : Holder},
      ((first.setHolder other holder).holders id).waits → ¬ holder.waits →
        (id, resolution) ∈ (hall.queue.forget other).sent := by
    intro first other holder waits idle
    refine (hall.queue.mem_forget_sent other _).mpr ⟨sent, ?_⟩
    rintro rfl
    simp only [setHolder, Function.update_self] at waits
    exact idle waits
  cases step with
  | register kind pattern use free =>
    obtain ⟨-, same⟩ | ⟨reason, -, same⟩ := hall.queue.enqueue_cases kind pattern
    · simp only [setHolder, same]
      exact sent
    · simp only [setHolder, same]
      exact List.mem_append_left _ sent
  | judge errand event findings found slot rest verdict queue held answer judged =>
    obtain ⟨ids, rfl⟩ := Queue.judge_frame judged
    exact sent
  | leaveSearch errand event findings held =>
    simp only [setErrand, Queue.settle_eq]
    exact sent
  | sweep _ _ _ _ _ _ _ _ _ tried | cancel _ _ _ _ _ _ _ tried | drop _ _ _ _ _ tried =>
    obtain ⟨ids, rfl⟩ := Queue.win_frame tried
    exact sent
  | send => exact List.mem_append_left _ sent
  | poll other kind settled result ticket queue holding found =>
    cases settled with
    | false =>
      obtain ⟨-, -, -, settled, rfl⟩ := Ticket.collect_open found
      rw [settled] at waits
      exact forgotten waits not_false
    | true =>
      cases found
      exact sent
  | finish _ _ _ _ _ _ _ found | collect _ _ _ _ _ _ _ found =>
    obtain ⟨-, -, -, -, rfl⟩ := Ticket.collect_open found
    exact forgotten waits not_false
  | dropLost other kind use queue holding tried =>
    obtain ⟨lost, -, -⟩ | ⟨-, -, rfl⟩ := Queue.win_cases tried
    · cases lost
    · exact forgotten waits not_false
  | dropCollecting => exact forgotten waits not_false
  | _ => exact sent

theorem Step.sent_of_dispatched (step : Step answers hall act next) {resolution : Resolution}
    (dispatched : Dispatched (history ++ [act]) id resolution) :
    Dispatched history id resolution ∨ (id, resolution) ∈ next.queue.sent := by
  rcases dispatched with ⟨errand, letter⟩ | ⟨reason, captor, rfl⟩
  · rw [letters_snoc] at letter
    rcases List.mem_append.mp letter with old | new
    · exact Or.inl (Or.inl ⟨errand, old⟩)
    · cases step with
      | send owner request reply other outcome =>
        simp only [Act.letter?, Option.mem_toList, Option.ite_none_right_eq_some,
          Option.some.injEq] at new
        obtain ⟨-, same⟩ := new
        cases same
        exact Or.inr (List.mem_append_right _ (List.mem_singleton_self _))
      | _ => cases new
  · rcases captors_snoc_cases captor with old | hit
    · exact Or.inl (Or.inr ⟨reason, old, rfl⟩)
    · cases step with
      | register kind pattern use free =>
        obtain ⟨closed, same⟩ | ⟨other, closed, same⟩ := hall.queue.enqueue_cases kind pattern
        · simp [Act.capture?, closed] at hit
        · simp only [Act.capture?, closed, Option.some.injEq, Prod.mk.injEq,
            Capture.refuse.injEq] at hit
          obtain ⟨rfl, rfl⟩ := hit
          simp only [setHolder, same]
          exact Or.inr (List.mem_append_right _ (List.mem_singleton_self _))
      | judge _ _ _ _ slot _ verdict =>
        generalize verdict.sight (hall.queue.isWon slot.id) = sight at hit
        cases sight <;> cases hit
      | sweep _ _ _ _ _ _ won => cases won <;> cases hit
      | cancel _ _ _ won => cases won <;> cases hit
      | _ => cases hit

theorem Reached.sent_of_dispatched (reached : Reached answers history hall)
    (waits : (hall.holders id).waits) {resolution : Resolution}
    (dispatched : Dispatched history id resolution) : (id, resolution) ∈ hall.queue.sent := by
  induction reached with
  | nil => exact waits.elim
  | @snoc history hall next act run step ih =>
    have reached : Reached answers history hall := run
    rcases step.sent_of_dispatched dispatched with before | sent
    · rcases step.waits_cases waits with waited | ⟨rfl, -⟩
      · exact step.sent_kept waits (ih waited before)
      · have unwon := reached.captors_nextId
        rcases before with ⟨errand, letter⟩ | ⟨reason, captor, -⟩
        · obtain ⟨capture, captor, -⟩ := reached.captor_of_letter letter
          rw [unwon] at captor
          cases captor
        · rw [unwon] at captor
          cases captor
    · exact sent

theorem Reached.promised_of_pledge (reached : Reached answers history hall) {errand : ErrandId}
    {resolution : Resolution} (owed : (id, resolution) ∈ pledges history errand) :
    (id, resolution) ∈ letters history errand ∨ hall.Promised id resolution := by
  have balanced := reached.balanced errand
  unfold Balanced at balanced
  split at balanced
  · rw [balanced.2.1] at owed
    cases owed
  · rw [balanced.2.1] at owed
    exact Or.inr ⟨errand, Or.inl owed⟩
  · rename_i stage
    rw [balanced.2.1] at owed
    rcases List.mem_append.mp owed with sent | rest
    · exact Or.inl sent
    · exact Or.inr ⟨errand, Or.inr ⟨_, _, _, stage, rest⟩⟩
  · rw [balanced.2.1] at owed
    exact Or.inl owed

/-- Whoever waits for the outcome of his waiter finds it, or somebody has won the waiter and will
send it, or the waiter can still be found. -/
theorem Reached.attended (reached : Reached answers history hall)
    (waits : (hall.holders id).waits) :
    (∃ resolution, (id, resolution) ∈ hall.queue.sent ∨ hall.Promised id resolution) ∨
      (id ∉ hall.queue.won ∧ hall.Placed id) := by
  by_cases won : id ∈ hall.queue.won
  · have sound := reached.tracked.holders id
    obtain ⟨capture, captor⟩ := reached.mem_won.mp won
    have stranger : capture.party ≠ .holder := by
      cases holder : hall.holders id with
      | holding kind settled use =>
        rw [holder] at sound waits
        cases settled with
        | false => exact sound.2 capture captor
        | true => exact waits.elim
      | collecting kind use =>
        rw [holder] at sound
        obtain ⟨-, other, captured, party⟩ := sound
        rw [reached.captor_unique captor captured]
        exact party
      | _ =>
        rw [holder] at waits
        exact waits.elim
    -- who wins a waiter and is not its holder owes it an outcome
    have owed : ∃ resolution, capture.resolution? = some resolution := by
      cases capture <;> first | exact ⟨_, rfl⟩ | exact absurd rfl stranger
    obtain ⟨resolution, owed⟩ := owed
    refine Or.inl ⟨resolution, ?_⟩
    cases party : capture.party with
    | errand errand =>
      have pledged : (id, resolution) ∈ pledges history errand :=
        mem_pledges.mpr ⟨capture, captor, party, owed⟩
      rcases reached.promised_of_pledge pledged with sent | promised
      · exact Or.inl (reached.sent_of_dispatched waits (Or.inl ⟨errand, sent⟩))
      · exact Or.inr promised
    | registrar =>
      cases capture <;> cases party
      cases owed
      exact Or.inl (reached.sent_of_dispatched waits (Or.inr ⟨_, captor, rfl⟩))
    | holder => exact absurd party stranger
  · exact Or.inr ⟨won, reached.placed waits won⟩

end Hall
end Switchboard
