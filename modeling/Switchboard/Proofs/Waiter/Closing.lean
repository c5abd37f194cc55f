import Switchboard.Proofs.Waiter.Search
import Switchboard.Proofs.Waiter.Waiting
import Switchboard.Proofs.Waiter.Withdrawal

set_option autoImplicit false

namespace Switchboard.Hall

/-- The queue was closed by an errand with this reason, and was not opened since. -/
def Shut (history : List Act) (errand : ErrandId) (reason : WaitError) : Prop :=
  ∃ earlier later, history = earlier ++ .entered errand :: later ∧
    .sweep reason true ∈ requests earlier errand ∧ .reopened ∉ later

/-- The turn of a waiter came in a sweep: it was won then, or its holder had won it before. -/
def Swept (before during : List Act) (errand : ErrandId) (reason : WaitError) (id : WaiterId) :
    Prop :=
  ∃ earlier later won, during = earlier ++ .swept errand reason id won :: later ∧
    (won = false → ∃ capture ∈ captors (before ++ earlier) id, capture.party = .holder)

variable {answers : Answers} {hall next first final : Hall} {act : Act}
  {history before during : List Act} {errand : ErrandId} {reason : WaitError} {id : WaiterId}

theorem Step.closed_cases (step : Step answers hall act next) :
    (act = .reopened ∧ next.queue.closed = none) ∨
      (∃ errand reason, act = .entered errand ∧ hall.errands errand = .asked (.sweep reason true) ∧
        next.queue.closed = some reason ∧ next.queue.slots = []) ∨
      (act ≠ .reopened ∧ next.queue.closed = hall.queue.closed) := by
  cases step with
  | reopen => exact .inl ⟨rfl, rfl⟩
  | enterSweep errand reason closing free asked =>
    cases closing with
    | true => exact .inr (.inl ⟨errand, reason, rfl, asked, rfl, rfl⟩)
    | false => exact .inr (.inr ⟨Act.noConfusion, rfl⟩)
  | register kind pattern use free =>
    refine .inr (.inr ⟨Act.noConfusion, ?_⟩)
    obtain ⟨-, same⟩ | ⟨reason, -, same⟩ := hall.queue.enqueue_cases kind pattern <;>
      simp only [setHolder, same]
  | judge errand event findings found slot rest verdict queue held answer judged =>
    obtain ⟨ids, rfl⟩ := Queue.judge_frame judged
    exact .inr (.inr ⟨Act.noConfusion, rfl⟩)
  | leaveSearch errand event findings held =>
    refine .inr (.inr ⟨Act.noConfusion, ?_⟩)
    simp only [setErrand, Queue.settle_eq]
  | poll _ _ _ _ _ _ _ found | finish _ _ _ _ _ _ _ found | collect _ _ _ _ _ _ _ found =>
    rcases Ticket.collect_frame found with rfl | rfl <;>
      exact .inr (.inr ⟨Act.noConfusion, rfl⟩)
  | sweep _ _ _ _ _ _ _ _ _ tried | cancel _ _ _ _ _ _ _ tried | drop _ _ _ _ _ tried
  | dropLost _ _ _ _ _ tried =>
    obtain ⟨ids, rfl⟩ := Queue.win_frame tried
    exact .inr (.inr ⟨Act.noConfusion, rfl⟩)
  | _ => exact .inr (.inr ⟨Act.noConfusion, rfl⟩)

theorem Step.asked_cases (step : Step answers hall act next) {request : Errand}
    (asked : next.errands errand = .asked request) :
    hall.errands errand = .asked request ∨ act = .asked errand request := by
  by_cases own : act.errand? = some errand
  · cases step with
    | ask owner other fresh =>
      cases own
      simp only [setErrand, Function.update_self] at asked
      cases asked
      exact .inr rfl
    | leaveSearch | leaveSweep | send | answer =>
      cases own
      simp only [setErrand, Function.update_self] at asked
      cases asked
    | _ => exact .inl asked
  · rw [(step.errand_frame own).1] at asked
    exact .inl asked

theorem Step.asked_kept (step : Step answers hall act next) {request : Errand}
    (asked : hall.errands errand = .asked request) :
    next.errands errand = .asked request ∨
      (act = .left errand ∧ hall.lock.errand? = some errand) := by
  by_cases own : act.errand? = some errand
  · cases step with
    | ask owner other fresh =>
      cases own
      exact nomatch fresh.symm.trans asked
    | leaveSearch owner event findings held =>
      cases own
      exact .inr ⟨rfl, by rw [held, Lock.errand?]⟩
    | leaveSweep owner reason closing ids held =>
      cases own
      exact .inr ⟨rfl, by rw [held, Lock.errand?]⟩
    | send _ _ _ _ _ _ telling | answer _ _ _ telling =>
      cases own
      exact nomatch telling.symm.trans asked
    | _ => exact .inl asked
  · rw [(step.errand_frame own).1]
    exact .inl asked

theorem Step.closed_of_enters (step : Step answers hall (.entered errand) next)
    (asked : hall.errands errand = .asked (.sweep reason true)) :
    next.queue.closed = some reason := by
  cases step with
  | enterSearch _ _ _ found => exact nomatch asked.symm.trans found
  | enterSweep _ _ _ _ found =>
    cases asked.symm.trans found
    rfl

theorem Step.registered_cases {kind : EventKind} {use : Use} {refusal : Option WaitError}
    (step : Step answers hall (.registered id kind use refusal) next) :
    refusal = hall.queue.closed ∧ hall.lock = .free ∧ next.lock = .free ∧
      (refusal = none → ∃ slot ∈ next.queue.slots, slot.id = id ∧ slot.kind = kind) := by
  cases step with
  | register kind pattern use free =>
    refine ⟨rfl, free, free, ?_⟩
    intro admitted
    obtain ⟨-, same⟩ | ⟨reason, closed, -⟩ := hall.queue.enqueue_cases kind pattern
    · refine ⟨⟨hall.queue.nextId, kind, pattern⟩, ?_, rfl, rfl⟩
      simp only [setHolder, same]
      exact List.mem_append_right _ (List.mem_singleton_self _)
    · cases closed.symm.trans admitted

theorem Reached.number_lt (reached : Reached answers history hall) {kind : EventKind} {use : Use}
    {refusal : Option WaitError} (registered : .registered id kind use refusal ∈ history) :
    id < hall.queue.nextId := by
  have member : id ∈ Hall.registrations history := List.mem_filterMap.mpr ⟨_, registered, rfl⟩
  rw [reached.registrations, List.mem_range] at member
  exact member

theorem Reached.registered_once (reached : Reached answers history hall) {kind other : EventKind}
    {use another : Use} {refusal second : Option WaitError}
    (one : .registered id kind use refusal ∈ history)
    (again : .registered id other another second ∈ history) : refusal = second := by
  induction reached with
  | nil => cases one
  | @snoc history hall next act run step ih =>
    have known : ∀ {kind : EventKind} {use : Use} {refusal : Option WaitError},
        .registered id kind use refusal ∈ history → act.registered? ≠ some id := by
      intro kind use refusal member fresh
      rcases step.registered with ⟨found, -⟩ | ⟨found, -⟩
      · cases fresh.symm.trans found
        exact Nat.lt_irrefl _ (Reached.number_lt run member)
      · cases fresh.symm.trans found
    rcases List.mem_append.mp one with old | new
    · rcases List.mem_append.mp again with old' | new'
      · exact ih old old'
      · cases List.mem_singleton.mp new'
        exact absurd rfl (known old)
    · cases List.mem_singleton.mp new
      rcases List.mem_append.mp again with old' | new'
      · exact absurd rfl (known old')
      · cases List.mem_singleton.mp new'
        rfl

theorem capture_act {capture : Capture} (hit : act.capture? = some (id, capture)) :
    match capture with
    | .deliver errand event => act = .saw errand event id .taken
    | .fail errand reason => ∃ event, act = .saw errand event id (.failed reason)
    | .sweep errand reason => act = .swept errand reason id true
    | .refuse reason => ∃ kind use, act = .registered id kind use (some reason)
    | .withdraw => act = .withdrew id true
    | .abandon => act = .abandoned id true := by
  cases act with
  | registered other kind use refusal =>
    cases refusal <;> cases hit
    exact ⟨kind, use, rfl⟩
  | saw errand event other sight =>
    cases sight <;> cases hit
    · rfl
    · exact ⟨event, rfl⟩
  | swept _ _ _ won | withdrew _ won | abandoned _ won =>
    cases won <;> cases hit
    rfl
  | _ => cases hit

theorem registered_of_refuse (captor : .refuse reason ∈ captors history id) :
    ∃ kind use, .registered id kind use (some reason) ∈ history := by
  obtain ⟨act, member, hit⟩ := List.mem_filterMap.mp (mem_captors.mp captor)
  obtain ⟨kind, use, rfl⟩ := capture_act hit
  exact ⟨kind, use, member⟩

theorem swept_of_sweep (captor : .sweep errand reason ∈ captors history id) :
    .swept errand reason id true ∈ history := by
  obtain ⟨act, member, hit⟩ := List.mem_filterMap.mp (mem_captors.mp captor)
  cases capture_act hit
  exact member

theorem Reached.slots_of_closed (reached : Reached answers history hall)
    (closed : hall.queue.closed ≠ none) : hall.queue.slots = [] := by
  induction reached with
  | nil => rfl
  | snoc run step ih =>
    rcases step.closed_cases with ⟨-, opened⟩ | ⟨_, _, -, -, -, bare⟩ | ⟨-, same⟩
    · exact absurd opened closed
    · exact bare
    · rw [same] at closed
      have bare := ih closed
      refine List.eq_nil_iff_forall_not_mem.mpr ?_
      intro slot member
      rcases step.effect.slot_cases member with old | ⟨-, use, rfl⟩
      · rw [bare] at old
        cases old
      · exact closed step.registered_cases.1.symm

theorem shut_snoc :
    Shut (history ++ [act]) errand reason ↔
      (act = .entered errand ∧ .sweep reason true ∈ requests history errand) ∨
        (act ≠ .reopened ∧ Shut history errand reason) := by
  constructor
  · rintro ⟨earlier, later, split, asked, shut⟩
    cases later using List.reverseRecOn with
    | nil =>
      obtain ⟨rfl, same⟩ := List.append_inj' split rfl
      cases same
      exact .inl ⟨rfl, asked⟩
    | append_singleton later last =>
      rw [← List.cons_append, ← List.append_assoc] at split
      obtain ⟨rfl, same⟩ := List.append_inj' split rfl
      cases same
      rw [List.mem_append, not_or] at shut
      refine .inr ⟨?_, earlier, later, rfl, asked, shut.1⟩
      rintro rfl
      exact shut.2 (List.mem_singleton_self _)
  · rintro (⟨rfl, asked⟩ | ⟨stays, earlier, later, rfl, asked, shut⟩)
    · exact ⟨history, [], rfl, asked, List.not_mem_nil⟩
    · refine ⟨earlier, later ++ [act], by simp, asked, ?_⟩
      intro member
      rcases List.mem_append.mp member with old | new
      · exact shut old
      · exact stays (List.mem_singleton.mp new).symm

theorem not_shut_nil : ¬ Shut [] errand reason := by
  rintro ⟨earlier, later, split, -⟩
  cases earlier <;> cases split

theorem Reached.shut_of_closed (reached : Reached answers history hall)
    (closed : hall.queue.closed = some reason) : ∃ errand, Shut history errand reason := by
  induction reached with
  | nil => cases closed
  | @snoc history hall next act run step ih =>
    rcases step.closed_cases with ⟨-, opened⟩ | ⟨errand, other, rfl, asked, shut, -⟩ | ⟨stays, same⟩
    · exact nomatch opened.symm.trans closed
    · cases shut.symm.trans closed
      have balanced := Reached.balanced run errand
      simp only [Balanced, asked] at balanced
      refine ⟨errand, shut_snoc.mpr (.inl ⟨rfl, ?_⟩)⟩
      rw [balanced.1]
      exact List.mem_singleton_self _
    · obtain ⟨errand, shut⟩ := ih (same.symm.trans closed)
      exact ⟨errand, shut_snoc.mpr (.inr ⟨stays, shut⟩)⟩

/-- A waiter that was refused never has a slot, nobody else decides about it, and whoever waits for
its outcome finds the reason, or was told it. -/
theorem Reached.refused (reached : Reached answers history hall)
    (captor : .refuse reason ∈ captors history id) :
    (∀ slot ∈ hall.queue.slots, slot.id ≠ id) ∧ captors history id = [.refuse reason] ∧
      ((hall.holders id).waits → (id, .error reason) ∈ hall.queue.sent) ∧
      ∀ use result, .returned id use result ∈ history →
        (∀ outcome, .polled id outcome ∉ history) → result = .error reason := by
  refine ⟨?_, reached.captors_eq captor, ?_, ?_⟩
  · rintro slot member rfl
    rcases reached.tracked.slots slot member _ captor with ⟨_, party, -⟩ | ⟨party, -⟩ <;>
      cases party
  · intro waits
    exact reached.sent_of_dispatched waits (.inr ⟨reason, captor, rfl⟩)
  · intro use result returned unpolled
    have never : ¬ awaited history id := fun ⟨outcome, member⟩ => unpolled outcome member
    obtain ⟨capture, other, same⟩ := (reached.concluded returned).captor never
    rw [reached.captor_unique other captor] at same
    exact (Option.some.inj same).symm

/-- Who sweeps had begun to sweep, or begins now with the slots that are there. -/
theorem Step.sweeping_cases {closing : Bool} {rest ids : List WaiterId}
    (step : Step answers hall act next)
    (held : next.lock = .sweeping errand reason closing rest ids) :
    (act = .entered errand ∧ hall.errands errand = .asked (.sweep reason closing) ∧
        rest = hall.queue.slots.map Slot.id) ∨
      ∃ more won, hall.lock = .sweeping errand reason closing more won ∧ rest ⊆ more := by
  cases step with
  | enterSweep owner cause shuts free asked =>
    cases held
    exact .inl ⟨rfl, asked, rfl⟩
  | sweep owner cause shuts other left won hit queue owned tried =>
    cases held
    exact .inr ⟨_, _, owned, List.subset_cons_self _ _⟩
  | enterSearch | passWon | passKind | consult | judge | leaveSearch | leaveSweep => cases held
  | _ => exact .inr ⟨rest, ids, held, List.Subset.refl _⟩

/-- The one who sweeps goes on to the next waiter, or gives the lock back after the last. -/
theorem Step.sweeping_goes_on {closing : Bool} {rest ids : List WaiterId}
    (step : Step answers hall act next) (orderly : Orderly hall)
    (held : hall.lock = .sweeping errand reason closing rest ids) :
    (act = .left errand ∧ rest = []) ∨
      (∃ id others won more, rest = id :: others ∧ act = .swept errand reason id won ∧
        next.lock = .sweeping errand reason closing others more ∧
          (won = false → id ∈ hall.queue.won)) ∨
      (act.errand? ≠ some errand ∧ next.lock = hall.lock) := by
  have owned : hall.lock.errand? = some errand := by rw [held, Lock.errand?]
  by_cases own : act.errand? = some errand
  · have lock := orderly.lock
    rw [held] at lock
    have asked : hall.errands errand = .asked (.sweep reason closing) := lock.1
    cases step with
    | leaveSweep owner cause shuts won found =>
      cases held.symm.trans found
      exact .inl ⟨rfl, rfl⟩
    | sweep owner cause shuts id others won hit queue found tried =>
      cases held.symm.trans found
      refine .inr (.inl ⟨id, others, hit, _, rfl, rfl, rfl, ?_⟩)
      rintro rfl
      obtain ⟨hit, -, -⟩ | ⟨-, taken, -⟩ := Queue.win_cases tried
      · cases hit
      · exact taken
    | ask owner request fresh =>
      cases own
      exact nomatch fresh.symm.trans asked
    | enterSearch _ _ free | enterSweep _ _ _ free => exact nomatch free.symm.trans held
    | passWon _ _ _ _ _ found | passKind _ _ _ _ _ found | consult _ _ _ _ _ found
    | judge _ _ _ _ _ _ _ _ found | leaveSearch _ _ _ found => exact nomatch found.symm.trans held
    | send _ _ _ _ _ _ telling | answer _ _ _ telling =>
      cases own
      exact nomatch telling.symm.trans asked
    | _ => cases own
  · exact .inr (.inr ⟨own, (step.undisturbed owned own).1⟩)

theorem Swept.append (swept : Swept before during errand reason id) (later : List Act) :
    Swept before (during ++ later) errand reason id := by
  obtain ⟨earlier, rest, won, rfl, lost⟩ := swept
  exact ⟨earlier, rest ++ later, won, by simp, lost⟩

/-- As far as a sweep has come: the waiters whose turn is still to come are won by their holders, if
at all. -/
def Sweeping (before during : List Act) (hall : Hall) (errand : ErrandId) (reason : WaitError)
    (all : List WaiterId) : Prop :=
  ∃ closing rest ids, hall.lock = .sweeping errand reason closing rest ids ∧ rest.Nodup ∧
    (∀ id ∈ rest, ∀ capture ∈ captors (before ++ during) id, capture.party = .holder) ∧
    ∀ id ∈ all, id ∈ rest ∨ Swept before during errand reason id

theorem Step.still_holders {closing : Bool} {rest ids : List WaiterId}
    (step : Step answers hall act next) (orderly : Orderly hall)
    (held : hall.lock = .sweeping errand reason closing rest ids) (waiting : id ∈ rest)
    (elsewhere : ∀ capture, capture.party = .errand errand → act.capture? ≠ some (id, capture))
    (lock : next.lock.errand? = some errand)
    (holders : ∀ capture ∈ captors history id, capture.party = .holder) :
    ∀ capture ∈ captors (history ++ [act]) id, capture.party = .holder := by
  intro capture captor
  rcases captors_snoc_cases captor with old | hit
  · exact holders capture old
  · have numbered := orderly.lock
    rw [held] at numbered
    rcases step.capture_cases hit with ⟨owner, party, owned⟩ | ⟨party, -⟩ | fresh
    · cases lock.symm.trans owned
      exact absurd hit (elsewhere capture party)
    · exact party
    · exact absurd (numbered.2.2 id waiting) (fresh ▸ Nat.lt_irrefl _)

theorem Step.sweep_goes_on {all : List WaiterId} (step : Step answers hall act next)
    (reached : Reached answers (before ++ during) hall)
    (sweeping : Sweeping before during hall errand reason all) :
    (act = .left errand ∧ ∀ id ∈ all, Swept before during errand reason id) ∨
      Sweeping before (during ++ [act]) next errand reason all := by
  have orderly := reached.orderly
  obtain ⟨closing, rest, ids, held, distinct, holders, progress⟩ := sweeping
  rcases step.sweeping_goes_on orderly held with
    ⟨rfl, rfl⟩ | ⟨id, others, won, more, rfl, rfl, lock, lost⟩ | ⟨other, same⟩
  · refine .inl ⟨rfl, fun id member => ?_⟩
    rcases progress id member with waiting | swept
    · cases waiting
    · exact swept
  · obtain ⟨absent, distinct⟩ := List.nodup_cons.mp distinct
    refine .inr ⟨closing, others, more, lock, distinct, ?_, ?_⟩
    · intro waiting member
      rw [← List.append_assoc]
      refine step.still_holders orderly held (List.mem_cons_of_mem _ member) ?_ ?_
        (holders waiting (List.mem_cons_of_mem _ member))
      · rintro capture - hit
        cases won <;> cases hit
        exact absent member
      · rw [lock, Lock.errand?]
    · intro pending member
      rcases progress pending member with waiting | swept
      · rcases List.mem_cons.mp waiting with rfl | later
        · refine .inr ⟨during, [], won, rfl, ?_⟩
          intro missed
          obtain ⟨capture, captor⟩ := reached.mem_won.mp (lost missed)
          exact ⟨capture, captor, holders _ List.mem_cons_self capture captor⟩
        · exact .inl later
      · exact .inr (swept.append _)
  · refine .inr ⟨closing, rest, ids, same.trans held, distinct, ?_, ?_⟩
    · intro waiting member
      rw [← List.append_assoc]
      refine step.still_holders orderly held member ?_ ?_ (holders waiting member)
      · intro capture party hit
        exact Act.party_ne_of_errand_ne other hit party
      · rw [same, held, Lock.errand?]
    · intro pending member
      rcases progress pending member with waiting | swept
      · exact .inl waiting
      · exact .inr (swept.append _)

theorem Run.sweep {all : List WaiterId} (run : Run answers first during final)
    (reached : Reached answers before first)
    (sweeping : Sweeping before [] first errand reason all) :
    (.left errand ∉ during ∧ Sweeping before during final errand reason all) ∨
      ∀ id ∈ all, Swept before during errand reason id := by
  induction run with
  | nil => exact .inl ⟨List.not_mem_nil, sweeping⟩
  | @snoc during hall next act run step ih =>
    rcases ih with ⟨stays, sweeping⟩ | swept
    · rcases step.sweep_goes_on (reached.append run) sweeping with ⟨-, swept⟩ | sweeping
      · exact .inr fun id member => (swept id member).append _
      · refine .inl ⟨?_, sweeping⟩
        intro member
        obtain ⟨closing, rest, ids, held, -⟩ := sweeping
        rcases List.mem_append.mp member with old | new
        · exact stays old
        · -- who gives the lock back does not hold it afterwards
          cases List.mem_singleton.mp new
          cases step with
          | leaveSearch | leaveSweep => cases held
    · exact .inr fun id member => (swept id member).append _

/-- Until an errand that sweeps the queue has given the lock back, the turn of every waiter has come
that was in the queue when it took the lock. -/
theorem Run.swept {closing : Bool} (run : Run answers first during final)
    (reached : Reached answers before hall) (enters : Step answers hall (.entered errand) first)
    (asked : .sweep reason closing ∈ requests before errand) (left : .left errand ∈ during) :
    ∀ slot ∈ hall.queue.slots,
      Swept (before ++ [.entered errand]) during errand reason slot.id := by
  obtain ⟨request, stage, sole⟩ := reached.request_of_enters enters
  cases (reached.requests_eq asked).symm.trans sole
  have sweeping : Sweeping (before ++ [.entered errand]) [] first errand reason
      (hall.queue.slots.map Slot.id) := by
    cases enters with
    | enterSearch _ _ _ found => cases stage.symm.trans found
    | enterSweep _ _ _ free found =>
      cases stage.symm.trans found
      refine ⟨closing, _, [], rfl, ?_, ?_, fun id member => .inl member⟩
      · have ascending := reached.orderly.ascending
        exact (List.pairwise_map.mpr ascending).imp Nat.ne_of_lt
      · intro id member capture captor
        obtain ⟨slot, listed, rfl⟩ := List.mem_map.mp member
        rw [List.append_nil] at captor
        rcases captors_snoc_cases captor with old | hit
        · rcases reached.tracked.slots slot listed capture old with ⟨owner, -, held⟩ | ⟨party, -⟩
          · rw [free] at held
            cases held
          · exact party
        · cases hit
  rcases run.sweep (reached.snoc enters) sweeping with ⟨stays, -⟩ | swept
  · exact absurd left stays
  · exact fun slot member => swept slot.id (List.mem_map.mpr ⟨slot, member, rfl⟩)

/-- Whose turn has come was won by the one who sweeps, or by its holder before. -/
theorem Swept.cases (swept : Swept before during errand reason id) :
    .sweep errand reason ∈ captors (before ++ during) id ∨
      ∃ earlier later, during = earlier ++ .swept errand reason id false :: later ∧
        ∃ capture ∈ captors (before ++ earlier) id, capture.party = .holder := by
  obtain ⟨earlier, later, won, rfl, lost⟩ := swept
  cases won with
  | false => exact .inr ⟨earlier, later, rfl, lost rfl⟩
  | true =>
    refine .inl ?_
    rw [List.append_cons, ← List.append_assoc, ← List.append_assoc]
    exact mem_captors_append (captor_of_hit rfl) later

theorem Reached.letter_of_sweep (reached : Reached answers history hall) {request : Errand}
    {reply : Reply} (answered : hall.errands errand = .answered request reply)
    (captor : .sweep errand reason ∈ captors history id) :
    (id, .error reason) ∈ letters history errand := by
  have balanced := reached.balanced errand
  simp only [Balanced, answered] at balanced
  rw [← balanced.2.1]
  exact mem_pledges.mpr ⟨_, captor, rfl, rfl⟩

end Switchboard.Hall
