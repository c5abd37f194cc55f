import Switchboard.Proofs.Waiter.History

set_option autoImplicit false

namespace Switchboard

/-- All that a step can do to the queue. -/
inductive Queue.Effect (queue : Queue) : Act → Queue → Prop
  | same {act : Act} (calm : act.capture? = none) : Effect queue act queue
  | win {act : Act} (id : WaiterId) (capture : Capture) (hit : act.capture? = some (id, capture))
      (free : id ∉ queue.won) : Effect queue act { queue with won := id :: queue.won }
  | clear {act : Act} (calm : act.capture? = none) (slots : List Slot) (closed : Option WaitError)
      (fewer : slots.Sublist queue.slots) :
      Effect queue act { queue with slots := slots, closed := closed }
  | send (errand : ErrandId) (id : WaiterId) (resolution : Resolution) :
      Effect queue (.sent errand id resolution) (queue.send id resolution)
  | forget {act : Act} (calm : act.capture? = none) (id : WaiterId) :
      Effect queue act (queue.forget id)
  | register (kind : EventKind) (pattern : Pattern) (use : Use) :
      Effect queue (.registered queue.nextId kind use none)
        { queue with
          nextId := queue.nextId + 1, slots := queue.slots ++ [⟨queue.nextId, kind, pattern⟩] }
  | refuse (kind : EventKind) (use : Use) (reason : WaitError) :
      Effect queue (.registered queue.nextId kind use (some reason))
        { queue with
          nextId := queue.nextId + 1
          won := queue.nextId :: queue.won
          sent := queue.sent ++ [(queue.nextId, .error reason)] }

theorem Queue.judge_effect {queue next : Queue} {findings found : Findings} {id : WaiterId}
    {verdict : Verdict} {errand : ErrandId} {event : Event}
    (judged : queue.judge findings id verdict = (found, next)) :
    queue.Effect (.saw errand event id (verdict.sight (queue.isWon id))) next := by
  obtain ⟨rfl, -, rfl⟩ | ⟨rfl, free, -, rfl⟩ | ⟨reason, rfl, free, -, rfl⟩ |
    ⟨opposed, taken, -, rfl⟩ := Queue.judge_cases judged
  · exact .same rfl
  · rw [(queue.isWon_eq_false id).mpr free]
    exact .win _ _ rfl free
  · rw [(queue.isWon_eq_false id).mpr free]
    exact .win _ _ rfl free
  · rw [(next.isWon_eq_true id).mpr taken]
    cases verdict with
    | rejects => exact absurd rfl opposed
    | _ => exact .same rfl

namespace Queue.Effect

variable {queue next : Queue} {act : Act}

theorem nextId_le (effect : queue.Effect act next) : queue.nextId ≤ next.nextId := by
  cases effect with
  | register | refuse => exact Nat.le_succ _
  | _ => exact Nat.le_refl _

theorem nextId_of_unregistered (effect : queue.Effect act next) (other : act.registered? = none) :
    next.nextId = queue.nextId := by
  cases effect with
  | register | refuse => cases other
  | _ => rfl

theorem won_eq (effect : queue.Effect act next) :
    next.won = (act.capture?.map Prod.fst).toList ++ queue.won := by
  cases effect with
  | same calm | clear calm | forget calm => rw [calm]; rfl
  | win id capture hit => rw [hit]; rfl
  | _ => rfl

theorem fresh (effect : queue.Effect act next) (numbered : ∀ id ∈ queue.won, id < queue.nextId)
    (id : WaiterId) (capture : Capture) (hit : act.capture? = some (id, capture)) :
    id ∉ queue.won := by
  cases effect with
  | same calm | clear calm | forget calm => exact nomatch hit.symm.trans calm
  | win other capture won free =>
    cases hit.symm.trans won
    exact free
  | refuse =>
    cases hit
    exact fun member => Nat.lt_irrefl _ (numbered _ member)
  | _ => cases hit

/-- A slot that is there was there before, or its waiter was registered just now. -/
theorem slot_cases (effect : queue.Effect act next) {slot : Slot} (member : slot ∈ next.slots) :
    slot ∈ queue.slots ∨
      slot.id = queue.nextId ∧ ∃ use, act = .registered slot.id slot.kind use none := by
  cases effect with
  | clear calm slots closed fewer => exact Or.inl (fewer.subset member)
  | register kind pattern use =>
    rcases List.mem_append.mp member with old | new
    · exact Or.inl old
    · rw [List.mem_singleton.mp new]
      exact Or.inr ⟨rfl, use, rfl⟩
  | _ => exact Or.inl member

theorem sent_cases (effect : queue.Effect act next) {letter : WaiterId × Resolution}
    (member : letter ∈ next.sent) :
    letter ∈ queue.sent ∨ (∃ errand, act = .sent errand letter.1 letter.2) ∨
      ∃ reason, act.capture? = some (letter.1, .refuse reason) ∧ letter.2 = .error reason := by
  cases effect with
  | send errand id resolution =>
    rcases List.mem_append.mp member with old | new
    · exact Or.inl old
    · rw [List.mem_singleton.mp new]
      exact Or.inr (Or.inl ⟨errand, rfl⟩)
  | forget calm id => exact Or.inl ((queue.mem_forget_sent id letter).mp member).1
  | refuse kind use reason =>
    rcases List.mem_append.mp member with old | new
    · exact Or.inl old
    · rw [List.mem_singleton.mp new]
      exact Or.inr (Or.inr ⟨reason, rfl, rfl⟩)
  | _ => exact Or.inl member

theorem ascending (effect : queue.Effect act next)
    (ascending : queue.slots.Pairwise fun first second => first.id < second.id)
    (numbered : ∀ slot ∈ queue.slots, slot.id < queue.nextId) :
    next.slots.Pairwise fun first second => first.id < second.id := by
  cases effect with
  | clear calm slots closed fewer => exact ascending.sublist fewer
  | register kind pattern use =>
    refine List.pairwise_append.mpr ⟨ascending, List.pairwise_singleton _ _, ?_⟩
    intro slot member fresh found
    rw [List.mem_singleton.mp found]
    exact numbered slot member
  | _ => exact ascending

theorem numbered (effect : queue.Effect act next)
    (numbered : ∀ slot ∈ queue.slots, slot.id < queue.nextId) :
    ∀ slot ∈ next.slots, slot.id < next.nextId := by
  cases effect with
  | clear calm slots closed fewer => exact fun slot member => numbered slot (fewer.subset member)
  | register kind pattern use =>
    intro slot member
    rcases List.mem_append.mp member with old | fresh
    · exact Nat.lt_succ_of_lt (numbered slot old)
    · rw [List.mem_singleton.mp fresh]
      exact Nat.lt_succ_self _
  | refuse => exact fun slot member => Nat.lt_succ_of_lt (numbered slot member)
  | _ => exact numbered

end Queue.Effect

/-- The one who has the lock acts on an errand that was asked for, and has the rest of the slots, or
has taken them all. -/
def Lock.Sound (queue : Queue) (errands : ErrandId → ErrandStage) : Lock → Prop
  | .free => True
  | .searching errand event findings rest =>
    errands errand = .asked (.offer event) ∧ rest <:+ queue.slots ∧
      (findings.winner.isSome → rest = [])
  | .consulting errand event findings slot rest =>
    errands errand = .asked (.offer event) ∧ slot :: rest <:+ queue.slots ∧
      findings.winner = none ∧ slot.kind = event.kind
  | .sweeping errand reason closing rest _ =>
    errands errand = .asked (.sweep reason closing) ∧ queue.slots = [] ∧
      ∀ id ∈ rest, id < queue.nextId

def Lock.errand? : Lock → Option ErrandId
  | .free => none
  | .searching errand _ _ _ | .consulting errand _ _ _ _ | .sweeping errand _ _ _ _ => some errand

theorem Lock.Sound.frame {lock : Lock} {queue next : Queue} {errands later : ErrandId → ErrandStage}
    (sound : lock.Sound queue errands)
    (same : ∀ errand, lock.errand? = some errand → later errand = errands errand ∧
      next.slots = queue.slots ∧ next.nextId = queue.nextId) :
    lock.Sound next later := by
  cases lock with
  | free => trivial
  | searching errand event findings rest =>
    obtain ⟨stage, slots, -⟩ := same errand rfl
    obtain ⟨asked, suffix, finished⟩ := sound
    exact ⟨stage.trans asked, slots ▸ suffix, finished⟩
  | consulting errand event findings slot rest =>
    obtain ⟨stage, slots, -⟩ := same errand rfl
    obtain ⟨asked, suffix, blank⟩ := sound
    exact ⟨stage.trans asked, slots ▸ suffix, blank⟩
  | sweeping errand reason closing rest ids =>
    obtain ⟨stage, slots, numbers⟩ := same errand rfl
    obtain ⟨asked, bare, numbered⟩ := sound
    exact ⟨stage.trans asked, slots.trans bare, numbers ▸ numbered⟩

theorem Lock.Sound.asked {lock : Lock} {queue : Queue} {errands : ErrandId → ErrandStage}
    (sound : lock.Sound queue errands) {errand : ErrandId} (held : lock.errand? = some errand) :
    ∃ request, errands errand = .asked request := by
  cases lock <;> cases held <;> exact ⟨_, sound.1⟩

namespace Hall

variable {answers : Answers} {hall next : Hall} {act : Act} {history : List Act}

theorem Step.effect (step : Step answers hall act next) : hall.queue.Effect act next.queue := by
  cases step with
  | register kind pattern use free =>
    simp only [setHolder]
    obtain ⟨closed, same⟩ | ⟨reason, closed, same⟩ := hall.queue.enqueue_cases kind pattern
    · rw [closed, same]
      exact .register kind pattern use
    · rw [closed, same]
      exact .refuse kind use reason
  | judge _ _ _ _ _ _ _ _ _ _ judged => exact Queue.judge_effect judged
  | leaveSearch errand event findings held =>
    simp only [setErrand, Queue.settle_eq]
    exact .clear rfl _ _ List.filter_sublist
  | enterSweep errand reason closing => exact .clear rfl _ _ (List.nil_sublist _)
  | sweep errand reason closing id rest ids won queue held tried =>
    obtain ⟨rfl, free, rfl⟩ | ⟨rfl, -, rfl⟩ := Queue.win_cases tried
    · exact .win _ _ rfl free
    · exact .same rfl
  | send => exact .send _ _ _
  | poll _ _ _ _ _ _ _ found | finish _ _ _ _ _ _ _ found | collect _ _ _ _ _ _ _ found =>
    rcases Ticket.collect_frame found with rfl | rfl
    · exact .same rfl
    · exact .forget rfl _
  | cancel id kind use won queue holding due tried =>
    obtain ⟨rfl, free, rfl⟩ | ⟨rfl, -, rfl⟩ := Queue.win_cases tried
    · exact .win _ _ rfl free
    · exact .same rfl
  | drop id kind use queue holding tried =>
    obtain ⟨-, free, rfl⟩ | ⟨absurd, -, -⟩ := Queue.win_cases tried
    · exact .win _ _ rfl free
    · cases absurd
  | dropLost id kind use queue holding tried =>
    obtain ⟨absurd, -, -⟩ | ⟨-, -, rfl⟩ := Queue.win_cases tried
    · cases absurd
    · exact .forget rfl _
  | dropCollecting => exact .forget rfl _
  | remove id use holding free => exact .clear rfl _ _ List.filter_sublist
  | detach id holding free => exact .clear rfl _ _ List.filter_sublist
  | reopen free => exact .clear rfl _ _ (List.Sublist.refl _)
  | _ => exact .same rfl

theorem Step.registered (step : Step answers hall act next) :
    (act.registered? = some hall.queue.nextId ∧ next.queue.nextId = hall.queue.nextId + 1) ∨
      (act.registered? = none ∧ next.queue.nextId = hall.queue.nextId) := by
  cases found : act.registered? with
  | none => exact Or.inr ⟨rfl, step.effect.nextId_of_unregistered found⟩
  | some id =>
    cases step with
    | register kind pattern =>
      cases found
      exact Or.inl ⟨rfl, hall.queue.enqueue_nextId kind pattern⟩
    | _ => cases found

theorem Reached.registrations (reached : Reached answers history hall) :
    registrations history = List.range hall.queue.nextId := by
  induction reached with
  | nil => rfl
  | snoc run step ih =>
    rw [Hall.registrations, filterMap_snoc, ← Hall.registrations, ih]
    rcases step.registered with ⟨found, numbers⟩ | ⟨found, numbers⟩
    · rw [found, numbers, List.range_succ, Option.toList_some]
    · rw [found, numbers, Option.toList_none, List.append_nil]

structure Orderly (hall : Hall) : Prop where
  ascending : hall.queue.slots.Pairwise fun first second => first.id < second.id
  numbered : ∀ slot ∈ hall.queue.slots, slot.id < hall.queue.nextId
  won : ∀ id ∈ hall.queue.won, id < hall.queue.nextId
  held : ∀ id, hall.holders id ≠ .absent → id < hall.queue.nextId
  lock : hall.lock.Sound hall.queue hall.errands

theorem start_orderly : Orderly start := by
  refine ⟨List.Pairwise.nil, ?_, ?_, ?_, trivial⟩
  · intro slot member
    cases member
  · intro id member
    cases member
  · intro id present
    exact absurd rfl present

theorem Step.capture_numbered (step : Step answers hall act next) (orderly : Orderly hall)
    (id : WaiterId) (capture : Capture) (won : act.capture? = some (id, capture)) :
    id < next.queue.nextId := by
  have lock := orderly.lock
  suffices id < hall.queue.nextId ∨ id < next.queue.nextId from
    this.elim (fun old => Nat.lt_of_lt_of_le old step.effect.nextId_le) fun fresh => fresh
  cases step with
  | register kind pattern use free =>
    obtain ⟨closed, same⟩ | ⟨reason, closed, same⟩ := hall.queue.enqueue_cases kind pattern
    · simp [Act.capture?, closed] at won
    · simp only [Act.capture?, closed, Option.some.injEq, Prod.mk.injEq] at won
      simp only [setHolder, Queue.enqueue_nextId, ← won.1]
      exact Or.inr (Nat.lt_succ_self _)
  | judge errand event findings found slot rest verdict queue held answer judged =>
    rw [held] at lock
    have listed := orderly.numbered slot (lock.2.1.subset (List.mem_cons_self ..))
    generalize verdict.sight (hall.queue.isWon slot.id) = sight at won
    cases sight <;> cases won <;> exact Or.inl listed
  | sweep errand reason closing swept rest ids hit queue held tried =>
    rw [held] at lock
    cases hit <;> cases won
    exact Or.inl (lock.2.2 id (List.mem_cons_self ..))
  | cancel cancelled kind use hit queue holding due tried =>
    cases hit <;> cases won
    exact Or.inl (orderly.held id (by simp [holding]))
  | drop dropped kind use queue holding tried =>
    cases won
    exact Or.inl (orderly.held id (by simp [holding]))
  | _ => cases won

/-- A holder who is present was present before, or has a number that was just given out. -/
theorem Step.holder_numbered (step : Step answers hall act next) (orderly : Orderly hall)
    (id : WaiterId) (present : next.holders id ≠ .absent) : id < next.queue.nextId := by
  suffices hall.holders id ≠ .absent ∨ id < next.queue.nextId from
    this.elim (fun old => Nat.lt_of_lt_of_le (orderly.held id old) step.effect.nextId_le)
      fun fresh => fresh
  have kept : ∀ {hall : Hall} {other : WaiterId} {holder : Holder},
      hall.holders other ≠ .absent → (hall.setHolder other holder).holders id ≠ .absent →
        hall.holders id ≠ .absent := by
    intro hall other holder known present
    by_cases same : id = other
    · exact same ▸ known
    · simpa only [setHolder, Function.update_of_ne same] using present
  cases step with
  | register kind pattern use free =>
    by_cases same : id = hall.queue.nextId
    · simp only [setHolder, Queue.enqueue_nextId, same]
      exact Or.inr (Nat.lt_succ_self _)
    · simp only [setHolder, Function.update_of_ne same] at present
      exact Or.inl present
  | poll _ _ _ _ _ _ holding => exact Or.inl (kept (by simp [holding]) present)
  | finish _ _ _ _ _ _ holding => exact Or.inl (kept (by simp [holding]) present)
  | cancelSettled _ _ holding => exact Or.inl (kept (by simp [holding]) present)
  | cancel _ _ _ _ _ holding => exact Or.inl (kept (by simp [holding]) present)
  | remove _ _ holding => exact Or.inl (kept (by simp [holding]) present)
  | collect _ _ _ _ _ _ holding => exact Or.inl (kept (by simp [holding]) present)
  | dropSettled _ _ _ holding => exact Or.inl (kept (by simp [holding]) present)
  | drop _ _ _ _ holding => exact Or.inl (kept (by simp [holding]) present)
  | dropLost _ _ _ _ holding => exact Or.inl (kept (by simp [holding]) present)
  | dropRemoving _ _ holding => exact Or.inl (kept (by simp [holding]) present)
  | dropCollecting _ _ _ holding => exact Or.inl (kept (by simp [holding]) present)
  | defer _ holding => exact Or.inl (kept (by simp [holding]) present)
  | detach _ holding => exact Or.inl (kept (by rcases holding with it | it <;> simp [it]) present)
  | _ => exact Or.inl present

/-- While an errand has the lock, the steps of all others leave it and the slots as they are. -/
theorem Step.undisturbed (step : Step answers hall act next) {errand : ErrandId}
    (held : hall.lock.errand? = some errand) (other : act.errand? ≠ some errand) :
    next.lock = hall.lock ∧ next.errands errand = hall.errands errand ∧
      next.queue.slots = hall.queue.slots ∧ next.queue.nextId = hall.queue.nextId := by
  have taken : hall.lock ≠ .free := by
    intro free
    rw [free] at held
    cases held
  have apart : ∀ {owner : ErrandId}, some owner ≠ some errand → errand ≠ owner :=
    fun differ same => differ (congrArg some same.symm)
  cases step with
  | register _ _ _ free | enterSearch _ _ free | enterSweep _ _ _ free | remove _ _ _ free
  | detach _ _ free | reopen free => exact absurd free taken
  | passWon _ _ _ _ _ owned | passKind _ _ _ _ _ owned | consult _ _ _ _ _ owned
  | judge _ _ _ _ _ _ _ _ owned | leaveSearch _ _ _ owned | sweep _ _ _ _ _ _ _ _ owned
  | leaveSweep _ _ _ _ owned =>
    rw [owned] at held
    exact absurd held other
  | ask | answer =>
    exact ⟨rfl, Function.update_of_ne (apart other) _ _, rfl, rfl⟩
  | send => exact ⟨rfl, Function.update_of_ne (apart other) _ _, rfl, rfl⟩
  | poll _ _ _ _ _ _ _ found | finish _ _ _ _ _ _ _ found | collect _ _ _ _ _ _ _ found =>
    rcases Ticket.collect_frame found with rfl | rfl <;> exact ⟨rfl, rfl, rfl, rfl⟩
  | cancel _ _ _ _ _ _ _ tried | drop _ _ _ _ _ tried | dropLost _ _ _ _ _ tried =>
    obtain ⟨ids, rfl⟩ := Queue.win_frame tried
    exact ⟨rfl, rfl, rfl, rfl⟩
  | _ => exact ⟨rfl, rfl, rfl, rfl⟩

theorem Step.lock_sound_of_other (step : Step answers hall act next) (orderly : Orderly hall)
    (other : ∀ errand, hall.lock.errand? = some errand → act.errand? ≠ some errand)
    (same : next.lock = hall.lock) : next.lock.Sound next.queue next.errands := by
  rw [same]
  apply orderly.lock.frame
  intro errand held
  obtain ⟨-, stage, slots, numbers⟩ := step.undisturbed held (other errand held)
  exact ⟨stage, slots, numbers⟩

theorem Step.lock_sound (step : Step answers hall act next) (orderly : Orderly hall) :
    next.lock.Sound next.queue next.errands := by
  have lock := orderly.lock
  have other := step.lock_sound_of_other orderly
  cases step with
  | enterSearch errand event free asked =>
    exact ⟨asked, List.suffix_refl _, fun found => absurd found (by simp [Findings.blank])⟩
  | passWon errand event findings slot rest held won =>
    rw [held] at lock
    obtain ⟨asked, suffix, finished⟩ := lock
    exact ⟨asked, (List.suffix_cons slot rest).trans suffix, fun found => nomatch finished found⟩
  | passKind errand event findings slot rest held unwon other =>
    rw [held] at lock
    obtain ⟨asked, suffix, finished⟩ := lock
    exact ⟨asked, (List.suffix_cons slot rest).trans suffix, fun found => nomatch finished found⟩
  | consult errand event findings slot rest held unwon same =>
    rw [held] at lock
    obtain ⟨asked, suffix, finished⟩ := lock
    refine ⟨asked, suffix, ?_, same⟩
    cases winner : findings.winner with
    | none => rfl
    | some id => exact nomatch finished (by rw [winner]; rfl)
  | judge errand event findings found slot rest verdict queue held answer judged =>
    rw [held] at lock
    obtain ⟨asked, suffix, -⟩ := lock
    obtain ⟨ids, rfl⟩ := Queue.judge_frame judged
    refine ⟨asked, ?_, fun finished => by rw [finished]; rfl⟩
    split
    · exact List.nil_suffix
    · exact (List.suffix_cons slot rest).trans suffix
  | enterSweep errand reason closing free asked =>
    refine ⟨asked, rfl, ?_⟩
    intro id member
    obtain ⟨slot, listed, rfl⟩ := List.mem_map.mp member
    exact orderly.numbered slot listed
  | sweep errand reason closing id rest ids won queue held tried =>
    rw [held] at lock
    obtain ⟨asked, bare, numbered⟩ := lock
    obtain ⟨_, rfl⟩ := Queue.win_frame tried
    exact ⟨asked, bare, fun other member => numbered other (List.mem_cons_of_mem _ member)⟩
  | leaveSearch | leaveSweep => trivial
  | ask errand request fresh =>
    apply other _ rfl
    intro owner held same
    obtain ⟨request, asked⟩ := lock.asked held
    cases same
    rw [fresh] at asked
    cases asked
  | send errand request reply id resolution letters telling =>
    apply other _ rfl
    intro owner held same
    obtain ⟨request, asked⟩ := lock.asked held
    cases same
    rw [telling] at asked
    cases asked
  | answer errand request reply telling =>
    apply other _ rfl
    intro owner held same
    obtain ⟨request, asked⟩ := lock.asked held
    cases same
    rw [telling] at asked
    cases asked
  | _ => exact other (fun _ _ => nofun) rfl

theorem Step.orderly (step : Step answers hall act next) (orderly : Orderly hall) :
    Orderly next where
  ascending := step.effect.ascending orderly.ascending orderly.numbered
  numbered := step.effect.numbered orderly.numbered
  won := by
    intro id member
    rw [step.effect.won_eq] at member
    rcases List.mem_append.mp member with fresh | old
    · obtain ⟨pair, won, rfl⟩ := Option.map_eq_some_iff.mp (Option.mem_toList.mp fresh)
      exact step.capture_numbered orderly pair.1 pair.2 won
    · exact Nat.lt_of_lt_of_le (orderly.won id old) step.effect.nextId_le
  held := step.holder_numbered orderly
  lock := step.lock_sound orderly

theorem Reached.orderly (reached : Reached answers history hall) : Orderly hall := by
  induction reached with
  | nil => exact start_orderly
  | snoc run step ih => exact step.orderly ih

end Hall
end Switchboard
