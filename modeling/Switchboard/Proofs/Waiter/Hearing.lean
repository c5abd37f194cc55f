import Switchboard.Proofs.Waiter.Completion
import Switchboard.Proofs.Waiter.Occupancy
import Switchboard.Proofs.Waiter.Uninterrupted
import Switchboard.Proofs.Waiter.Withdrawal

set_option autoImplicit false

namespace Switchboard

def Holder.use? : Holder → Option Use
  | .holding _ _ use | .removing use | .collecting _ use => some use
  | _ => none

def Act.time? : Act → Option Instant
  | .passed time => some time
  | _ => none

namespace Hall

variable {answers : Answers} {hall next first last : Hall} {act : Act} {past during : List Act}

theorem Step.use_of_withdrew {id : WaiterId} {won : Bool}
    (step : Step answers hall (.withdrew id won) next) :
    (next.holders id).use? = (hall.holders id).use? := by
  cases step with
  | cancel _ kind use won queue holding =>
    rw [holding]
    cases won <;> simp [setHolder, Holder.use?]

theorem Step.not_gone_of_abandoned {id : WaiterId} {won : Bool}
    (step : Step answers hall (.abandoned id won) next) : hall.holders id ≠ .gone := by
  cases step with
  | dropSettled _ _ _ holding | drop _ _ _ _ holding | dropLost _ _ _ _ holding
  | dropRemoving _ _ holding | dropCollecting _ _ _ holding =>
    rw [holding]
    exact Holder.noConfusion

/-- The hall with a waiter that was just registered. -/
def enrol (hall : Hall) (kind : EventKind) (pattern : Pattern) (use : Use) : Hall :=
  { hall with queue := (hall.queue.enqueue kind pattern).2 }.setHolder hall.queue.nextId
    (.holding kind false use)

theorem enrol_holders (hall : Hall) (kind : EventKind) (pattern : Pattern) (use : Use) :
    (hall.enrol kind pattern use).holders hall.queue.nextId = .holding kind false use :=
  Function.update_self ..

/-- The time after what happened. -/
def clock (history : List Act) : Instant := (history.filterMap Act.time?).getLast?.getD 0

theorem Step.now_eq (step : Step answers hall act next) :
    next.now = act.time?.getD hall.now := by
  cases step <;> rfl

theorem Step.now_le (step : Step answers hall act next) : hall.now ≤ next.now := by
  cases step with
  | pass time later => exact later
  | _ => exact Nat.le_refl _

theorem Run.now_le (run : Run answers first during last) : first.now ≤ last.now := by
  induction run with
  | nil => exact Nat.le_refl _
  | snoc run step ih => exact Nat.le_trans ih step.now_le

theorem Reached.clock_eq (reached : Reached answers past hall) : clock past = hall.now := by
  induction reached with
  | nil => rfl
  | @snoc history hall next act run step ih =>
    rw [step.now_eq, ← ih, clock, filterMap_snoc]
    cases act.time? <;> simp [clock]

/-- The queue takes waiters, and nobody is about to empty it. -/
structure Calm (hall : Hall) : Prop where
  open_ : hall.queue.closed = none
  unasked : ∀ errand reason closing, hall.errands errand ≠ .asked (.sweep reason closing)

/-- Nobody asks to empty the queue. -/
def Unswept (acts : List Act) : Prop :=
  ∀ errand reason closing, .asked errand (.sweep reason closing) ∉ acts

theorem Step.calm (step : Step answers hall act next) (calm : hall.Calm)
    (unswept : ∀ errand reason closing, act ≠ .asked errand (.sweep reason closing)) :
    next.Calm where
  open_ := by
    obtain ⟨-, opened⟩ | ⟨errand, reason, -, asked, -⟩ | ⟨-, same⟩ := step.closed_cases
    · exact opened
    · exact absurd asked (calm.unasked errand reason true)
    · exact same.trans calm.open_
  unasked := by
    intro errand reason closing asked
    rcases step.asked_cases asked with before | now
    · exact calm.unasked errand reason closing before
    · exact unswept errand reason closing now

theorem Run.calm (run : Run answers first during last) (calm : first.Calm)
    (unswept : Unswept during) : last.Calm := by
  induction run with
  | nil => exact calm
  | snoc run step ih =>
    have earlier := ih fun errand reason closing among =>
      unswept errand reason closing (List.mem_append_left _ among)
    refine step.calm earlier ?_
    rintro errand reason closing rfl
    exact unswept errand reason closing (List.mem_append_right _ (List.mem_singleton_self _))

theorem Step.not_swept (step : Step answers hall act next) (reached : Reached answers past hall)
    (calm : hall.Calm) (errand : ErrandId) (reason : WaitError) (id : WaiterId) (won : Bool) :
    act ≠ .swept errand reason id won := by
  rintro rfl
  cases step with
  | sweep owner cause closing other rest ids won queue held tried =>
    have sound := reached.orderly.lock
    rw [held] at sound
    exact calm.unasked errand reason closing sound.1

/-- The pattern of a slot accepts or rejects as it is evaluated. -/
def Frank (answers : Answers) (slot : Slot) : Prop :=
  ∀ event verdict, answers slot event verdict → verdict = .ofBool (slot.pattern.accepts event)

/-- How a waiter may be won that is waited for until a deadline: by an event of its kind that its
pattern accepts, or by its holder once the deadline has come. -/
inductive Fair (slot : Slot) (deadline now : Instant) : Capture → Prop
  | deliver (errand : ErrandId) (event : Event) (kind : slot.kind = event.kind)
      (accepts : slot.pattern.accepts event = true) : Fair slot deadline now (.deliver errand event)
  | withdraw (due : deadline ≤ now) : Fair slot deadline now .withdraw

/-- A slot was registered for a wait until a deadline, in a calm queue, and its holder has not given
the waiter up. -/
structure Waiting (slot : Slot) (deadline : Instant) (history : List Act) (hall : Hall) :
    Prop where
  calm : hall.Calm
  admitted : slot.id ∈ admitted history
  alone : ∀ other ∈ hall.queue.slots, other.id = slot.id → other = slot
  use : ∀ use, (hall.holders slot.id).use? = some use → use = .waiting (some deadline)
  fair : ∀ capture ∈ captors history slot.id, Fair slot deadline hall.now capture

section Waiting

variable {slot : Slot} {deadline : Instant} {capture : Capture}

theorem Fair.later {now time : Instant} (fair : Fair slot deadline now capture)
    (later : now ≤ time) : Fair slot deadline time capture := by
  cases fair with
  | deliver errand event kind accepts => exact .deliver errand event kind accepts
  | withdraw due => exact .withdraw (Nat.le_trans due later)

theorem Reached.admitted_lt (reached : Reached answers past hall) {id : WaiterId}
    (known : id ∈ admitted past) : id < hall.queue.nextId := by
  have numbered : id ∈ Hall.registrations past :=
    (filterMap_sublist (fun _ _ => Act.registered?_of_admitted) past).subset known
  rw [reached.registrations, List.mem_range] at numbered
  exact numbered

theorem Waiting.saw_cases (waiting : Waiting slot deadline past hall)
    (reached : Reached answers past hall) (frank : Frank answers slot)
    (step : Step answers hall act next) {errand : ErrandId} {event : Event} {sight : Sight}
    (saw : act = .saw errand event slot.id sight) :
    sight = .won ∨ sight = .otherKind ∨ slot.kind = event.kind ∧
      ∃ won, sight = (Verdict.ofBool (slot.pattern.accepts event)).sight won := by
  cases step with
  | judge owner shown findings found other rest verdict queue held answer judged =>
    obtain ⟨rfl, rfl, same, rfl⟩ := Act.saw.inj saw
    obtain ⟨member, kind⟩ := reached.consulted_slot held
    obtain rfl := waiting.alone other member same
    exact .inr (.inr ⟨kind, _, by rw [frank _ _ answer]⟩)
  | passWon => exact .inl (Act.saw.inj saw).2.2.2.symm
  | passKind => exact .inr (.inl (Act.saw.inj saw).2.2.2.symm)
  | _ => cases saw

theorem Waiting.fair_of_hit (waiting : Waiting slot deadline past hall)
    (reached : Reached answers past hall) (frank : Frank answers slot)
    (step : Step answers hall act next) (kept : ∀ won, act ≠ .abandoned slot.id won)
    (hit : act.capture? = some (slot.id, capture)) : Fair slot deadline hall.now capture := by
  have won := capture_act hit
  cases capture with
  | deliver errand event =>
    obtain saw | saw | ⟨kind, meanwhile, saw⟩ := waiting.saw_cases reached frank step won
    · cases saw
    · cases saw
    · cases accepted : slot.pattern.accepts event with
      | true => exact .deliver errand event kind accepted
      | false =>
        rw [accepted] at saw
        cases saw
  | fail errand reason =>
    obtain ⟨event, won⟩ := won
    obtain saw | saw | ⟨kind, meanwhile, saw⟩ := waiting.saw_cases reached frank step won
    · cases saw
    · cases saw
    · cases accepted : slot.pattern.accepts event <;> rw [accepted] at saw <;>
        cases meanwhile <;> cases saw
  | sweep errand reason => exact (step.not_swept reached waiting.calm _ _ _ _ won).elim
  | refuse reason =>
    obtain ⟨kind, use, rfl⟩ := won
    obtain ⟨fresh, -⟩ | ⟨fresh, -⟩ := step.registered
    · have known := reached.admitted_lt waiting.admitted
      rw [Option.some.inj fresh] at known
      exact (Nat.lt_irrefl _ known).elim
    · cases fresh
  | withdraw =>
    cases step with
    | cancel id kind use hit queue holding due tried =>
      obtain ⟨rfl, rfl⟩ := Act.withdrew.inj won
      obtain rfl := waiting.use use (by rw [holding]; rfl)
      exact .withdraw (by simpa [Use.mayCancel] using due)
    | _ => cases won
  | abandon => exact absurd won (kept true)

theorem Waiting.snoc (waiting : Waiting slot deadline past hall)
    (reached : Reached answers past hall) (frank : Frank answers slot)
    (step : Step answers hall act next)
    (unswept : ∀ errand reason closing, act ≠ .asked errand (.sweep reason closing))
    (kept : ∀ won, act ≠ .abandoned slot.id won) :
    Waiting slot deadline (past ++ [act]) next where
  calm := step.calm waiting.calm unswept
  admitted := by
    rw [admitted_snoc]
    exact List.mem_append_left _ waiting.admitted
  alone := by
    intro other member same
    rcases step.effect.slot_cases member with old | ⟨fresh, -⟩
    · exact waiting.alone other old same
    · have known := reached.admitted_lt waiting.admitted
      rw [← same, fresh] at known
      exact (Nat.lt_irrefl _ known).elim
  use := by
    intro use held
    by_cases own : act.holder? = some slot.id
    · cases step with
      | register =>
        have known := reached.admitted_lt waiting.admitted
        rw [← Option.some.inj own] at known
        exact (Nat.lt_irrefl _ known).elim
      | poll _ _ _ _ _ _ holding =>
        cases own
        cases waiting.use _ (by rw [holding]; rfl)
      | cancel _ _ _ won _ holding =>
        cases own
        cases won <;> simp only [setHolder, Function.update_self] at held <;>
          cases held <;> exact waiting.use _ (by rw [holding]; rfl)
      | finish | cancelSettled | remove | collect | dropSettled | drop | dropLost | dropRemoving
      | dropCollecting | defer | detach =>
        cases own
        simp [setHolder, Holder.use?] at held
      | _ => cases own
    · rw [step.holder_frame own] at held
      exact waiting.use use held
  fair := by
    intro capture captor
    rcases captors_snoc_cases captor with old | hit
    · exact (waiting.fair capture old).later step.now_le
    · exact (waiting.fair_of_hit reached frank step kept hit).later step.now_le

theorem Waiting.run (waiting : Waiting slot deadline past first)
    (reached : Reached answers past first) (frank : Frank answers slot)
    (run : Run answers first during last) (unswept : Unswept during)
    (kept : ∀ won, .abandoned slot.id won ∉ during) :
    Waiting slot deadline (past ++ during) last := by
  induction run with
  | nil =>
    rw [List.append_nil]
    exact waiting
  | @snoc during hall next act run step ih =>
    have earlier := ih (fun errand reason closing among =>
        unswept errand reason closing (List.mem_append_left _ among))
      fun won among => kept won (List.mem_append_left _ among)
    have now : act ∈ during ++ [act] := List.mem_append_right _ (List.mem_singleton_self _)
    rw [← List.append_assoc]
    refine earlier.snoc (reached.append run) frank step ?_ ?_
    · rintro errand reason closing rfl
      exact unswept errand reason closing now
    · rintro won rfl
      exact kept won now

/-- Whoever registers a waiter in a calm queue to wait until a deadline, waits. -/
theorem Reached.waiting_of_register (reached : Reached answers past hall) (calm : hall.Calm)
    (kind : EventKind) (pattern : Pattern) (free : hall.lock = .free) :
    Waiting ⟨hall.queue.nextId, kind, pattern⟩ deadline
      (past ++ [.registered hall.queue.nextId kind (.waiting (some deadline)) none])
      (hall.enrol kind pattern (.waiting (some deadline))) := by
  have step : Step answers hall _ _ := .register kind pattern (.waiting (some deadline)) free
  rw [calm.open_] at step
  obtain ⟨-, same⟩ | ⟨reason, closed, -⟩ := hall.queue.enqueue_cases kind pattern
  · refine ⟨step.calm calm fun _ _ _ => Act.noConfusion, ?_, ?_, ?_, ?_⟩
    · rw [admitted_snoc]
      exact List.mem_append_right _ (List.mem_singleton_self _)
    · intro other member numbered
      simp only [enrol, setHolder, same] at member
      rcases List.mem_append.mp member with old | new
      · have known := reached.orderly.numbered other old
        rw [numbered] at known
        exact (Nat.lt_irrefl _ known).elim
      · exact List.mem_singleton.mp new
    · intro use held
      rw [enrol_holders] at held
      exact (Option.some.inj held).symm
    · intro capture captor
      rcases captors_snoc_cases captor with old | hit
      · rw [reached.captors_nextId] at old
        cases old
      · cases hit
  · cases calm.open_.symm.trans closed

theorem Waiting.delivered (waiting : Waiting slot deadline past hall)
    (early : hall.now < deadline) (won : captors past slot.id ≠ []) :
    ∃ errand event, .deliver errand event ∈ captors past slot.id := by
  obtain ⟨capture, captor⟩ := List.exists_mem_of_ne_nil _ won
  cases waiting.fair capture captor with
  | deliver errand event => exact ⟨errand, event, captor⟩
  | withdraw due => exact absurd early (Nat.not_lt.mpr due)

theorem captor_of_saw {errand : ErrandId} {event : Event} {id : WaiterId}
    (saw : .saw errand event id .taken ∈ past) : .deliver errand event ∈ captors past id :=
  mem_captors.mpr (List.mem_filterMap.mpr ⟨_, saw, rfl⟩)

theorem Seen.mem {before : List Act} {errand : ErrandId} {event : Event} {sight : Sight}
    (seen : Seen answers before during errand event slot sight) :
    .saw errand event slot.id sight ∈ during := by
  cases seen with
  | won | otherKind => simp [*]
  | judged => simp [*]

/-- A search that finds a waiter unwon to the end has not come to it, because another one that was
registered before it took the event. -/
theorem Searched.passed {before : List Act} {slots : List Slot} {errand : ErrandId} {event : Event}
    (searched : Searched answers before during slots errand event next) (frank : Frank answers slot)
    (ascending : slots.Pairwise fun first second => first.id < second.id) (present : slot ∈ slots)
    (kind : slot.kind = event.kind) (accepts : slot.pattern.accepts event = true)
    (unwon : captors (before ++ during) slot.id = []) :
    ∃ other < slot.id, .saw errand event other .taken ∈ during := by
  have untouched {earlier later : List Act} (split : during = earlier ++ later) :
      captors (before ++ earlier) slot.id = [] := by
    rw [split, ← List.append_assoc] at unwon
    exact List.eq_nil_iff_forall_not_mem.mpr fun capture captor =>
      List.eq_nil_iff_forall_not_mem.mp unwon _ (mem_captors_append captor _)
  have unlooked : slot ∉ looked (sightOf during errand) slots := by
    intro visited
    have seen := searched.truthful slot visited
    generalize sightOf during errand slot = sight at seen
    cases seen with
    | won earlier later split taken => exact taken (untouched split)
    | otherKind earlier later split free other => exact other kind
    | judged earlier middle later verdict won split free same answer meanwhile =>
      obtain rfl := frank event verdict answer
      rw [accepts] at split
      cases won with
      | true =>
        refine meanwhile.mp rfl ?_
        rw [List.append_assoc]
        exact untouched (by rw [split, List.append_assoc, List.cons_append])
      | false =>
        have saw : .saw errand event slot.id .taken ∈ during := by
          rw [split]
          simp [Verdict.ofBool, Verdict.sight]
        exact absurd unwon (List.ne_nil_of_mem (captor_of_saw (List.mem_append_right before saw)))
  cases taker : taker? (sightOf during errand) slots with
  | none =>
    rw [looked_of_untaken (taker?_eq_none.mp taker)] at unlooked
    exact absurd present unlooked
  | some other =>
    obtain ⟨took, earlier, later, split, untaken⟩ := List.find?_eq_some_iff_append.mp taker
    have took : sightOf during errand other = .taken := by simpa using took
    have ending : looked (sightOf during errand) (earlier ++ other :: later) = earlier ++ [other] :=
      looked_append (by simpa using untaken) took
    subst split
    rw [ending] at unlooked
    have behind : slot ∈ later := by
      simp only [List.mem_append, List.mem_cons] at present unlooked
      tauto
    obtain ⟨-, ascending, -⟩ := List.pairwise_append.mp ascending
    have saw := (searched.truthful other (by rw [ending]; simp)).mem
    rw [took] at saw
    exact ⟨other.id, List.rel_of_pairwise_cons ascending behind, saw⟩

theorem Step.held_of_saw (step : Step answers hall act next) {errand : ErrandId} {event : Event}
    {id : WaiterId} {sight : Sight} (saw : act = .saw errand event id sight) :
    hall.lock.errand? = some errand := by
  cases step with
  | passWon _ _ _ _ _ held | passKind _ _ _ _ _ held | judge _ _ _ _ _ _ _ _ held =>
    cases saw
    rw [held]
    rfl
  | _ => cases saw

theorem Run.owner_of_saw (run : Run answers first during last) {errand : ErrandId}
    (held : first.lock.errand? = some errand) (stays : .left errand ∉ during) :
    last.lock.errand? = some errand ∧ ∀ owner event id sight,
      .saw owner event id sight ∈ during → owner = errand := by
  induction run with
  | nil => exact ⟨held, fun _ _ _ _ saw => (List.not_mem_nil saw).elim⟩
  | @snoc during hall next act run step ih =>
    obtain ⟨holds, earlier⟩ := ih fun left => stays (List.mem_append_left _ left)
    have still : act ≠ .left errand := by
      rintro rfl
      exact stays (List.mem_append_right _ (List.mem_singleton_self _))
    refine ⟨step.lock_kept holds still, fun owner event id sight saw => ?_⟩
    rcases List.mem_append.mp saw with old | new
    · exact earlier owner event id sight old
    · have owns := step.held_of_saw (List.mem_singleton.mp new).symm
      exact Option.some.inj (owns.symm.trans holds)

/-- An event that its pattern accepts, and that is looked for from a time when the waiter is
registered until a time before its deadline, goes to the waiter, unless one that was registered
before it takes it, or another one had come to the waiter before. -/
theorem Waiting.heard (waiting : Waiting slot deadline past first)
    (reached : Reached answers past first) (frank : Frank answers slot)
    {before later : List Act} {errand : ErrandId} {event : Event}
    (run : Run answers first
      (before ++ [.entered errand] ++ during ++ [.left errand] ++ later) last)
    (unswept : Unswept (before ++ [.entered errand] ++ during ++ [.left errand] ++ later))
    (kept : ∀ won, .abandoned slot.id won ∉
      before ++ [.entered errand] ++ during ++ [.left errand] ++ later)
    (offered : .offer event ∈ requests
      (past ++ (before ++ [.entered errand] ++ during ++ [.left errand] ++ later)) errand)
    (kind : slot.kind = event.kind) (accepts : slot.pattern.accepts event = true)
    (early : clock (past ++ (before ++ [.entered errand] ++ during)) < deadline) :
    (∃ other < slot.id, .saw errand event other .taken ∈ during) ∨
      .saw errand event slot.id .taken ∈ during ∨
        ∃ owner shown, .saw owner shown slot.id .taken ∈ past ++ before := by
  have whole := Reached.requests_eq (reached.append run) offered
  obtain ⟨next, run, -⟩ := run.split
  obtain ⟨final, run, leaves⟩ := run.last
  obtain ⟨entered, begun, searches⟩ := run.split
  obtain ⟨gate, begun, enters⟩ := begun.last
  have there : Reached answers (past ++ before) gate := reached.append begun
  have inside : Reached answers (past ++ before ++ [.entered errand]) entered := there.snoc enters
  have sought : Reached answers (past ++ before ++ [.entered errand] ++ during) final :=
    inside.append searches
  have unswept_before : Unswept before := fun owner reason closing among =>
    unswept owner reason closing (by simp [among])
  have kept_before (won : Bool) : .abandoned slot.id won ∉ before := fun among =>
    kept won (by simp [among])
  have waits := waiting.run reached frank begun unswept_before kept_before
  have ends : Waiting slot deadline (past ++ before ++ [.entered errand] ++ during) final := by
    have kept_during : ∀ won, .abandoned slot.id won ∉ before ++ [.entered errand] ++ during :=
      fun won among => kept won (List.mem_append_left _ (List.mem_append_left _ among))
    have unswept_during : Unswept (before ++ [.entered errand] ++ during) :=
      fun owner reason closing among =>
        unswept owner reason closing (List.mem_append_left _ (List.mem_append_left _ among))
    have ends := waiting.run reached frank run unswept_during kept_during
    simpa only [← List.append_assoc] using ends
  simp only [← List.append_assoc] at whole early
  rw [sought.clock_eq] at early
  -- an event that came to the waiter before the search began is the third case
  by_cases untaken : captors (past ++ before) slot.id = []
  · obtain ⟨request, asked, sole⟩ := there.request_of_enters enters
    have offers : request = .offer event := by
      have among := requests_append (sole ▸ List.mem_singleton_self request)
        ([.entered errand] ++ during ++ [.left errand] ++ later)
      simp only [← List.append_assoc] at among
      rw [whole] at among
      exact List.mem_singleton.mp among
    subst offers
    have free : gate.lock = .free := by
      cases enters with
      | enterSearch _ _ free | enterSweep _ _ _ free => exact free
    have searched := there.searched (sole ▸ List.mem_singleton_self _) enters searches leaves
    by_cases unwon : captors (past ++ before ++ [.entered errand] ++ during) slot.id = []
    · obtain ⟨other, member, same⟩ := there.slot_of_unwon free waits.admitted untaken
      obtain rfl := waits.alone other member same
      exact .inl (searched.passed frank there.orderly.ascending member kind accepts unwon)
    · obtain ⟨owner, shown, captor⟩ := ends.delivered early unwon
      have saw : .saw owner shown slot.id .taken ∈ during := by
        have saw := saw_of_deliver captor
        rw [List.append_assoc] at saw
        rcases List.mem_append.mp saw with old | new
        · exact absurd untaken (List.ne_nil_of_mem (captor_of_saw old))
        · simpa using new
      have held : entered.lock.errand? = some errand := by
        cases enters <;> rfl
      -- nobody else sees waiters while the errand has the lock, and it looks for one event
      have stays : .left errand ∉ during := fun left =>
        (leaves.told_of_left sought.orderly).1 (searches.told inside left)
      obtain rfl := (searches.owner_of_saw held stays).2 owner shown slot.id _ saw
      have asked := requests_append (sought.claimed_of_deliver captor).1 ([.left owner] ++ later)
      rw [← List.append_assoc, whole] at asked
      cases List.mem_singleton.mp asked
      exact .inr (.inl saw)
  · have sooner : gate.now < deadline := by
      have later := Nat.le_trans enters.now_le searches.now_le
      exact Nat.lt_of_le_of_lt later early
    obtain ⟨owner, shown, captor⟩ := waits.delivered sooner untaken
    exact .inr (.inr ⟨owner, shown, saw_of_deliver captor⟩)

end Waiting

/-- Steps of errands lead from one state of affairs to another. -/
def Serves (answers : Answers) (hall next : Hall) : Prop :=
  ∃ during, Run answers hall during next ∧ ∀ act ∈ during, act.holder? = none

theorem Run.holders_eq (run : Run answers first during last)
    (apart : ∀ act ∈ during, act.holder? = none) : last.holders = first.holders := by
  induction run with
  | nil => rfl
  | @snoc during hall next act run step ih =>
    have earlier := ih fun other among => apart other (List.mem_append_left _ among)
    have now := apart act (List.mem_append_right _ (List.mem_singleton_self _))
    rw [← earlier]
    funext id
    refine step.holder_frame fun own => ?_
    rw [now] at own
    cases own

theorem Serves.refl (hall : Hall) : Serves answers hall hall :=
  ⟨[], .nil, List.forall_mem_nil _⟩

theorem Serves.step (step : Step answers hall act next) (apart : act.holder? = none)
    (serves : Serves answers next last) : Serves answers hall last := by
  obtain ⟨during, run, others⟩ := serves
  refine ⟨[act] ++ during, (Run.nil.snoc step).append run, fun other among => ?_⟩
  rcases List.mem_append.mp among with new | later
  · rw [List.mem_singleton.mp new]
    exact apart
  · exact others other later

variable {errand : ErrandId} {event : Event} {id : WaiterId} {resolution : Resolution}

theorem serves_letter {request : Errand} {reply : Reply}
    {letters : List (WaiterId × Resolution)}
    (telling : hall.errands errand = .telling request reply letters)
    (among : (id, resolution) ∈ letters) :
    ∃ next, Serves answers hall next ∧ (id, resolution) ∈ next.queue.sent := by
  induction letters generalizing hall with
  | nil => cases among
  | cons letter rest ih =>
    have sends : Step answers hall _ _ :=
      .send errand request reply letter.1 letter.2 rest telling
    rcases List.mem_cons.mp among with rfl | later
    · refine ⟨_, .step sends rfl (.refl _), ?_⟩
      exact List.mem_append_right _ (List.mem_singleton_self _)
    · obtain ⟨next, serves, sent⟩ := ih (setErrand_errands ..) later
      exact ⟨next, .step sends rfl serves, sent⟩

theorem Reached.serves_deliver (reached : Reached answers past hall)
    (captor : .deliver errand event ∈ captors past id) (waits : (hall.holders id).waits) :
    ∃ next, Serves answers hall next ∧ (id, .ok event) ∈ next.queue.sent := by
  have pledged : (id, .ok event) ∈ pledges past errand := mem_pledges.mpr ⟨_, captor, rfl, rfl⟩
  obtain sent | ⟨owner, held | ⟨request, reply, rest, telling, among⟩⟩ :=
    reached.promised_of_pledge pledged
  · exact ⟨hall, .refl hall, reached.sent_of_dispatched waits (.inl ⟨errand, sent⟩)⟩
  · have sound := reached.orderly.lock
    cases lock : hall.lock with
    | free =>
      rw [lock] at held
      cases held
    | sweeping holder reason closing rest ids =>
      rw [lock, Lock.letters] at held
      split at held <;> simp at held
    | searching holder shown findings rest =>
      rw [lock] at held sound
      obtain ⟨own, letter⟩ := List.mem_ite_nil_right.mp held
      obtain ⟨winner, rfl⟩ := findings.winner_of_letter letter
      obtain rfl := sound.2.2 (by rw [winner]; rfl)
      have leaves : Step answers hall _ _ := .leaveSearch holder shown findings lock
      obtain ⟨next, serves, sent⟩ := serves_letter (setErrand_errands ..) letter
      exact ⟨next, .step leaves rfl serves, sent⟩
    | consulting holder shown findings slot rest =>
      rw [lock] at held sound
      obtain ⟨own, letter⟩ := List.mem_ite_nil_right.mp held
      cases (findings.winner_of_letter letter).1.symm.trans sound.2.2.1
  · exact serves_letter telling among

theorem Reached.waits_of_deliver (reached : Reached answers past hall)
    (captor : .deliver errand event ∈ captors past id) {deadline : Option Instant}
    (begun : (hall.holders id).use? = some (.waiting deadline)) : (hall.holders id).waits := by
  have sound := reached.tracked.holders id
  cases holder : hall.holders id with
  | absent | leaving | deferred | gone =>
    rw [holder] at begun
    cases begun
  | holding kind settled use =>
    rw [holder] at begun sound
    cases begun
    cases settled with
    | true => cases sound.1
    | false => trivial
  | removing use =>
    rw [holder] at sound
    cases reached.captor_unique captor sound.2
  | collecting kind use => trivial

/-- Whoever waits until a deadline for a waiter that an event was delivered and sent to returns
with the event. -/
theorem Reached.returns (reached : Reached answers past hall)
    (captor : .deliver errand event ∈ captors past id)
    (sent : (id, .ok event) ∈ hall.queue.sent) {deadline : Option Instant}
    (begun : (hall.holders id).use? = some (.waiting deadline)) :
    ∃ next, Step answers hall (.returned id (.waiting deadline) (.ok (some event))) next := by
  have waits := reached.waits_of_deliver captor begun
  -- whatever is found is what the waiter was won with
  have outcome {result : Except WaitError (Option Event)} {next : Hall}
      (step : Step answers hall (.returned id (.waiting deadline) result) next) :
      result = .ok (some event) := by
    have concluded := step.concluded reached
    obtain ⟨capture, won, returned⟩ :=
      concluded.captor fun awaited => nomatch (concluded.awaited awaited).1
    have whole : Reached answers (past ++ [.returned id (.waiting deadline) result]) next :=
      reached.snoc step
    rw [whole.captor_unique won (mem_captors_append captor _)] at returned
    exact (Option.some.inj returned).symm
  have found (kind : EventKind) : ∃ result ticket queue,
      Ticket.collect ⟨id, kind, false⟩ hall.queue = (some result, ticket, queue) := by
    cases sought : hall.queue.outcome? id with
    | some resolution => exact ⟨_, _, _, by simp only [Ticket.collect, sought]; rfl⟩
    | none =>
      rw [Queue.outcome?, Option.map_eq_none_iff] at sought
      exact absurd (decide_eq_true rfl) (List.find?_eq_none.mp sought _ sent)
  cases holder : hall.holders id with
  | holding kind settled use =>
    rw [holder] at begun waits
    cases begun
    cases settled with
    | true => exact waits.elim
    | false =>
      obtain ⟨result, ticket, queue, looked⟩ := found kind
      have step : Step answers hall _ _ :=
        .finish id kind deadline result ticket queue holder looked
      exact ⟨_, outcome step ▸ step⟩
  | collecting kind use =>
    rw [holder] at begun
    cases begun
    obtain ⟨result, ticket, queue, looked⟩ := found kind
    have step : Step answers hall _ _ :=
      .collect id kind (.waiting deadline) result ticket queue holder looked
    exact ⟨_, outcome step ▸ step⟩
  | _ =>
    rw [holder] at waits
    exact waits.elim

end Hall
end Switchboard
