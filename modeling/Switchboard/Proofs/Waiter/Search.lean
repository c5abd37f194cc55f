import Switchboard.Proofs.Waiter.Delivery
import Switchboard.Proofs.Waiter.Reference

set_option autoImplicit false

namespace Switchboard

/-- Acting on a verdict notes what was seen, and no slot is taken out yet. -/
theorem Queue.judge_note {queue next : Queue} {findings found : Findings} {slot : Slot}
    {verdict : Verdict} (judged : queue.judge findings slot.id verdict = (found, next)) :
    found = findings.note (slot, verdict.sight (queue.isWon slot.id)) ∧
      next.slots = queue.slots := by
  obtain ⟨rfl, rfl, rfl⟩ | ⟨rfl, free, rfl, rfl⟩ | ⟨reason, rfl, free, rfl, rfl⟩ |
    ⟨opposed, taken, rfl, same⟩ := Queue.judge_cases judged
  · exact ⟨rfl, rfl⟩
  · rw [(queue.isWon_eq_false _).mpr free]
    exact ⟨rfl, rfl⟩
  · rw [(queue.isWon_eq_false _).mpr free]
    exact ⟨rfl, rfl⟩
  · rw [(queue.isWon_eq_true _).mpr taken]
    rw [same]
    cases verdict with
    | rejects => exact absurd rfl opposed
    | _ => exact ⟨rfl, rfl⟩

def Act.sighting? (errand : ErrandId) : Act → Option (WaiterId × Sight)
  | .saw owner _ id sight => if owner = errand then some (id, sight) else none
  | _ => none

theorem Act.sighting?_of_errand_ne {act : Act} {errand : ErrandId}
    (other : act.errand? ≠ some errand) : act.sighting? errand = none := by
  cases act with
  | saw owner event id sight =>
    have apart : owner ≠ errand := fun same => other (congrArg some same)
    simp only [sighting?, apart, ↓reduceIte]
  | _ => rfl

theorem Act.party_ne_of_errand_ne {act : Act} {errand : ErrandId}
    (other : act.errand? ≠ some errand) {id : WaiterId} {capture : Capture}
    (hit : act.capture? = some (id, capture)) : capture.party ≠ .errand errand := by
  intro party
  obtain ⟨resolution, owed⟩ := capture.resolution_of_errand party
  have pledged : act.pledge? errand = some (id, resolution) := by
    rw [Act.pledge?, hit, Option.bind_some, Capture.pledge?_eq_some.mpr ⟨party, owed⟩]
    rfl
  rw [Act.pledge?_of_errand_ne other] at pledged
  cases pledged

namespace Hall

variable {answers : Answers} {hall next : Hall} {act : Act} {history : List Act}

/-- All that an errand sees, in the order of seeing it. -/
def sightings (history : List Act) (errand : ErrandId) : List (WaiterId × Sight) :=
  history.filterMap (Act.sighting? errand)

def sightOf (history : List Act) (errand : ErrandId) (slot : Slot) : Sight :=
  ((sightings history errand).find? fun seen => seen.1 = slot.id).elim .rejected Prod.snd

def spoils (history : List Act) (errand : ErrandId) : List (WaiterId × Capture) :=
  (captures history).filter fun won => won.2.party = .errand errand

/-- What is seen of a slot is what there is. Before the search there was a history, and the search
has one of its own, in which others may have had their turns. -/
inductive Seen (answers : Answers) (before during : List Act) (errand : ErrandId) (event : Event)
    (slot : Slot) : Sight → Prop
  | won (earlier later : List Act)
      (split : during = earlier ++ .saw errand event slot.id .won :: later)
      (taken : captors (before ++ earlier) slot.id ≠ []) :
      Seen answers before during errand event slot .won
  | otherKind (earlier later : List Act)
      (split : during = earlier ++ .saw errand event slot.id .otherKind :: later)
      (free : captors (before ++ earlier) slot.id = []) (other : slot.kind ≠ event.kind) :
      Seen answers before during errand event slot .otherKind
  /-- Its pattern answered, and somebody may have won the waiter while it looked at the event. -/
  | judged (earlier middle later : List Act) (verdict : Verdict) (won : Bool)
      (split : during = earlier ++ .consulted errand event slot.id ::
        (middle ++ .saw errand event slot.id (verdict.sight won) :: later))
      (free : captors (before ++ earlier) slot.id = []) (same : slot.kind = event.kind)
      (answer : answers slot event verdict)
      (meanwhile : won = true ↔
        captors (before ++ earlier ++ .consulted errand event slot.id :: middle) slot.id ≠ []) :
      Seen answers before during errand event slot (verdict.sight won)

theorem Seen.snoc {before during : List Act} {errand : ErrandId} {event : Event} {slot : Slot}
    {sight : Sight} (seen : Seen answers before during errand event slot sight) (act : Act) :
    Seen answers before (during ++ [act]) errand event slot sight := by
  cases seen with
  | won earlier later split taken =>
    exact .won earlier (later ++ [act]) (by simp [split]) taken
  | otherKind earlier later split free other =>
    exact .otherKind earlier (later ++ [act]) (by simp [split]) free other
  | judged earlier middle later verdict won split free same answer meanwhile =>
    exact .judged earlier middle (later ++ [act]) verdict won (by simp [split]) free same answer
      meanwhile

theorem spoils_snoc (history : List Act) (act : Act) (errand : ErrandId) :
    spoils (history ++ [act]) errand = spoils history errand ++
      (act.capture?.filter fun won => won.2.party = .errand errand).toList := by
  rw [spoils, captures_snoc, List.filter_append]
  cases found : act.capture? with
  | none => rfl
  | some won => by_cases own : won.2.party = .errand errand <;> simp [spoils, Option.filter, own]

/-- A search saw what there was, and won whom it says. -/
structure Survey (answers : Answers) (before during : List Act) (errand : ErrandId) (event : Event)
    (visits : List Visit) : Prop where
  seen : sightings during errand = visits.map fun visit => (visit.1.id, visit.2)
  truthful : ∀ visit ∈ visits, Seen answers before during errand event visit.1 visit.2
  spoils : spoils (before ++ during) errand = visits.filterMap fun visit =>
    (visit.2.capture? errand event).map (visit.1.id, ·)

section Survey

variable {before during : List Act} {errand : ErrandId} {event : Event} {visits : List Visit}

theorem Survey.visit (survey : Survey answers before during errand event visits) (slot : Slot)
    (sight : Sight)
    (seen : Seen answers before (during ++ [.saw errand event slot.id sight]) errand event slot
      sight) :
    Survey answers before (during ++ [.saw errand event slot.id sight]) errand event
      (visits ++ [(slot, sight)]) where
  seen := by
    rw [sightings, filterMap_snoc, ← sightings, survey.seen, List.map_append]
    simp [Act.sighting?]
  truthful := by
    intro visit member
    rcases List.mem_append.mp member with old | new
    · exact (survey.truthful visit old).snoc _
    · rw [List.mem_singleton.mp new]
      exact seen
  spoils := by
    rw [← List.append_assoc, spoils_snoc, survey.spoils, List.filterMap_append]
    cases sight <;> simp [Act.capture?, Sight.capture?, Capture.party]

theorem Survey.pass (survey : Survey answers before during errand event visits) (act : Act)
    (unseen : act.sighting? errand = none)
    (calm : ∀ won, act.capture? = some won → won.2.party ≠ .errand errand) :
    Survey answers before (during ++ [act]) errand event visits where
  seen := by
    rw [sightings, filterMap_snoc, ← sightings, survey.seen, unseen, Option.toList_none,
      List.append_nil]
  truthful := fun visit member => (survey.truthful visit member).snoc act
  spoils := by
    have none_won : act.capture?.filter (fun won => won.2.party = .errand errand) = none := by
      rw [Option.filter_eq_none_iff]
      intro won hit
      simpa using calm won hit
    rw [← List.append_assoc, spoils_snoc, survey.spoils, none_won, Option.toList_none,
      List.append_nil]

end Survey

/-- How far a search has come that has made some visits. -/
def Surveying (before during : List Act) (slots : List Slot) (errand : ErrandId) (event : Event)
    (visits : List Visit) : Lock → Prop
  | .searching owner shown findings rest =>
    owner = errand ∧ shown = event ∧ findings = .after visits ∧
      ((∀ visit ∈ visits, visit.2 ≠ .taken) ∧ slots = visits.map Prod.fst ++ rest ∨
        rest = [] ∧ ∃ earlier slot later, visits = earlier ++ [(slot, .taken)] ∧
          (∀ visit ∈ earlier, visit.2 ≠ .taken) ∧ slots = earlier.map Prod.fst ++ slot :: later)
  | .consulting owner shown findings slot rest =>
    owner = errand ∧ shown = event ∧ findings = .after visits ∧
      (∀ visit ∈ visits, visit.2 ≠ .taken) ∧ slots = visits.map Prod.fst ++ slot :: rest ∧
      ∃ earlier middle, during = earlier ++ .consulted errand event slot.id :: middle ∧
        captors (before ++ earlier) slot.id = []
  | .free | .sweeping .. => False

theorem Surveying.errand {before during : List Act} {slots : List Slot} {errand : ErrandId}
    {event : Event} {visits : List Visit} {lock : Lock}
    (surveying : Surveying before during slots errand event visits lock) :
    lock.errand? = some errand := by
  cases lock with
  | searching | consulting => exact congrArg some surveying.1
  | free | sweeping => exact surveying.elim

theorem Surveying.snoc {before during : List Act} {slots : List Slot} {errand : ErrandId}
    {event : Event} {visits : List Visit} {lock : Lock}
    (surveying : Surveying before during slots errand event visits lock) (act : Act) :
    Surveying before (during ++ [act]) slots errand event visits lock := by
  cases lock with
  | searching => exact surveying
  | consulting owner shown findings slot rest =>
    obtain ⟨own, same, found, untaken, split, earlier, middle, consulted, free⟩ := surveying
    exact ⟨own, same, found, untaken, split, earlier, middle ++ [act], by simp [consulted], free⟩
  | free | sweeping => exact surveying.elim

theorem Reached.captors_eq_nil (reached : Reached answers history hall) {id : WaiterId} :
    captors history id = [] ↔ id ∉ hall.queue.won := by
  rw [reached.mem_won, List.eq_nil_iff_forall_not_mem, not_exists]

theorem untaken_snoc {visits : List Visit} (untaken : ∀ visit ∈ visits, visit.2 ≠ .taken)
    {slots rest : List Slot} {slot : Slot} (split : slots = visits.map Prod.fst ++ slot :: rest)
    {sight : Sight} (last : sight ≠ .taken) :
    (∀ visit ∈ visits ++ [(slot, sight)], visit.2 ≠ .taken) ∧
      slots = (visits ++ [(slot, sight)]).map Prod.fst ++ rest := by
  constructor
  · intro visit member
    rcases List.mem_append.mp member with old | new
    · exact untaken visit old
    · rw [List.mem_singleton.mp new]
      exact last
  · rw [split, List.map_append, List.append_assoc]
    rfl

theorem Step.survey {before during : List Act} {slots : List Slot} {errand : ErrandId}
    {event : Event} {visits : List Visit} (step : Step answers hall act next)
    (reached : Reached answers (before ++ during) hall)
    (survey : Survey answers before during errand event visits)
    (surveying : Surveying before during slots errand event visits hall.lock)
    (stays : act ≠ .left errand) :
    next.queue.slots = hall.queue.slots ∧ ∃ visits,
      Survey answers before (during ++ [act]) errand event visits ∧
        Surveying before (during ++ [act]) slots errand event visits next.lock := by
  by_cases own : act.errand? = some errand
  · cases step with
    | ask owner request fresh =>
      cases own
      obtain ⟨request, asked⟩ := reached.orderly.lock.asked surveying.errand
      exact nomatch fresh.symm.trans asked
    | send owner request reply id resolution rest telling =>
      cases own
      obtain ⟨request, asked⟩ := reached.orderly.lock.asked surveying.errand
      exact nomatch telling.symm.trans asked
    | answer owner request reply telling =>
      cases own
      obtain ⟨request, asked⟩ := reached.orderly.lock.asked surveying.errand
      exact nomatch telling.symm.trans asked
    | leaveSearch owner | leaveSweep owner =>
      cases own
      exact absurd rfl stays
    | enterSearch _ _ free | enterSweep _ _ _ free =>
      rw [free] at surveying
      exact surveying.elim
    | sweep _ _ _ _ _ _ _ _ held =>
      rw [held] at surveying
      exact surveying.elim
    | passWon owner shown findings slot rest held won =>
      rw [held] at surveying
      obtain ⟨rfl, rfl, rfl, ⟨untaken, split⟩ | ⟨finished, -⟩⟩ := surveying
      · have taken : captors (before ++ during) slot.id ≠ [] :=
          fun free => reached.captors_eq_nil.mp free won
        refine ⟨rfl, visits ++ [(slot, .won)], survey.visit slot .won ?_, rfl, rfl, ?_, Or.inl ?_⟩
        · exact .won during [] rfl taken
        · rw [Findings.after_snoc]
          rfl
        · exact untaken_snoc untaken split Sight.noConfusion
      · cases finished
    | passKind owner shown findings slot rest held unwon other =>
      rw [held] at surveying
      obtain ⟨rfl, rfl, rfl, ⟨untaken, split⟩ | ⟨finished, -⟩⟩ := surveying
      · refine ⟨rfl, visits ++ [(slot, .otherKind)], survey.visit slot .otherKind ?_, rfl, rfl, ?_,
          Or.inl ?_⟩
        · exact .otherKind during [] rfl (reached.captors_eq_nil.mpr unwon) other
        · rw [Findings.after_snoc]
          rfl
        · exact untaken_snoc untaken split Sight.noConfusion
      · cases finished
    | consult owner shown findings slot rest held unwon same =>
      rw [held] at surveying
      obtain ⟨rfl, rfl, rfl, ⟨untaken, split⟩ | ⟨finished, -⟩⟩ := surveying
      · refine ⟨rfl, visits, survey.pass _ rfl (fun _ hit => nomatch hit), rfl, rfl, rfl, untaken,
          split, during, [], rfl, reached.captors_eq_nil.mpr unwon⟩
      · cases finished
    | judge owner shown findings found slot rest verdict queue held answer judged =>
      rw [held] at surveying
      obtain ⟨rfl, rfl, rfl, untaken, split, earlier, middle, consulted, free⟩ := surveying
      have lock := reached.orderly.lock
      rw [held] at lock
      obtain ⟨noted, slots⟩ := Queue.judge_note judged
      have won : hall.queue.isWon slot.id = true ↔ captors (before ++ during) slot.id ≠ [] :=
        (hall.queue.isWon_eq_true _).trans (reached.captors_eq_nil.not.trans not_not).symm
      -- the sight follows from who is won now, not when the pattern was asked
      generalize hall.queue.isWon slot.id = meanwhile at noted won ⊢
      have seen : Seen answers before
          (during ++ [.saw owner shown slot.id (verdict.sight meanwhile)]) owner shown slot
          (verdict.sight meanwhile) := by
        refine .judged earlier middle [] verdict meanwhile (by simp [consulted]) free lock.2.2.2
          answer ?_
        rw [won, consulted, List.append_assoc]
      refine ⟨slots, visits ++ [(slot, verdict.sight meanwhile)], survey.visit slot _ seen, rfl,
        rfl, noted.trans (Findings.after_snoc ..).symm, ?_⟩
      by_cases taken : verdict.sight meanwhile = .taken
      · refine Or.inr ⟨?_, visits, slot, rest, by rw [taken], untaken, split⟩
        rw [noted, taken]
        rfl
      · obtain ⟨none_taken, split⟩ := untaken_snoc untaken split taken
        refine Or.inl ⟨none_taken, ?_⟩
        rw [noted, ← Findings.after_snoc, Findings.winner_after_open _ none_taken]
        exact split
    | _ => cases own
  · obtain ⟨lock, -, same, -⟩ := step.undisturbed surveying.errand own
    refine ⟨same, visits, survey.pass act (Act.sighting?_of_errand_ne own) ?_, ?_⟩
    · rintro ⟨id, capture⟩ hit
      exact Act.party_ne_of_errand_ne own hit
    · rw [lock]
      exact surveying.snoc act

theorem Surveying.tallied {before during : List Act} {slots : List Slot} {errand : ErrandId}
    {event : Event} {visits : List Visit} {owner : ErrandId} {shown : Event} {findings : Findings}
    (surveying : Surveying before during slots errand event visits
      (.searching owner shown findings []))
    (seen : sightings during errand = visits.map fun visit => (visit.1.id, visit.2))
    (ascending : slots.Pairwise fun first second => first.id < second.id) :
    Tallied (sightOf during errand) slots visits := by
  obtain ⟨-, -, -, progress⟩ := surveying
  have part : visits.map Prod.fst <+: slots := by
    rcases progress with ⟨-, split⟩ | ⟨-, earlier, slot, later, rfl, -, split⟩
    · exact ⟨[], split.symm⟩
    · exact ⟨later, by rw [split, List.map_append, List.append_assoc]; rfl⟩
  have distinct : (visits.map fun visit => visit.1.id).Nodup := by
    have fewer := ascending.sublist part.sublist
    rw [List.pairwise_map] at fewer
    exact List.pairwise_map.mpr (fewer.imp fun less => Nat.ne_of_lt less)
  have agree : ∀ visit ∈ visits, sightOf during errand visit.1 = visit.2 := by
    intro visit member
    rw [sightOf, seen, find_visit distinct member]
    rfl
  rcases progress with ⟨untaken, split⟩ | ⟨-, earlier, slot, later, rfl, untaken, rfl⟩
  · rw [List.append_nil] at split
    have none_taken : ∀ slot ∈ slots, sightOf during errand slot ≠ .taken := by
      intro slot member
      rw [split] at member
      obtain ⟨visit, visited, rfl⟩ := List.mem_map.mp member
      rw [agree visit visited]
      exact untaken visit visited
    refine ⟨agree, (looked_of_untaken none_taken).trans split, ?_,
      fun visit member => untaken visit (List.dropLast_subset _ member)⟩
    rw [Findings.winner_after_open visits untaken, taker?_eq_none.mpr none_taken]
    rfl
  · have taken : sightOf during errand slot = .taken := agree (slot, .taken) (by simp)
    have none_taken : ∀ slot ∈ earlier.map Prod.fst, sightOf during errand slot ≠ .taken := by
      intro slot member
      obtain ⟨visit, visited, rfl⟩ := List.mem_map.mp member
      rw [agree visit (List.mem_append_left _ visited)]
      exact untaken visit visited
    refine ⟨agree, ?_, ?_, ?_⟩
    · rw [looked_append none_taken taken, List.map_append]
      rfl
    · rw [taker?_append none_taken taken, Findings.after_snoc]
      rfl
    · rw [List.dropLast_concat]
      exact untaken

theorem spoils_eq_nil {errand : ErrandId} (unowing : pledges history errand = []) :
    spoils history errand = [] := by
  rw [spoils, List.filter_eq_nil_iff]
  rintro ⟨id, capture⟩ member own
  have party : capture.party = .errand errand := by simpa using own
  obtain ⟨resolution, owed⟩ := capture.resolution_of_errand party
  have pledged : (id, resolution) ∈ pledges history errand :=
    mem_pledges.mpr ⟨capture, mem_captors.mpr member, party, owed⟩
  rw [unowing] at pledged
  cases pledged

section Search

variable {before during : List Act} {first last : Hall} {errand : ErrandId} {event : Event}

theorem Reached.request_of_enters (reached : Reached answers before hall)
    (enters : Step answers hall (.entered errand) first) :
    ∃ request, hall.errands errand = .asked request ∧ requests before errand = [request] := by
  have balanced := reached.balanced errand
  obtain ⟨request, asked⟩ : ∃ request, hall.errands errand = .asked request := by
    cases enters <;> exact ⟨_, ‹_›⟩
  simp only [Balanced, asked] at balanced
  exact ⟨request, asked, balanced.1⟩

theorem Reached.search_begins (reached : Reached answers before hall)
    (asked : hall.errands errand = .asked (.offer event))
    (enters : Step answers hall (.entered errand) first) :
    first.queue.slots = hall.queue.slots ∧
      Survey answers (before ++ [.entered errand]) [] errand event [] ∧
        Surveying (before ++ [.entered errand]) [] hall.queue.slots errand event [] first.lock := by
  have balanced := (Reached.balanced (reached.snoc enters) errand)
  cases enters with
  | enterSearch _ shown free found =>
    cases asked.symm.trans found
    simp only [Balanced, asked, Lock.letters, Findings.letters_blank, ↓reduceIte] at balanced
    refine ⟨rfl, ⟨rfl, ?_, ?_⟩, rfl, rfl, rfl, Or.inl ⟨?_, rfl⟩⟩
    · intro visit member
      cases member
    · rw [List.append_nil]
      exact spoils_eq_nil balanced.2.1
    · intro visit member
      cases member
  | enterSweep _ reason closing free found => cases asked.symm.trans found

/-- As long as an errand has not given the lock back, its search is on its way. -/
theorem Run.survey {slots : List Slot} (run : Run answers first during last)
    (reached : Reached answers before first) (same : first.queue.slots = slots)
    (survey : Survey answers before [] errand event [])
    (surveying : Surveying before [] slots errand event [] first.lock)
    (stays : .left errand ∉ during) :
    last.queue.slots = slots ∧ ∃ visits, Survey answers before during errand event visits ∧
      Surveying before during slots errand event visits last.lock := by
  induction run with
  | nil => exact ⟨same, [], survey, surveying⟩
  | @snoc during middle last act run step ih =>
    obtain ⟨slots, visits, survey, surveying⟩ :=
      ih fun member => stays (List.mem_append_left _ member)
    have still : act ≠ .left errand := by
      rintro rfl
      exact stays (List.mem_append_right _ (List.mem_singleton_self _))
    obtain ⟨kept, later⟩ := step.survey (reached.append run) survey surveying still
    exact ⟨kept.trans slots, later⟩

theorem Run.told (run : Run answers first during last) (reached : Reached answers before first)
    (left : .left errand ∈ during) : (last.errands errand).told := by
  induction run with
  | nil => cases left
  | snoc run step ih =>
    have orderly := Reached.orderly (reached.append run)
    rcases List.mem_append.mp left with old | new
    · exact step.told_kept orderly (ih old)
    · cases List.mem_singleton.mp new
      exact (step.told_of_left orderly).2

theorem Step.spoils_of_told (step : Step answers hall act next) (orderly : Orderly hall)
    (told : (hall.errands errand).told) :
    spoils (history ++ [act]) errand = spoils history errand := by
  have calm : act.capture?.filter (fun won => won.2.party = .errand errand) = none := by
    rw [Option.filter_eq_none_iff]
    intro won hit
    by_cases own : act.errand? = some errand
    · obtain ⟨request, reply, ⟨letter, rest, -, rfl, -⟩ | ⟨-, rfl, -⟩⟩ :=
        step.own_of_told orderly told own <;> cases hit
    · simpa using Act.party_ne_of_errand_ne own hit
  rw [spoils_snoc, calm, Option.toList_none, List.append_nil]

theorem Run.spoils_of_told (run : Run answers first during last)
    (reached : Reached answers before first) (told : (first.errands errand).told) :
    (last.errands errand).told ∧ spoils (before ++ during) errand = spoils before errand := by
  induction run with
  | nil => exact ⟨told, by rw [List.append_nil]⟩
  | snoc run step ih =>
    have orderly := Reached.orderly (reached.append run)
    refine ⟨step.told_kept orderly ih.1, ?_⟩
    rw [← List.append_assoc, step.spoils_of_told orderly ih.1, ih.2]

/-- What a search comes to that began with some slots. -/
structure Searched (answers : Answers) (before during : List Act) (slots : List Slot)
    (errand : ErrandId) (event : Event) (next : Hall) : Prop where
  /-- The slots are looked at in the order of registration, up to the first taker. -/
  seen : sightings during errand =
    (looked (sightOf during errand) slots).map fun slot => (slot.id, sightOf during errand slot)
  /-- What is seen of them is what there is. -/
  truthful : ∀ slot ∈ looked (sightOf during errand) slots,
    Seen answers before during errand event slot (sightOf during errand slot)
  /-- No other waiters are won than the taker and those whose patterns failed. -/
  spoils : spoils (before ++ during) errand =
    (looked (sightOf during errand) slots).filterMap fun slot =>
      ((sightOf during errand slot).capture? errand event).map (slot.id, ·)
  /-- All other slots stay where they are. -/
  kept : next.queue.slots =
    slots.filter fun slot => slot.id ∉ removals (sightOf during errand) slots
  told : next.errands errand = .telling (.offer event) (replyTo (sightOf during errand) slots event)
    (outcomes (sightOf during errand) slots event)

theorem Reached.searched (reached : Reached answers before hall)
    (offered : .offer event ∈ requests before errand)
    (enters : Step answers hall (.entered errand) first) (run : Run answers first during last)
    (leaves : Step answers last (.left errand) next) :
    Searched answers (before ++ [.entered errand]) during hall.queue.slots errand event next := by
  have begun : Reached answers (before ++ [.entered errand]) first := reached.snoc enters
  have orderly := Reached.orderly (begun.append run)
  have stays : .left errand ∉ during :=
    fun left => (leaves.told_of_left orderly).1 (run.told begun left)
  obtain ⟨request, asked, made⟩ := reached.request_of_enters enters
  rw [made] at offered
  cases List.mem_singleton.mp offered
  obtain ⟨same, survey, surveying⟩ := reached.search_begins asked enters
  obtain ⟨slots, visits, survey, surveying⟩ := run.survey begun same survey surveying stays
  cases leaves with
  | leaveSearch _ shown findings held =>
    rw [held] at surveying
    have tallied := surveying.tallied survey.seen reached.orderly.ascending
    obtain ⟨-, rfl, rfl, -⟩ := surveying
    refine ⟨?_, ?_, ?_, ?_, ?_⟩
    · rw [survey.seen, tallied.visited, List.map_map]
      apply List.map_congr_left
      intro visit member
      rw [Function.comp_apply, tallied.agree visit member]
    · intro slot member
      rw [tallied.visited] at member
      obtain ⟨visit, visited, rfl⟩ := List.mem_map.mp member
      rw [tallied.agree visit visited]
      exact survey.truthful visit visited
    · rw [survey.spoils]
      exact (tallied.filterMap fun slot sight =>
        (sight.capture? errand shown).map (slot.id, ·)).symm
    · simp only [setErrand, Queue.settle_eq, slots]
      apply List.filter_congr
      intro slot member
      rw [decide_eq_decide, tallied.mem_removals]
    · simp only [setErrand, Function.update_self]
      rw [tallied.reply, tallied.letters]
  | leaveSweep _ _ _ _ held =>
    rw [held] at surveying
    exact surveying.elim

theorem Step.left_of_told (step : Step answers hall act next)
    (before : ¬ (hall.errands errand).told) (told : (next.errands errand).told) :
    act = .left errand := by
  by_cases own : act.errand? = some errand
  · cases step with
    | leaveSearch | leaveSweep =>
      cases own
      rfl
    | ask =>
      cases own
      simp only [setErrand, Function.update_self] at told
      exact told.elim
    | send _ _ _ _ _ _ telling | answer _ _ _ telling =>
      cases own
      rw [telling] at before
      exact absurd trivial before
    | _ => exact absurd told before
  · rw [(step.errand_frame own).1] at told
    exact absurd told before

theorem Reached.left_of_told (reached : Reached answers history hall)
    (told : (hall.errands errand).told) : .left errand ∈ history := by
  induction reached with
  | nil => exact told.elim
  | @snoc history hall next act run step ih =>
    by_cases before : (hall.errands errand).told
    · exact List.mem_append_left _ (ih before)
    · rw [step.left_of_told before told]
      exact List.mem_append_right _ (List.mem_singleton_self _)

theorem Step.entered_of_held (step : Step answers hall act next)
    (before : hall.lock.errand? ≠ some errand) (held : next.lock.errand? = some errand) :
    act = .entered errand := by
  cases step with
  | enterSearch | enterSweep =>
    cases held
    rfl
  | passWon _ _ _ _ _ owned | passKind _ _ _ _ _ owned | consult _ _ _ _ _ owned
  | judge _ _ _ _ _ _ _ _ owned | sweep _ _ _ _ _ _ _ _ owned =>
    cases held
    exact absurd (by rw [owned]; rfl) before
  | leaveSearch | leaveSweep => cases held
  | _ => exact absurd held before

theorem Reached.entered_of_held (reached : Reached answers history hall)
    (held : hall.lock.errand? = some errand) : .entered errand ∈ history := by
  induction reached with
  | nil => cases held
  | @snoc history hall next act run step ih =>
    by_cases before : hall.lock.errand? = some errand
    · exact List.mem_append_left _ (ih before)
    · rw [step.entered_of_held before held]
      exact List.mem_append_right _ (List.mem_singleton_self _)

theorem delivered_outcomes (sight : Slot → Sight) (slots : List Slot) (event : Event) :
    (outcomes sight slots event).filterMap delivered? =
      (taker? sight slots).toList.map fun slot => (slot.id, event) := by
  rw [outcomes, List.filterMap_append, delivered_failures, List.nil_append]
  cases taker? sight slots <;> rfl

theorem Reached.whole_search (reached : Reached answers history hall)
    (told : (hall.errands errand).told) :
    ∃ before during later, ∃ start first last next : Hall,
      history = before ++ [.entered errand] ++ during ++ [.left errand] ++ later ∧
        Reached answers before start ∧ Step answers start (.entered errand) first ∧
          Run answers first during last ∧ Step answers last (.left errand) next ∧
            Run answers next later hall := by
  obtain ⟨front, later, split⟩ := List.append_of_mem (reached.left_of_told told)
  rw [← List.singleton_append, ← List.append_assoc] at split
  subst split
  obtain ⟨next, left, after⟩ := reached.split
  obtain ⟨last, searching, leaves⟩ := left.last
  have held : last.lock.errand? = some errand := by
    cases leaves with
    | leaveSearch _ _ _ held | leaveSweep _ _ _ _ held =>
      rw [held]
      rfl
  obtain ⟨before, during, split⟩ := List.append_of_mem (Reached.entered_of_held searching held)
  rw [← List.singleton_append, ← List.append_assoc] at split
  subst split
  obtain ⟨first, entered, run⟩ := searching.split
  obtain ⟨start, begun, enters⟩ := entered.last
  exact ⟨before, during, later, start, first, last, next, rfl, begun, enters, run, leaves, after⟩

/-- Who was chosen by the search of an errand, if anybody: the first registered among those who
accept the event and are not won by then. -/
def Chosen (answers : Answers) (history : List Act) (errand : ErrandId) (event : Event)
    (taker : Option WaiterId) : Prop :=
  ∃ before during later : List Act, ∃ hall next : Hall,
    history = before ++ [.entered errand] ++ during ++ [.left errand] ++ later ∧
      Reached answers before hall ∧
      Searched answers (before ++ [.entered errand]) during hall.queue.slots errand event next ∧
      (taker? (sightOf during errand) hall.queue.slots).map Slot.id = taker

/-- An offer that was answered has made its search, and answers who was chosen. -/
theorem Reached.chosen (reached : Reached answers history hall) {reply : Reply}
    (answered : hall.errands errand = .answered (.offer event) reply) :
    ∃ taker, Chosen answers history errand event taker ∧
      replies history errand = [reply] ∧
      recipients history errand = taker.toList.map (fun id => (id, event)) ∧
      reply = if taker.isSome then .claimed else .unclaimed event := by
  have balanced := reached.balanced errand
  simp only [Balanced, answered] at balanced
  have told : (hall.errands errand).told := by
    rw [answered]
    trivial
  obtain ⟨before, during, later, start, first, last, next, rfl, begun, enters, run, leaves,
    after⟩ := reached.whole_search told
  have offered : .offer event ∈ requests before errand := by
    obtain ⟨request, -, made⟩ := begun.request_of_enters enters
    have whole := balanced.1
    simp only [requests, List.filterMap_append] at whole made ⊢
    simp only [made, List.append_assoc, List.cons_append, List.cons.injEq] at whole ⊢
    exact List.mem_singleton.mpr whole.1.symm
  have searched := begun.searched offered enters run leaves
  have left : Reached answers (before ++ [.entered errand] ++ during) last :=
    (begun.snoc enters).append run
  have telling := (left.telling_of_left leaves searched.told).append (left.snoc leaves) after
  rcases telling with ⟨request, rest, stage, -⟩ | ⟨request, stage, sent, replied⟩
  · cases answered.symm.trans stage
  · cases answered.symm.trans stage
    refine ⟨_, ⟨before, during, later, start, next, rfl, begun, searched, rfl⟩, replied, ?_, ?_⟩
    · rw [recipients, sent, delivered_outcomes, Option.toList_map, List.map_map]
      rfl
    · rw [replyTo]
      cases taker? (sightOf during errand) start.queue.slots <;> rfl

end Search

end Hall
end Switchboard
