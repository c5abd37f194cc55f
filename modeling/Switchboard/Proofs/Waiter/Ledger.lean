import Switchboard.Proofs.Waiter.Order

set_option autoImplicit false

namespace Switchboard

namespace Findings

variable (findings : Findings) (event : Event) (id : WaiterId) (reason : String)

@[simp] theorem letters_blank : blank.letters event = [] := rfl

@[simp] theorem letters_addStale :
    (findings.addStale id).letters event = findings.letters event := rfl

theorem letters_addFailed (open_ : findings.winner = none) :
    (findings.addFailed id reason).letters event =
      findings.letters event ++ [(id, .error (.patternFailed reason))] := by
  simp [letters, addFailed, open_]

theorem letters_winner (open_ : findings.winner = none) :
    ({ findings with winner := some id } : Findings).letters event =
      findings.letters event ++ [(id, .ok event)] := by
  simp [letters, open_]

end Findings

/-- By acting on a verdict an errand comes to owe an outcome just if it wins the waiter. -/
theorem judged_letters {queue next : Queue} {findings found : Findings} {id : WaiterId}
    {verdict : Verdict} {errand : ErrandId} {event : Event}
    (judged : queue.judge findings id verdict = (found, next)) (open_ : findings.winner = none) :
    found.letters event = findings.letters event ++
      ((Act.saw errand event id (verdict.sight (queue.isWon id))).pledge? errand).toList := by
  obtain ⟨rfl, rfl, -⟩ | ⟨rfl, free, rfl, -⟩ | ⟨reason, rfl, free, rfl, -⟩ |
    ⟨opposed, taken, rfl, -⟩ := Queue.judge_cases judged
  · exact (List.append_nil _).symm
  · rw [(queue.isWon_eq_false id).mpr free, findings.letters_winner event id open_]
    simp [Verdict.sight, Act.pledge?, Act.capture?, Capture.pledge?, Capture.party,
      Capture.resolution?]
  · rw [(queue.isWon_eq_false id).mpr free, findings.letters_addFailed event id reason open_]
    simp [Verdict.sight, Act.pledge?, Act.capture?, Capture.pledge?, Capture.party,
      Capture.resolution?]
  · rw [(queue.isWon_eq_true id).mpr taken, findings.letters_addStale]
    cases verdict with
    | rejects => exact absurd rfl opposed
    | _ => exact (List.append_nil _).symm

/-- The outcomes that an errand will send once it gives the lock back. -/
def Lock.letters (errand : ErrandId) : Lock → List (WaiterId × Resolution)
  | .free => []
  | .searching owner event findings _ | .consulting owner event findings _ _ =>
    if owner = errand then findings.letters event else []
  | .sweeping owner reason _ _ ids =>
    if owner = errand then ids.map fun id => (id, .error reason) else []

/-- A reply agrees with what the errand owed. -/
def Errand.Fits (reply : Reply) (owed : List (WaiterId × Resolution)) : Errand → Prop
  | .offer event =>
    ∃ findings : Findings, owed = findings.letters event ∧ reply = findings.reply event
  | .sweep reason _ =>
    ∃ ids : List WaiterId, owed = ids.map (fun id => (id, .error reason)) ∧
      reply = .resolved ids.length

theorem Errand.fits_nil (request : Errand) : ∃ reply, request.Fits reply [] := by
  cases request with
  | offer event => exact ⟨_, .blank, rfl, rfl⟩
  | sweep reason closing => exact ⟨_, [], rfl, rfl⟩

/-- What an errand will send once it gives the lock back agrees with some reply. -/
theorem Lock.Sound.fits {lock : Lock} {queue : Queue} {errands : ErrandId → ErrandStage}
    (sound : lock.Sound queue errands) {errand : ErrandId} {request : Errand}
    (asked : errands errand = .asked request) :
    ∃ reply, request.Fits reply (lock.letters errand) := by
  cases lock with
  | free => exact request.fits_nil
  | searching owner event findings | consulting owner event findings =>
    by_cases own : owner = errand
    · subst own
      cases asked.symm.trans sound.1
      exact ⟨_, findings, by simp only [Lock.letters, ↓reduceIte], rfl⟩
    · simp only [Lock.letters, own, ↓reduceIte]
      exact request.fits_nil
  | sweeping owner reason closing rest ids =>
    by_cases own : owner = errand
    · subst own
      cases asked.symm.trans sound.1
      exact ⟨_, ids, by simp only [Lock.letters, ↓reduceIte], rfl⟩
    · simp only [Lock.letters, own, ↓reduceIte]
      exact request.fits_nil

namespace Hall

variable {answers : Answers} {hall next : Hall} {act : Act} {history : List Act}

/-- The books of an errand agree with how far it has come. -/
def Balanced (history : List Act) (hall : Hall) (errand : ErrandId) : Prop :=
  match hall.errands errand with
  | .unasked =>
    requests history errand = [] ∧ pledges history errand = [] ∧ letters history errand = [] ∧
      replies history errand = []
  | .asked request =>
    requests history errand = [request] ∧
      pledges history errand = hall.lock.letters errand ∧ letters history errand = [] ∧
      replies history errand = []
  | .telling request reply rest =>
    requests history errand = [request] ∧
      pledges history errand = letters history errand ++ rest ∧ replies history errand = [] ∧
      request.Fits reply (pledges history errand)
  | .answered request reply =>
    requests history errand = [request] ∧
      pledges history errand = letters history errand ∧ replies history errand = [reply] ∧
      request.Fits reply (pledges history errand)

theorem start_balanced (errand : ErrandId) : Balanced [] start errand := ⟨rfl, rfl, rfl, rfl⟩

theorem Step.errand_frame (step : Step answers hall act next) {errand : ErrandId}
    (other : act.errand? ≠ some errand) :
    next.errands errand = hall.errands errand ∧
      next.lock.letters errand = hall.lock.letters errand := by
  have apart : ∀ {owner : ErrandId}, some owner ≠ some errand → owner ≠ errand :=
    fun differ same => differ (congrArg some same)
  cases step with
  | ask | answer => exact ⟨Function.update_of_ne (apart other).symm _ _, rfl⟩
  | send => exact ⟨Function.update_of_ne (apart other).symm _ _, rfl⟩
  | enterSearch _ _ free | enterSweep _ _ _ free =>
    simp [Lock.letters, free, apart other]
  | passWon _ _ _ _ _ held | passKind _ _ _ _ _ held | consult _ _ _ _ _ held
  | judge _ _ _ _ _ _ _ _ held | sweep _ _ _ _ _ _ _ _ held =>
    simp [Lock.letters, held, apart other]
  | leaveSearch _ _ _ held =>
    refine ⟨Function.update_of_ne (apart other).symm _ _, ?_⟩
    simp [setErrand, Lock.letters, held, apart other]
  | leaveSweep _ _ _ _ held =>
    refine ⟨Function.update_of_ne (apart other).symm _ _, ?_⟩
    simp [setErrand, Lock.letters, held, apart other]
  | _ => exact ⟨rfl, rfl⟩

theorem Balanced.frame {errand : ErrandId} (balanced : Balanced history hall errand)
    (step : Step answers hall act next) (other : act.errand? ≠ some errand) :
    Balanced (history ++ [act]) next errand := by
  obtain ⟨stage, owed⟩ := step.errand_frame other
  simp only [Balanced, stage, owed, requests_snoc, pledges_snoc, letters_snoc, replies_snoc,
    Act.request?_of_errand_ne other, Act.pledge?_of_errand_ne other,
    Act.letter?_of_errand_ne other, Act.reply?_of_errand_ne other, Option.toList_none,
    List.append_nil]
  exact balanced

/-- While an errand has the lock, it comes to owe what its step says it does. -/
theorem Balanced.pledge {errand : ErrandId} {request : Errand}
    (balanced : Balanced history hall errand) (asked : hall.errands errand = .asked request)
    (kept : next.errands errand = .asked request) (unasked : act.request? errand = none)
    (unsent : act.letter? errand = none) (unanswered : act.reply? errand = none)
    (owes : next.lock.letters errand =
      hall.lock.letters errand ++ (act.pledge? errand).toList) :
    Balanced (history ++ [act]) next errand := by
  simp only [Balanced, asked] at balanced
  obtain ⟨requested, owed, sent, replied⟩ := balanced
  simp only [Balanced, kept, requests_snoc, pledges_snoc, letters_snoc, replies_snoc, unasked,
    unsent, unanswered, Option.toList_none, List.append_nil]
  exact ⟨requested, by rw [owed, owes], sent, replied⟩

theorem Balanced.leave {errand : ErrandId} {request : Errand} {reply : Reply}
    (balanced : Balanced history hall errand) (asked : hall.errands errand = .asked request)
    (told : next.errands errand = .telling request reply (hall.lock.letters errand))
    (fits : request.Fits reply (hall.lock.letters errand)) :
    Balanced (history ++ [.left errand]) next errand := by
  simp only [Balanced, asked] at balanced
  obtain ⟨requested, owed, sent, replied⟩ := balanced
  simp only [Balanced, told, requests_snoc, pledges_snoc, letters_snoc, replies_snoc,
    Act.request?, Act.pledge?, Act.capture?, Act.letter?, Act.reply?, Option.bind_none,
    Option.toList_none, List.append_nil]
  exact ⟨requested, by rw [owed, sent, List.nil_append], replied, by rw [owed]; exact fits⟩

theorem Step.balanced_own {errand : ErrandId} (step : Step answers hall act next)
    (orderly : Orderly hall) (balanced : Balanced history hall errand)
    (own : act.errand? = some errand) : Balanced (history ++ [act]) next errand := by
  have lock := orderly.lock
  cases step with
  | ask owner request fresh =>
    cases own
    have free : hall.lock.letters errand = [] := by
      cases held : hall.lock with
      | free => rfl
      | searching owner | consulting owner | sweeping owner =>
        have apart : owner ≠ errand := by
          rintro rfl
          rw [held] at lock
          exact nomatch fresh.symm.trans lock.1
        simp only [Lock.letters, apart, ↓reduceIte]
    simp only [Balanced, fresh] at balanced
    obtain ⟨requested, owed, sent, replied⟩ := balanced
    simp [Balanced, setErrand, requests_snoc, pledges_snoc, letters_snoc, replies_snoc, requested,
      owed, sent, replied, free, Act.request?, Act.pledge?, Act.capture?, Act.letter?, Act.reply?]
  | enterSearch owner event free asked =>
    cases own
    refine balanced.pledge asked asked rfl rfl rfl ?_
    simp [Lock.letters, free, Act.pledge?, Act.capture?]
  | passWon owner event findings slot rest held won =>
    cases own
    rw [held] at lock
    refine balanced.pledge lock.1 lock.1 rfl rfl rfl ?_
    simp [Lock.letters, held, Act.pledge?, Act.capture?]
  | passKind owner event findings slot rest held unwon other =>
    cases own
    rw [held] at lock
    refine balanced.pledge lock.1 lock.1 rfl rfl rfl ?_
    simp [Lock.letters, held, Act.pledge?, Act.capture?]
  | consult owner event findings slot rest held unwon same =>
    cases own
    rw [held] at lock
    refine balanced.pledge lock.1 lock.1 rfl rfl rfl ?_
    simp [Lock.letters, held, Act.pledge?, Act.capture?]
  | judge owner event findings found slot rest verdict queue held answer judged =>
    cases own
    rw [held] at lock
    obtain ⟨asked, -, blank, -⟩ := lock
    refine balanced.pledge asked asked rfl rfl rfl ?_
    simp only [Lock.letters, held, ↓reduceIte]
    exact judged_letters judged blank
  | leaveSearch owner event findings held =>
    cases own
    have owed : hall.lock.letters errand = findings.letters event := by
      simp only [Lock.letters, held, ↓reduceIte]
    rw [held] at lock
    refine balanced.leave lock.1 (Function.update_self ..|>.trans ?_) ⟨findings, owed, rfl⟩
    rw [owed]
  | enterSweep owner reason closing free asked =>
    cases own
    refine balanced.pledge asked asked rfl rfl rfl ?_
    simp [Lock.letters, free, Act.pledge?, Act.capture?]
  | sweep owner reason closing id rest ids won queue held tried =>
    cases own
    rw [held] at lock
    refine balanced.pledge lock.1 lock.1 rfl rfl rfl ?_
    cases won <;> simp [Lock.letters, held, Act.pledge?, Act.capture?, Capture.pledge?,
      Capture.party, Capture.resolution?]
  | leaveSweep owner reason closing ids held =>
    cases own
    have owed : hall.lock.letters errand = ids.map fun id => (id, .error reason) := by
      simp only [Lock.letters, held, ↓reduceIte]
    rw [held] at lock
    refine balanced.leave lock.1 (Function.update_self ..|>.trans ?_) ⟨ids, owed, rfl⟩
    rw [owed]
  | send owner request reply id resolution rest telling =>
    cases own
    simp only [Balanced, telling] at balanced
    obtain ⟨requested, owed, replied, fits⟩ := balanced
    simp only [Balanced, setErrand, Function.update_self, requests_snoc, pledges_snoc,
      letters_snoc, replies_snoc, Act.request?, Act.pledge?, Act.capture?, Act.letter?, Act.reply?,
      Option.bind_none, Option.toList_none, Option.toList_some, List.append_nil, ↓reduceIte]
    exact ⟨requested, by rw [owed, List.append_assoc, List.singleton_append], replied, fits⟩
  | answer owner request reply telling =>
    cases own
    simp only [Balanced, telling] at balanced
    obtain ⟨requested, owed, replied, fits⟩ := balanced
    simp only [Balanced, setErrand, Function.update_self, requests_snoc, pledges_snoc,
      letters_snoc, replies_snoc, Act.request?, Act.pledge?, Act.capture?, Act.letter?, Act.reply?,
      Option.bind_none, Option.toList_none, Option.toList_some, List.append_nil, ↓reduceIte]
    exact ⟨requested, by rw [owed, List.append_nil], by rw [replied, List.nil_append], fits⟩
  | _ => cases own

theorem Reached.balanced (reached : Reached answers history hall) (errand : ErrandId) :
    Balanced history hall errand := by
  induction reached with
  | nil => exact start_balanced errand
  | @snoc history hall next act run step ih =>
    by_cases own : act.errand? = some errand
    · exact step.balanced_own (Reached.orderly run) ih own
    · exact ih.frame step own

/-- An errand that has given the lock back sends what it owes in order and answers then. -/
theorem Step.own_of_told (step : Step answers hall act next) (orderly : Orderly hall)
    {errand : ErrandId} (told : (hall.errands errand).told) (own : act.errand? = some errand) :
    ∃ request reply,
      (∃ letter rest, hall.errands errand = .telling request reply (letter :: rest) ∧
        act = .sent errand letter.1 letter.2 ∧
        next.errands errand = .telling request reply rest) ∨
      (hall.errands errand = .telling request reply [] ∧ act = .answered errand reply ∧
        next.errands errand = .answered request reply) := by
  have unlocked : hall.lock.errand? ≠ some errand := by
    intro held
    obtain ⟨request, asked⟩ := orderly.lock.asked held
    rw [asked] at told
    exact told
  cases step with
  | ask _ _ fresh =>
    cases own
    rw [fresh] at told
    exact told.elim
  | enterSearch _ _ _ asked | enterSweep _ _ _ _ asked =>
    cases own
    rw [asked] at told
    exact told.elim
  | passWon _ _ _ _ _ held | passKind _ _ _ _ _ held | consult _ _ _ _ _ held
  | judge _ _ _ _ _ _ _ _ held | leaveSearch _ _ _ held | sweep _ _ _ _ _ _ _ _ held
  | leaveSweep _ _ _ _ held =>
    cases own
    exact absurd (by rw [held]; rfl) unlocked
  | send _ request reply id resolution rest telling =>
    cases own
    exact ⟨request, reply, Or.inl ⟨(id, resolution), rest, telling, rfl, Function.update_self ..⟩⟩
  | answer _ request reply telling =>
    cases own
    exact ⟨request, reply, Or.inr ⟨telling, rfl, Function.update_self ..⟩⟩
  | _ => cases own

theorem Step.told_kept (step : Step answers hall act next) (orderly : Orderly hall)
    {errand : ErrandId} (told : (hall.errands errand).told) : (next.errands errand).told := by
  by_cases own : act.errand? = some errand
  · obtain ⟨request, reply, ⟨letter, rest, -, -, later⟩ | ⟨-, -, later⟩⟩ :=
      step.own_of_told orderly told own <;> rw [later] <;> trivial
  · rw [(step.errand_frame own).1]
    exact told

theorem Step.told_of_left {errand : ErrandId} (step : Step answers hall (.left errand) next)
    (orderly : Orderly hall) : ¬ (hall.errands errand).told ∧ (next.errands errand).told := by
  have lock := orderly.lock
  cases step with
  | leaveSearch _ _ _ held =>
    rw [held] at lock
    simp only [setErrand, Function.update_self, lock.1, ErrandStage.told, not_false_eq_true,
      and_self]
  | leaveSweep _ _ _ _ held =>
    rw [held] at lock
    simp only [setErrand, Function.update_self, lock.1, ErrandStage.told, not_false_eq_true,
      and_self]

/-- While an errand that has given the lock back is to send some outcomes, those it has sent are the
first of what it owes; and all were sent when it has answered. -/
def Telling (history : List Act) (hall : Hall) (errand : ErrandId) (reply : Reply)
    (owed : List (WaiterId × Resolution)) : Prop :=
  (∃ request rest, hall.errands errand = .telling request reply rest ∧
    letters history errand ++ rest = owed ∧ replies history errand = []) ∨
  ∃ request, hall.errands errand = .answered request reply ∧ letters history errand = owed ∧
    replies history errand = [reply]

theorem Telling.snoc {errand : ErrandId} {reply : Reply} {owed : List (WaiterId × Resolution)}
    (telling : Telling history hall errand reply owed) (step : Step answers hall act next)
    (orderly : Orderly hall) : Telling (history ++ [act]) next errand reply owed := by
  by_cases own : act.errand? = some errand
  · rcases telling with ⟨request, rest, stage, sent, unanswered⟩ | ⟨request, stage, sent, replied⟩
    · obtain ⟨asked, answer, ⟨letter, later, found, rfl, after⟩ | ⟨found, rfl, after⟩⟩ :=
        step.own_of_told orderly (by rw [stage]; trivial) own
      · cases stage.symm.trans found
        refine Or.inl ⟨request, later, after, ?_, ?_⟩
        · rw [letters_snoc, ← sent]
          simp [Act.letter?]
        · rw [replies_snoc, unanswered]
          rfl
      · cases stage.symm.trans found
        refine Or.inr ⟨request, after, ?_, ?_⟩
        · rw [letters_snoc, ← sent]
          rfl
        · rw [replies_snoc, unanswered]
          simp [Act.reply?]
    · obtain ⟨asked, answer, ⟨letter, later, found, -⟩ | ⟨found, -⟩⟩ :=
        step.own_of_told orderly (by rw [stage]; trivial) own <;>
        cases stage.symm.trans found
  · unfold Telling
    rw [(step.errand_frame own).1, letters_snoc, replies_snoc, Act.letter?_of_errand_ne own,
      Act.reply?_of_errand_ne own, Option.toList_none, Option.toList_none, List.append_nil,
      List.append_nil]
    exact telling

theorem Telling.append {errand : ErrandId} {reply : Reply} {owed : List (WaiterId × Resolution)}
    (telling : Telling history hall errand reply owed) (reached : Reached answers history hall)
    {later : List Act} {final : Hall} (run : Run answers hall later final) :
    Telling (history ++ later) final errand reply owed := by
  induction run with
  | nil => rwa [List.append_nil]
  | snoc run step ih =>
    rw [← List.append_assoc]
    exact ih.snoc step (Reached.orderly (reached.append run))

theorem Reached.telling_of_left {errand : ErrandId} {request : Errand} {reply : Reply}
    {owed : List (WaiterId × Resolution)} (reached : Reached answers history hall)
    (step : Step answers hall (.left errand) next)
    (told : next.errands errand = .telling request reply owed) :
    Telling (history ++ [.left errand]) next errand reply owed := by
  have untold := (step.told_of_left reached.orderly).1
  have balanced := reached.balanced errand
  have quiet : letters history errand = [] ∧ replies history errand = [] := by
    unfold Balanced at balanced
    split at balanced
    · exact balanced.2.2
    · exact balanced.2.2
    · rename_i stage
      rw [stage] at untold
      exact absurd trivial untold
    · rename_i stage
      rw [stage] at untold
      exact absurd trivial untold
  refine Or.inl ⟨request, owed, told, ?_, ?_⟩
  · rw [letters_snoc, quiet.1]
    rfl
  · rw [replies_snoc, quiet.2]
    rfl

/-- The waiters that are won are those that were won, and none was won twice. -/
theorem Reached.won (reached : Reached answers history hall) :
    hall.queue.won = ((captures history).map Prod.fst).reverse ∧
      ((captures history).map Prod.fst).Nodup := by
  induction reached with
  | nil => exact ⟨rfl, List.nodup_nil⟩
  | @snoc history hall next act run step ih =>
    obtain ⟨won, distinct⟩ := ih
    rw [captures_snoc, List.map_append, List.reverse_append, ← won, step.effect.won_eq]
    cases hit : act.capture? with
    | none => exact ⟨rfl, by simpa using distinct⟩
    | some pair =>
      have orderly := Reached.orderly run
      have fresh := step.effect.fresh orderly.won pair.1 pair.2 hit
      rw [won, List.mem_reverse] at fresh
      refine ⟨rfl, ?_⟩
      rw [Option.toList_some, List.map_singleton, List.nodup_append]
      refine ⟨distinct, by simp, ?_⟩
      rintro id old _ new rfl
      rw [List.mem_singleton.mp new] at old
      exact fresh old

end Hall
end Switchboard
