import Switchboard.Proofs.Waiter.Hall

set_option autoImplicit false

/- What the operations of the queue do at a stroke, the parties of the hall do step by step when
nobody comes between them. So all that holds of every run holds of the operations. -/

namespace Switchboard

theorem Scan.withdraw_cases (scan : Scan) (id : WaiterId) :
    (id ∈ scan.queue.won ∧ scan.withdraw id = scan) ∨
      (id ∉ scan.queue.won ∧ scan.withdraw id = { scan with
        queue := { scan.queue with won := id :: scan.queue.won }
        withdrawn := scan.withdrawn ++ [id] }) := by
  by_cases taken : id ∈ scan.queue.won
  · exact Or.inl ⟨taken, by rw [Scan.withdraw, scan.queue.win_of_mem id taken]⟩
  · exact Or.inr ⟨taken, by rw [Scan.withdraw, scan.queue.win_of_not_mem id taken]⟩

theorem Scan.withdrawNamed_findings (holder : String → Option WaiterId) (scan : Scan)
    (name : String) : (scan.withdrawNamed holder name).findings = scan.findings := by
  rw [Scan.withdrawNamed]
  cases holder name with
  | none => rfl
  | some id =>
    simp only [Scan.withdraw]
    split <;> rfl

/-- Who was won before a search is won still, and so is who was withdrawn in it. -/
structure Scan.Since (queue : Queue) (scan : Scan) : Prop where
  won : ∀ id ∈ queue.won, id ∈ scan.queue.won
  withdrawn : ∀ id ∈ scan.withdrawn, id ∈ scan.queue.won

namespace Hall

variable {answers : Answers} {hall next final : Hall} {act : Act} {errand : ErrandId}

/-- Some steps lead from one state of affairs to another. -/
def Leads (answers : Answers) (hall final : Hall) : Prop :=
  ∃ history, Run answers hall history final

theorem Leads.refl (hall : Hall) : Leads answers hall hall := ⟨[], .nil⟩

theorem Leads.trans (first : Leads answers hall next) (second : Leads answers next final) :
    Leads answers hall final := by
  obtain ⟨earlier, before⟩ := first
  obtain ⟨later, after⟩ := second
  exact ⟨earlier ++ later, before.append after⟩

theorem Leads.snoc (leads : Leads answers hall next) (step : Step answers next act final) :
    Leads answers hall final := by
  obtain ⟨history, run⟩ := leads
  exact ⟨_, run.snoc step⟩

theorem Step.leads (step : Step answers hall act next) : Leads answers hall next :=
  (Leads.refl hall).snoc step

theorem setErrand_errands (hall : Hall) (errand : ErrandId) (stage : ErrandStage) :
    (hall.setErrand errand stage).errands errand = stage := Function.update_self ..

theorem leads_tell {request : Errand} {reply : Reply} (letters : List (WaiterId × Resolution))
    (telling : hall.errands errand = .telling request reply letters) :
    Leads answers hall ({ hall with queue := hall.queue.sendAll letters }.setErrand errand
      (.answered request reply)) := by
  induction letters generalizing hall with
  | nil => exact (Step.answer errand request reply telling).leads
  | cons letter rest ih =>
    have sends : Leads answers hall _ :=
      (Step.send errand request reply letter.1 letter.2 rest telling).leads
    have tells := sends.trans (ih (setErrand_errands ..))
    simp only [setErrand, Function.update_idem] at tells
    exact tells

/-- An errand tries to win all waiters that it has taken out of the queue. -/
theorem leads_sweep {reason : WaitError} {closing : Bool} (ids won : List WaiterId)
    (held : hall.lock = .sweeping errand reason closing ids won) :
    Leads answers hall { hall with
      queue := (hall.queue.winEach ids).2
      lock := .sweeping errand reason closing [] (won ++ (hall.queue.winEach ids).1) } := by
  induction ids generalizing hall won with
  | nil =>
    rw [Queue.winEach, List.append_nil, ← held]
    exact .refl hall
  | cons id rest ih =>
    rw [Queue.winEach]
    cases tried : hall.queue.win id with
    | mk hit queue =>
      have tries : Leads answers hall _ :=
        (Step.sweep errand reason closing id rest won hit queue held tried).leads
      have others := tries.trans (ih _ rfl)
      cases hit with
      | false => exact others
      | true =>
        simp only [↓reduceIte, List.append_assoc, List.singleton_append] at others
        exact others

theorem leads_sweepAll {reason : WaitError} {closing : Bool} (free : hall.lock = .free)
    (asked : hall.errands errand = .asked (.sweep reason closing)) :
    Leads answers hall ({ hall with queue := (hall.queue.sweep reason closing).2 }.setErrand errand
      (.answered (.sweep reason closing)
        (.resolved (hall.queue.sweep reason closing).1.length))) := by
  have enters : Leads answers hall _ := (Step.enterSweep errand reason closing free asked).leads
  have wins := enters.trans (leads_sweep _ [] rfl)
  have leaves := wins.snoc (.leaveSweep errand reason closing _ rfl)
  have tells := leaves.trans (leads_tell _ (setErrand_errands ..))
  simp only [setErrand, Function.update_idem, List.nil_append] at tells
  rw [← free] at tells
  exact tells

/-- The waiters that are kept under names have holders, except those that are won. -/
def Keeps (hall : Hall) (holder : String → Option WaiterId) : Prop :=
  ∀ name id, holder name = some id → id ∉ hall.queue.won →
    ∃ kind use, hall.holders id = .holding kind false use

/-- The hall in the middle of a search. The waiters withdrawn on the way are given up. -/
def amid (hall : Hall) (scan : Scan) (lock : Lock) : Hall :=
  { hall with
    queue := scan.queue
    holders := fun id => if id ∈ scan.withdrawn then .leaving else hall.holders id
    lock := lock }

/-- The hall in the middle of a search that has some slots still to look at, unless a waiter has
taken the event. -/
def searching (hall : Hall) (errand : ErrandId) (event : Event) (scan : Scan) (rest : List Slot) :
    Hall :=
  hall.amid scan (.searching errand event scan.findings
    (if scan.findings.winner.isSome then [] else rest))

section Search

variable {holder : String → Option WaiterId} {scan : Scan} {event : Event}

theorem leads_withdraw (keeps : hall.Keeps holder) (since : scan.Since hall.queue) (name : String)
    (lock : Lock) :
    (scan.withdrawNamed holder name).Since hall.queue ∧
      Leads answers (hall.amid scan lock) (hall.amid (scan.withdrawNamed holder name) lock) := by
  rw [Scan.withdrawNamed]
  cases named : holder name with
  | none => exact ⟨⟨since.won, since.withdrawn⟩, .refl _⟩
  | some id =>
    obtain ⟨taken, same⟩ | ⟨free, same⟩ :=
      Scan.withdraw_cases { scan with names := scan.names ++ [name] } id
    · simp only [same]
      exact ⟨⟨since.won, since.withdrawn⟩, .refl _⟩
    · -- nobody has won it, so it was not withdrawn before and its holder is still there
      have present : id ∉ scan.withdrawn := fun member => free (since.withdrawn id member)
      obtain ⟨kind, use, holding⟩ := keeps name id named fun won => free (since.won id won)
      have held : (hall.amid scan lock).holders id = .holding kind false use := by
        simp only [amid, present, ↓reduceIte, holding]
      have drops : Leads answers (hall.amid scan lock) _ :=
        (Step.drop id kind use _ held (scan.queue.win_of_not_mem id free)).leads
      simp only [same]
      refine ⟨⟨fun other won => List.mem_cons_of_mem _ (since.won other won), ?_⟩, ?_⟩
      · intro other member
        rcases List.mem_append.mp member with old | new
        · exact List.mem_cons_of_mem _ (since.withdrawn other old)
        · rw [List.mem_singleton.mp new]
          exact List.mem_cons_self ..
      · convert drops using 1
        simp only [amid, setHolder, Hall.mk.injEq, true_and, and_true]
        funext other
        by_cases own : other = id
        · simp [own]
        · simp [own]

theorem leads_names (keeps : hall.Keeps holder) (since : scan.Since hall.queue)
    (names : List String) (lock : Lock) :
    (names.foldl (Scan.withdrawNamed holder) scan).Since hall.queue ∧
      (names.foldl (Scan.withdrawNamed holder) scan).findings = scan.findings ∧
      Leads answers (hall.amid scan lock)
        (hall.amid (names.foldl (Scan.withdrawNamed holder) scan) lock) := by
  induction names generalizing scan with
  | nil => exact ⟨since, rfl, .refl _⟩
  | cons name rest ih =>
    rw [List.foldl_cons]
    obtain ⟨since, withdraws⟩ : _ ∧ Leads answers _ _ := leads_withdraw keeps since name lock
    obtain ⟨since, same, others⟩ := ih since
    exact ⟨since, same.trans (scan.withdrawNamed_findings holder name), withdraws.trans others⟩

theorem leads_judge (since : scan.Since hall.queue) {slot : Slot} {verdict : Verdict}
    (answer : answers slot event verdict) (rest : List Slot) :
    (scan.judge slot.id verdict).Since hall.queue ∧
      Leads answers (hall.amid scan (.consulting errand event scan.findings slot rest))
        (hall.searching errand event (scan.judge slot.id verdict) rest) := by
  rw [Scan.judge]
  cases judged : scan.queue.judge scan.findings slot.id verdict with
  | mk findings queue =>
    have judges : Leads answers
        (hall.amid scan (.consulting errand event scan.findings slot rest)) _ :=
      (Step.judge errand event _ findings slot rest verdict queue rfl answer judged).leads
    have grown : ∀ id ∈ scan.queue.won, id ∈ queue.won := by
      intro id member
      obtain ⟨-, -, rfl⟩ | ⟨-, -, -, rfl⟩ | ⟨-, -, -, -, rfl⟩ | ⟨-, -, -, rfl⟩ :=
        Queue.judge_cases judged
      · exact member
      · exact List.mem_cons_of_mem _ member
      · exact List.mem_cons_of_mem _ member
      · exact member
    exact ⟨⟨fun id won => grown id (since.won id won),
      fun id member => grown id (since.withdrawn id member)⟩, judges⟩

theorem searching_of_untaken (scan : Scan) (untaken : scan.findings.winner = none)
    (rest : List Slot) :
    hall.searching errand event scan rest =
      hall.amid scan (.searching errand event scan.findings rest) := by
  simp only [searching, untaken, Option.isSome_none, Bool.false_eq_true, ↓reduceIte]

theorem leads_visit (keeps : hall.Keeps holder) (since : scan.Since hall.queue)
    (untaken : scan.findings.winner = none) (slot : Slot) (rest : List Slot) :
    (scan.visit holder event slot).Since hall.queue ∧
      Leads evaluated (hall.searching errand event scan (slot :: rest))
        (hall.searching errand event (scan.visit holder event slot) rest) := by
  rw [searching_of_untaken scan untaken, Scan.visit]
  by_cases won : slot.id ∈ scan.queue.won
  · rw [if_pos ((scan.queue.isWon_eq_true _).mpr won)]
    refine ⟨⟨since.won, since.withdrawn⟩, ?_⟩
    rw [searching_of_untaken { scan with findings := scan.findings.addStale slot.id } untaken]
    exact (Step.passWon errand event scan.findings slot rest rfl won).leads
  · rw [if_neg (by simp [won])]
    by_cases other : slot.kind ≠ event.kind
    · rw [if_pos other, searching_of_untaken scan untaken]
      exact ⟨since, (Step.passKind errand event scan.findings slot rest rfl won other).leads⟩
    · rw [if_neg other]
      have consults : Leads evaluated
          (hall.amid scan (.searching errand event scan.findings (slot :: rest)))
          (hall.amid scan (.consulting errand event scan.findings slot rest)) :=
        (Step.consult errand event scan.findings slot rest rfl won (not_not.mp other)).leads
      cases evaluation : slot.pattern.evaluate event with
      | mk names verdict =>
        obtain ⟨since, same, withdraws⟩ := leads_names keeps since names
          (.consulting errand event scan.findings slot rest)
        have answer : evaluated slot event verdict := by rw [evaluated, evaluation]
        obtain ⟨since, judges⟩ := leads_judge since answer rest
        rw [same] at judges
        exact ⟨since, (consults.trans withdraws).trans judges⟩

theorem leads_visitAll (keeps : hall.Keeps holder) (slots : List Slot)
    (since : scan.Since hall.queue) (untaken : scan.findings.winner = none) :
    Leads evaluated (hall.searching errand event scan slots)
      (hall.searching errand event (scan.visitAll holder event slots) []) := by
  induction slots generalizing scan with
  | nil => exact .refl _
  | cons slot rest ih =>
    obtain ⟨since, visits⟩ := leads_visit keeps since untaken slot rest
    rw [Scan.visitAll]
    refine visits.trans ?_
    cases winner : (scan.visit holder event slot).findings.winner with
    | none => exact ih since winner
    | some id =>
      simp only [winner, searching, Option.isSome_some, ↓reduceIte]
      exact .refl _

theorem leads_search (keeps : hall.Keeps holder) (free : hall.lock = .free)
    (asked : hall.errands errand = .asked (.offer event)) :
    Leads evaluated hall (hall.searching errand event
      ((Scan.start hall.queue).visitAll holder event hall.queue.slots) []) := by
  have enters : Leads evaluated hall _ := (Step.enterSearch errand event free asked).leads
  have begun : { hall with lock := .searching errand event .blank hall.queue.slots } =
      hall.searching errand event (Scan.start hall.queue) hall.queue.slots := by
    simp [searching, amid, Scan.start, Findings.blank]
  have since : (Scan.start hall.queue).Since hall.queue :=
    ⟨fun id won => won, fun id member => nomatch member⟩
  rw [begun] at enters
  exact enters.trans (leads_visitAll keeps hall.queue.slots since rfl)

theorem leads_claim (keeps : hall.Keeps holder) (free : hall.lock = .free)
    (asked : hall.errands errand = .asked (.offer event)) :
    Leads evaluated hall ({ hall with
        queue := (hall.queue.claim holder event).queue
        holders := fun id =>
          if id ∈ (hall.queue.claim holder event).withdrawn then .leaving else hall.holders id
      }.setErrand errand (.answered (.offer event)
        (if (hall.queue.claim holder event).winner.isSome then .claimed
          else .unclaimed event))) := by
  have visits := leads_search keeps free asked
  generalize found : (Scan.start hall.queue).visitAll holder event hall.queue.slots = scan at visits
  have held : (hall.searching errand event scan []).lock =
      .searching errand event scan.findings [] := by
    simp only [searching, amid, ite_self]
  have leaves := visits.snoc (.leaveSearch errand event scan.findings held)
  have tells := leaves.trans (leads_tell _ (setErrand_errands ..))
  have replied : scan.findings.reply event =
      if scan.findings.winner.isSome then .claimed else .unclaimed event := by
    rw [Findings.reply]
    cases scan.findings.winner <;> rfl
  simp only [setErrand, Function.update_idem, searching, amid, replied] at tells
  rw [← free] at tells
  simp only [Queue.claim, found]
  exact tells

end Search

section Holder

variable {id : WaiterId} {kind : EventKind}

theorem setHolder_holders (hall : Hall) (id : WaiterId) (holder : Holder) :
    (hall.setHolder id holder).holders id = holder := Function.update_self ..

theorem leads_drop {settled : Bool} {use : Use}
    (holding : hall.holders id = .holding kind settled use) (free : hall.lock = .free) :
    Leads answers hall
      ({ hall with queue := Ticket.drop ⟨id, kind, settled⟩ hall.queue }.setHolder id .gone) := by
  cases settled with
  | true => exact (Step.dropSettled id kind use holding).leads
  | false =>
    by_cases won : id ∈ hall.queue.won
    · have lost := hall.queue.win_of_mem id won
      simp only [Ticket.drop, lost, Bool.false_eq_true, ↓reduceIte]
      exact (Step.dropLost id kind use _ holding lost).leads
    · have first := hall.queue.win_of_not_mem id won
      have drops : Leads answers hall _ := (Step.drop id kind use _ holding first).leads
      have detaches := drops.snoc (.detach id (Or.inl (setHolder_holders ..)) free)
      simp only [setHolder, Function.update_idem] at detaches
      simp only [Ticket.drop, first, Bool.false_eq_true, ↓reduceIte]
      exact detaches

/-- To cancel a waiter whose outcome was not collected. If somebody else has won it, and the outcome
is still to be sent, the holder goes on to wait for it. -/
theorem leads_cancel {use : Use} (holding : hall.holders id = .holding kind false use)
    (due : use.mayCancel hall.now = true) (free : hall.lock = .free) :
    ∃ history,
      Run answers hall history
        ({ hall with queue := (Ticket.cancel ⟨id, kind, false⟩ hall.queue).2 }.setHolder id
          (if (Ticket.cancel ⟨id, kind, false⟩ hall.queue).1.isSome then .gone
            else .collecting kind use)) ∧
        ∀ result, (Ticket.cancel ⟨id, kind, false⟩ hall.queue).1 = some result →
          .returned id use result ∈ history := by
  by_cases won : id ∈ hall.queue.won
  · have lost := hall.queue.win_of_mem id won
    have cancels : Run answers hall _ _ := Run.nil.snoc (.cancel id kind use _ _ holding due lost)
    simp only [Ticket.cancel, lost, Bool.false_eq_true, ↓reduceIte] at cancels ⊢
    rcases found : Ticket.collect ⟨id, kind, false⟩ hall.queue with ⟨_ | result, ticket, queue⟩
    · obtain ⟨-, rfl⟩ := Ticket.collect_none found
      exact ⟨_, cancels, fun result none => nomatch none⟩
    · have collects := cancels.snoc
        (.collect id kind use result ticket queue (setHolder_holders ..) found)
      simp only [setHolder, Function.update_idem] at collects
      refine ⟨_, collects, ?_⟩
      intro answer same
      cases same
      exact List.mem_append_right _ (List.mem_singleton_self _)
  · have first := hall.queue.win_of_not_mem id won
    have cancels : Run answers hall _ _ := Run.nil.snoc (.cancel id kind use _ _ holding due first)
    have removes := cancels.snoc (.remove id use (setHolder_holders ..) free)
    simp only [setHolder, Function.update_idem] at removes
    simp only [Ticket.cancel, first, Bool.false_eq_true, ↓reduceIte, Option.isSome_some]
    refine ⟨_, removes, ?_⟩
    intro result same
    cases same
    exact List.mem_append_right _ (List.mem_singleton_self _)

end Holder

end Hall
end Switchboard
