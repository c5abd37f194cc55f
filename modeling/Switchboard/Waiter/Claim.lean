import Switchboard.Waiter.Queue

set_option autoImplicit false

namespace Switchboard

/-- What a search has found so far. -/
structure Findings where
  /-- The waiters found won. -/
  stale : List WaiterId
  /-- The waiters whose patterns failed, with the reasons. -/
  failed : List (WaiterId × String)
  winner : Option WaiterId

namespace Findings

def blank : Findings := ⟨[], [], none⟩

def addStale (findings : Findings) (id : WaiterId) : Findings :=
  { findings with stale := findings.stale ++ [id] }

def addFailed (findings : Findings) (id : WaiterId) (reason : String) : Findings :=
  { findings with failed := findings.failed ++ [(id, reason)] }

/-- The waiters whose slots are taken out at the end of the search. -/
def leaving (findings : Findings) : List WaiterId :=
  findings.stale ++ findings.failed.map (·.1) ++ findings.winner.toList

/-- The outcomes that are sent after the search, in the order of sending. -/
def letters (findings : Findings) (event : Event) : List (WaiterId × Resolution) :=
  findings.failed.map (fun entry => (entry.1, .error (.patternFailed entry.2))) ++
    findings.winner.toList.map fun id => (id, .ok event)

end Findings

namespace Queue

def judge (queue : Queue) (findings : Findings) (id : WaiterId) : Verdict → Findings × Queue
  | .rejects => (findings, queue)
  | .accepts =>
    match queue.win id with
    | (true, next) => ({ findings with winner := some id }, next)
    | (false, _) => (findings.addStale id, queue)
  | .fails reason =>
    match queue.win id with
    | (true, next) => (findings.addFailed id reason, next)
    | (false, _) => (findings.addStale id, queue)

theorem judge_cases {queue next : Queue} {findings found : Findings} {id : WaiterId}
    {verdict : Verdict} (judged : queue.judge findings id verdict = (found, next)) :
    (verdict = .rejects ∧ found = findings ∧ next = queue) ∨
      (verdict = .accepts ∧ id ∉ queue.won ∧ found = { findings with winner := some id } ∧
        next = { queue with won := id :: queue.won }) ∨
      (∃ reason, verdict = .fails reason ∧ id ∉ queue.won ∧
        found = findings.addFailed id reason ∧ next = { queue with won := id :: queue.won }) ∨
      (verdict ≠ .rejects ∧ id ∈ queue.won ∧ found = findings.addStale id ∧ next = queue) := by
  by_cases taken : id ∈ queue.won
  · cases verdict <;> simp only [judge, queue.win_of_mem id taken, Prod.mk.injEq] at judged <;>
      obtain ⟨rfl, rfl⟩ := judged <;> simp [taken]
  · cases verdict <;> simp only [judge, queue.win_of_not_mem id taken, Prod.mk.injEq] at judged <;>
      obtain ⟨rfl, rfl⟩ := judged <;> simp [taken]

theorem judge_frame {queue next : Queue} {findings found : Findings} {id : WaiterId}
    {verdict : Verdict} (judged : queue.judge findings id verdict = (found, next)) :
    ∃ ids, next = { queue with won := ids } := by
  obtain ⟨-, -, same⟩ | ⟨-, -, -, same⟩ | ⟨-, -, -, -, same⟩ | ⟨-, -, -, same⟩ :=
    judge_cases judged
  · exact ⟨queue.won, same⟩
  · exact ⟨_, same⟩
  · exact ⟨_, same⟩
  · exact ⟨queue.won, same⟩

def settle (queue : Queue) (findings : Findings) : Queue := findings.leaving.foldl remove queue

theorem removeAll_eq (queue : Queue) (ids : List WaiterId) :
    ids.foldl remove queue =
      { queue with slots := queue.slots.filter fun slot => slot.id ∉ ids } := by
  induction ids generalizing queue with
  | nil => rw [List.foldl_nil, List.filter_eq_self.mpr (by simp)]
  | cons id rest ih =>
    rw [List.foldl_cons, ih, remove]
    simp [List.filter_filter, Bool.and_comm]

theorem settle_eq (queue : Queue) (findings : Findings) :
    queue.settle findings =
      { queue with slots := queue.slots.filter fun slot => slot.id ∉ findings.leaving } :=
  queue.removeAll_eq findings.leaving

end Queue

/-- A search in progress. The slots are visited in the order of registration. While a pattern looks
at the event other waiters may be withdrawn: they are won at once, but their slots stay until the
search is over. -/
structure Scan where
  queue : Queue
  findings : Findings
  /-- The waiters withdrawn on the way, whose slots are still to be taken out. -/
  withdrawn : List WaiterId
  /-- The names under which waiters were withdrawn. -/
  names : List String

namespace Scan

def start (queue : Queue) : Scan := ⟨queue, .blank, [], []⟩

/-- Some party withdraws a waiter in the middle of the search. -/
def withdraw (scan : Scan) (id : WaiterId) : Scan :=
  match scan.queue.win id with
  | (true, queue) => { scan with queue := queue, withdrawn := scan.withdrawn ++ [id] }
  | (false, _) => scan

/-- The holder of a name withdraws the waiter kept under it. -/
def withdrawNamed (holder : String → Option WaiterId) (scan : Scan) (name : String) : Scan :=
  let named := { scan with names := scan.names ++ [name] }
  match holder name with
  | some id => named.withdraw id
  | none => named

def judge (scan : Scan) (id : WaiterId) (verdict : Verdict) : Scan :=
  let (findings, queue) := scan.queue.judge scan.findings id verdict
  { scan with findings := findings, queue := queue }

def visit (holder : String → Option WaiterId) (event : Event) (scan : Scan) (slot : Slot) : Scan :=
  if scan.queue.isWon slot.id then { scan with findings := scan.findings.addStale slot.id }
  else if slot.kind ≠ event.kind then scan
  else
    let (names, verdict) := slot.pattern.evaluate event
    (names.foldl (withdrawNamed holder) scan).judge slot.id verdict

def visitAll (holder : String → Option WaiterId) (event : Event) (scan : Scan) : List Slot → Scan
  | [] => scan
  | slot :: rest =>
    let next := scan.visit holder event slot
    match next.findings.winner with
    | some _ => next
    | none => visitAll holder event next rest

end Scan

/-- What came of offering an event. -/
structure Claim where
  queue : Queue
  /-- The waiter that took the event. -/
  winner : Option WaiterId
  /-- The waiters that were sent an outcome, in the order of sending. -/
  resolved : List WaiterId
  /-- The waiters whose slots are still to be taken out. -/
  withdrawn : List WaiterId
  /-- The names under which waiters were withdrawn. -/
  names : List String

namespace Queue

/-- Offers an event to the waiters (`try_claim`). One of its kind whose pattern accepts it takes it,
if nobody has won it before; one whose pattern fails is resolved with the failure, and the search
goes on. Waiters found won lose their slots. The outcomes are sent after the search. -/
def claim (queue : Queue) (holder : String → Option WaiterId) (event : Event) : Claim :=
  let scan := (Scan.start queue).visitAll holder event queue.slots
  let letters := scan.findings.letters event
  ⟨(scan.queue.settle scan.findings).sendAll letters, scan.findings.winner,
    letters.map (·.1), scan.withdrawn, scan.names⟩

end Queue
end Switchboard
