import Mathlib.Data.List.Induction
import Mathlib.Logic.Function.Basic
import Switchboard.Activity.Basic
import Switchboard.Waiter.Claim

set_option autoImplicit false

namespace Switchboard

/-- The number of an errand. -/
abbrev ErrandId := Nat

/-- What a party asks of the queue as a whole: a call of `WaiterQueue` that offers an event to the
waiters or resolves all of them. -/
inductive Errand where
  | offer (event : Event)
  /-- To resolve all waiters with a reason, and perhaps to refuse new ones with it. -/
  | sweep (reason : WaitError) (closing : Bool)

/-- What a party is answered that asked. -/
inductive Reply where
  | claimed
  | unclaimed (event : Event)
  /-- The number of waiters that were resolved. -/
  | resolved (count : Nat)

def Findings.reply (findings : Findings) (event : Event) : Reply :=
  match findings.winner with
  | some _ => .claimed
  | none => .unclaimed event

/-- How far an errand has come: a call of `WaiterQueue` waits for the lock, has it, sends outcomes
after it gave the lock back, or was answered. -/
inductive ErrandStage where
  | unasked
  /-- It waits for the lock, or has it. -/
  | asked (errand : Errand)
  /-- It has given the lock back, and these outcomes are still to be sent. -/
  | telling (errand : Errand) (reply : Reply) (letters : List (WaiterId × Resolution))
  | answered (errand : Errand) (reply : Reply)

def ErrandStage.told : ErrandStage → Prop
  | .unasked | .asked _ => False
  | .telling .. | .answered .. => True

/-- Who has the lock, and how far he is. -/
inductive Lock where
  | free
  | searching (errand : ErrandId) (event : Event) (findings : Findings) (rest : List Slot)
  /-- The pattern of a slot that was not found won looks at the event. -/
  | consulting (errand : ErrandId) (event : Event) (findings : Findings) (slot : Slot)
      (rest : List Slot)
  /-- Some of the waiters taken out of the queue are still to be won, and these were. -/
  | sweeping (errand : ErrandId) (reason : WaitError) (closing : Bool) (rest won : List WaiterId)

/-- What the holder of a waiter means to do. -/
inductive Use where
  /-- To look for the outcome, cancel the waiter or give it up, as he likes. -/
  | keeping
  /-- To wait for the outcome, until a deadline if there is one. -/
  | waiting (deadline : Option Instant)
deriving DecidableEq

/-- May the waiter be cancelled at a time? -/
def Use.mayCancel (now : Instant) : Use → Bool
  | .keeping => true
  | .waiting deadline => deadline.any (· ≤ now)

/-- The holder of a waiter. -/
inductive Holder where
  | absent
  | holding (kind : EventKind) (settled : Bool) (use : Use)
  /-- He cancelled the waiter, and its slot is still to be taken out. -/
  | removing (use : Use)
  /-- He cancelled the waiter too late, and waits for its outcome. -/
  | collecting (kind : EventKind) (use : Use)
  /-- He gave the waiter up, and its slot is still to be taken out. -/
  | leaving
  /-- He left that to a task of its own. -/
  | deferred
  | gone
deriving DecidableEq

/-- What a search sees of a slot. -/
inductive Sight where
  /-- The waiter was won before its pattern was asked. -/
  | won
  | otherKind
  | rejected
  | taken
  | failed (reason : String)
  /-- The pattern did not reject the event, but the waiter was won in the meantime. -/
  | late
deriving DecidableEq

def Verdict.sight (won : Bool) : Verdict → Sight
  | .rejects => .rejected
  | .accepts => if won then .late else .taken
  | .fails reason => if won then .late else .failed reason

/-- One step of one party. -/
inductive Act where
  | passed (time : Instant)
  /-- A waiter was registered, or refused with a reason. -/
  | registered (id : WaiterId) (kind : EventKind) (use : Use) (refusal : Option WaitError)
  | asked (errand : ErrandId) (request : Errand)
  /-- An errand took the lock. -/
  | entered (errand : ErrandId)
  /-- A waiter was not found won, and its pattern begins to look at the event. -/
  | consulted (errand : ErrandId) (event : Event) (id : WaiterId)
  | saw (errand : ErrandId) (event : Event) (id : WaiterId) (sight : Sight)
  | swept (errand : ErrandId) (reason : WaitError) (id : WaiterId) (won : Bool)
  /-- An errand gave the lock back. -/
  | left (errand : ErrandId)
  | sent (errand : ErrandId) (id : WaiterId) (resolution : Resolution)
  | answered (errand : ErrandId) (reply : Reply)
  /-- A holder looked for the outcome and found it. -/
  | polled (id : WaiterId) (result : Except WaitError Event)
  /-- A holder began to cancel a waiter, and won it or not. -/
  | withdrew (id : WaiterId) (won : Bool)
  /-- A holder gave up, and won the waiter by that or not. -/
  | abandoned (id : WaiterId) (won : Bool)
  | deferred (id : WaiterId)
  /-- The slot of a waiter that was given up was taken out. -/
  | removed (id : WaiterId)
  /-- A wait or the cancelling of a waiter ended. -/
  | returned (id : WaiterId) (use : Use) (result : Except WaitError (Option Event))
  | reopened

/-- The queue of waiters (`WaiterQueue`) with everybody who is busy with it: errands that offer
events or resolve all waiters, and the holders of waiters (`PendingWaiter`), who look for outcomes,
wait until a deadline, cancel or give up. -/
structure Hall where
  queue : Queue
  lock : Lock
  errands : ErrandId → ErrandStage
  holders : WaiterId → Holder
  now : Instant

namespace Hall

def start : Hall := ⟨.empty, .free, fun _ => .unasked, fun _ => .absent, 0⟩

def setErrand (hall : Hall) (errand : ErrandId) (stage : ErrandStage) : Hall :=
  { hall with errands := Function.update hall.errands errand stage }

def setHolder (hall : Hall) (id : WaiterId) (holder : Holder) : Hall :=
  { hall with holders := Function.update hall.holders id holder }

/-- What the patterns may answer. -/
abbrev Answers := Slot → Event → Verdict → Prop

/-- The answers of patterns that are evaluated. -/
def evaluated : Answers := fun slot event verdict => verdict = (slot.pattern.evaluate event).2

/-- A step of some party; which party takes the next one is left open. Who has the lock reads and
changes the slots. A waiter may be won by anybody at any time, also between two slots of a search or
while a pattern looks at the event. Outcomes are sent after the lock was given back. Patterns are
code, so what they may answer is a parameter. -/
inductive Step (answers : Answers) (hall : Hall) : Act → Hall → Prop
  | pass (time : Instant) (later : hall.now ≤ time) :
      Step answers hall (.passed time) { hall with now := time }
  | register (kind : EventKind) (pattern : Pattern) (use : Use) (free : hall.lock = .free) :
      Step answers hall (.registered hall.queue.nextId kind use hall.queue.closed)
        ({ hall with queue := (hall.queue.enqueue kind pattern).2 }.setHolder hall.queue.nextId
          (.holding kind false use))
  | ask (errand : ErrandId) (request : Errand) (fresh : hall.errands errand = .unasked) :
      Step answers hall (.asked errand request) (hall.setErrand errand (.asked request))
  | enterSearch (errand : ErrandId) (event : Event) (free : hall.lock = .free)
      (asked : hall.errands errand = .asked (.offer event)) :
      Step answers hall (.entered errand)
        { hall with lock := .searching errand event .blank hall.queue.slots }
  | passWon (errand : ErrandId) (event : Event) (findings : Findings) (slot : Slot)
      (rest : List Slot) (held : hall.lock = .searching errand event findings (slot :: rest))
      (won : slot.id ∈ hall.queue.won) :
      Step answers hall (.saw errand event slot.id .won)
        { hall with lock := .searching errand event (findings.addStale slot.id) rest }
  | passKind (errand : ErrandId) (event : Event) (findings : Findings) (slot : Slot)
      (rest : List Slot) (held : hall.lock = .searching errand event findings (slot :: rest))
      (open_ : slot.id ∉ hall.queue.won) (other : slot.kind ≠ event.kind) :
      Step answers hall (.saw errand event slot.id .otherKind)
        { hall with lock := .searching errand event findings rest }
  | consult (errand : ErrandId) (event : Event) (findings : Findings) (slot : Slot)
      (rest : List Slot) (held : hall.lock = .searching errand event findings (slot :: rest))
      (open_ : slot.id ∉ hall.queue.won) (same : slot.kind = event.kind) :
      Step answers hall (.consulted errand event slot.id)
        { hall with lock := .consulting errand event findings slot rest }
  | judge (errand : ErrandId) (event : Event) (findings next : Findings) (slot : Slot)
      (rest : List Slot) (verdict : Verdict) (queue : Queue)
      (held : hall.lock = .consulting errand event findings slot rest)
      (answer : answers slot event verdict)
      (judged : hall.queue.judge findings slot.id verdict = (next, queue)) :
      Step answers hall (.saw errand event slot.id (verdict.sight (hall.queue.isWon slot.id)))
        { hall with
          queue := queue
          lock := .searching errand event next (if next.winner.isSome then [] else rest) }
  | leaveSearch (errand : ErrandId) (event : Event) (findings : Findings)
      (held : hall.lock = .searching errand event findings []) :
      Step answers hall (.left errand)
        ({ hall with queue := hall.queue.settle findings, lock := .free }.setErrand errand
          (.telling (.offer event) (findings.reply event) (findings.letters event)))
  | enterSweep (errand : ErrandId) (reason : WaitError) (closing : Bool)
      (free : hall.lock = .free)
      (asked : hall.errands errand = .asked (.sweep reason closing)) :
      Step answers hall (.entered errand)
        { hall with
          queue := hall.queue.vacate reason closing
          lock := .sweeping errand reason closing (hall.queue.slots.map Slot.id) [] }
  | sweep (errand : ErrandId) (reason : WaitError) (closing : Bool) (id : WaiterId)
      (rest ids : List WaiterId) (won : Bool) (queue : Queue)
      (held : hall.lock = .sweeping errand reason closing (id :: rest) ids)
      (tried : hall.queue.win id = (won, queue)) :
      Step answers hall (.swept errand reason id won)
        { hall with
          queue := queue
          lock := .sweeping errand reason closing rest (if won then ids ++ [id] else ids) }
  | leaveSweep (errand : ErrandId) (reason : WaitError) (closing : Bool) (ids : List WaiterId)
      (held : hall.lock = .sweeping errand reason closing [] ids) :
      Step answers hall (.left errand)
        ({ hall with lock := .free }.setErrand errand
          (.telling (.sweep reason closing) (.resolved ids.length)
            (ids.map fun id => (id, .error reason))))
  | send (errand : ErrandId) (request : Errand) (reply : Reply) (id : WaiterId)
      (resolution : Resolution) (letters : List (WaiterId × Resolution))
      (telling : hall.errands errand = .telling request reply ((id, resolution) :: letters)) :
      Step answers hall (.sent errand id resolution)
        ({ hall with queue := hall.queue.send id resolution }.setErrand errand
          (.telling request reply letters))
  | answer (errand : ErrandId) (request : Errand) (reply : Reply)
      (telling : hall.errands errand = .telling request reply []) :
      Step answers hall (.answered errand reply)
        (hall.setErrand errand (.answered request reply))
  | poll (id : WaiterId) (kind : EventKind) (settled : Bool) (result : Except WaitError Event)
      (ticket : Ticket) (queue : Queue)
      (holding : hall.holders id = .holding kind settled .keeping)
      (found : Ticket.collect ⟨id, kind, settled⟩ hall.queue = (some result, ticket, queue)) :
      Step answers hall (.polled id result)
        ({ hall with queue := queue }.setHolder id (.holding kind ticket.settled .keeping))
  | finish (id : WaiterId) (kind : EventKind) (deadline : Option Instant)
      (result : Except WaitError Event) (ticket : Ticket) (queue : Queue)
      (holding : hall.holders id = .holding kind false (.waiting deadline))
      (found : Ticket.collect ⟨id, kind, false⟩ hall.queue = (some result, ticket, queue)) :
      Step answers hall (.returned id (.waiting deadline) (result.map some))
        ({ hall with queue := queue }.setHolder id .gone)
  | cancelSettled (id : WaiterId) (kind : EventKind)
      (holding : hall.holders id = .holding kind true .keeping) :
      Step answers hall (.returned id .keeping (.ok none)) (hall.setHolder id .gone)
  | cancel (id : WaiterId) (kind : EventKind) (use : Use) (won : Bool) (queue : Queue)
      (holding : hall.holders id = .holding kind false use)
      (due : use.mayCancel hall.now = true) (tried : hall.queue.win id = (won, queue)) :
      Step answers hall (.withdrew id won)
        ({ hall with queue := queue }.setHolder id
          (if won then .removing use else .collecting kind use))
  | remove (id : WaiterId) (use : Use) (holding : hall.holders id = .removing use)
      (free : hall.lock = .free) :
      Step answers hall (.returned id use (.ok none))
        ({ hall with queue := hall.queue.remove id }.setHolder id .gone)
  | collect (id : WaiterId) (kind : EventKind) (use : Use) (result : Except WaitError Event)
      (ticket : Ticket) (queue : Queue) (holding : hall.holders id = .collecting kind use)
      (found : Ticket.collect ⟨id, kind, false⟩ hall.queue = (some result, ticket, queue)) :
      Step answers hall (.returned id use (result.map some))
        ({ hall with queue := queue }.setHolder id .gone)
  | dropSettled (id : WaiterId) (kind : EventKind) (use : Use)
      (holding : hall.holders id = .holding kind true use) :
      Step answers hall (.abandoned id false) (hall.setHolder id .gone)
  | drop (id : WaiterId) (kind : EventKind) (use : Use) (queue : Queue)
      (holding : hall.holders id = .holding kind false use)
      (tried : hall.queue.win id = (true, queue)) :
      Step answers hall (.abandoned id true)
        ({ hall with queue := queue }.setHolder id .leaving)
  | dropLost (id : WaiterId) (kind : EventKind) (use : Use) (queue : Queue)
      (holding : hall.holders id = .holding kind false use)
      (tried : hall.queue.win id = (false, queue)) :
      Step answers hall (.abandoned id false)
        ({ hall with queue := queue.forget id }.setHolder id .gone)
  | dropRemoving (id : WaiterId) (use : Use) (holding : hall.holders id = .removing use) :
      Step answers hall (.abandoned id false) (hall.setHolder id .leaving)
  | dropCollecting (id : WaiterId) (kind : EventKind) (use : Use)
      (holding : hall.holders id = .collecting kind use) :
      Step answers hall (.abandoned id false)
        ({ hall with queue := hall.queue.forget id }.setHolder id .gone)
  | defer (id : WaiterId) (holding : hall.holders id = .leaving) :
      Step answers hall (.deferred id) (hall.setHolder id .deferred)
  | detach (id : WaiterId) (holding : hall.holders id = .leaving ∨ hall.holders id = .deferred)
      (free : hall.lock = .free) :
      Step answers hall (.removed id)
        ({ hall with queue := hall.queue.remove id }.setHolder id .gone)
  | reopen (free : hall.lock = .free) :
      Step answers hall .reopened { hall with queue := hall.queue.reopen }

/-- Steps of any parties in any order. -/
inductive Run (answers : Answers) (start : Hall) : List Act → Hall → Prop
  | nil : Run answers start [] start
  | snoc {history : List Act} {hall next : Hall} {act : Act}
      (run : Run answers start history hall) (step : Step answers hall act next) :
      Run answers start (history ++ [act]) next

theorem Run.append {answers : Answers} {start middle final : Hall} {earlier later : List Act}
    (first : Run answers start earlier middle) (second : Run answers middle later final) :
    Run answers start (earlier ++ later) final := by
  induction second with
  | nil => rwa [List.append_nil]
  | snoc run step ih =>
    rw [← List.append_assoc]
    exact ih.snoc step

theorem Run.nothing {answers : Answers} {start final : Hall} (run : Run answers start [] final) :
    final = start := by
  generalize none_taken : [] = history at run
  cases run with
  | nil => rfl
  | snoc => exact absurd none_taken.symm (List.concat_ne_nil _ _)

theorem Run.last {answers : Answers} {start final : Hall} {earlier : List Act} {act : Act}
    (run : Run answers start (earlier ++ [act]) final) :
    ∃ middle, Run answers start earlier middle ∧ Step answers middle act final := by
  generalize whole : earlier ++ [act] = history at run
  cases run with
  | nil => exact absurd whole (List.concat_ne_nil _ _)
  | snoc run step =>
    obtain ⟨rfl, same⟩ := List.append_inj' whole rfl
    cases same
    exact ⟨_, run, step⟩

theorem Run.split {answers : Answers} {start final : Hall} {earlier later : List Act}
    (run : Run answers start (earlier ++ later) final) :
    ∃ middle, Run answers start earlier middle ∧ Run answers middle later final := by
  induction later using List.reverseRecOn generalizing final with
  | nil =>
    rw [List.append_nil] at run
    exact ⟨final, run, .nil⟩
  | append_singleton later act ih =>
    rw [← List.append_assoc] at run
    obtain ⟨hall, run, step⟩ := run.last
    obtain ⟨middle, before, after⟩ := ih run
    exact ⟨middle, before, after.snoc step⟩

/-- A run from a new queue. -/
abbrev Reached (answers : Answers) (history : List Act) (hall : Hall) : Prop :=
  Run answers start history hall

end Hall
end Switchboard
