import Switchboard.Waiter.Error
import Switchboard.Waiter.Pattern

set_option autoImplicit false

namespace Switchboard

abbrev Resolution := Except WaitError Event

/-- The number of a waiter, in the order of registration. -/
abbrev WaiterId := Nat

/-- A registered waiter. -/
structure Slot where
  id : WaiterId
  kind : EventKind
  pattern : Pattern

/-- The queue of waiters (`WaiterQueue`): the slots, in the order of the numbers that are given out,
the numbers that are won, and the outcomes that were sent and are not collected yet. Who is the
first to win a number decides the outcome of its waiter. Winning it, taking its slot out and sending
the outcome are steps of their own, so others may come between them. A closed queue keeps its reason
and refuses new waiters with it. -/
structure Queue where
  nextId : WaiterId
  /-- The registered waiters in ascending order of their numbers. -/
  slots : List Slot
  /-- The waiters of which some party has won the right to resolve them. -/
  won : List WaiterId
  /-- The outcomes that were sent to waiters. -/
  sent : List (WaiterId × Resolution)
  /-- Why new waiters are refused, while they are. -/
  closed : Option WaitError

namespace Queue

def empty : Queue := ⟨0, [], [], [], none⟩

def isWon (queue : Queue) (id : WaiterId) : Bool := queue.won.contains id

/-- Tries to win a waiter. The first to try succeeds. -/
def win (queue : Queue) (id : WaiterId) : Bool × Queue :=
  if queue.isWon id then (false, queue) else (true, { queue with won := id :: queue.won })

def send (queue : Queue) (id : WaiterId) (resolution : Resolution) : Queue :=
  { queue with sent := queue.sent ++ [(id, resolution)] }

def remove (queue : Queue) (id : WaiterId) : Queue :=
  { queue with slots := queue.slots.filter fun slot => slot.id ≠ id }

def outcome? (queue : Queue) (id : WaiterId) : Option Resolution :=
  (queue.sent.find? fun entry => entry.1 = id).map (·.2)

/-- Forgets the outcome of a waiter, once it was collected or nobody waits for it. -/
def forget (queue : Queue) (id : WaiterId) : Queue :=
  { queue with sent := queue.sent.filter fun entry => entry.1 ≠ id }

section Parts

variable (queue : Queue) (id : WaiterId)

@[simp] theorem isWon_eq_true : queue.isWon id = true ↔ id ∈ queue.won := by
  simp only [isWon, List.contains_iff_mem]

@[simp] theorem isWon_eq_false : queue.isWon id = false ↔ id ∉ queue.won := by
  rw [← isWon_eq_true, Bool.not_eq_true]

theorem win_of_mem (won : id ∈ queue.won) : queue.win id = (false, queue) := by
  simp only [win, (queue.isWon_eq_true id).mpr won, ↓reduceIte]

theorem win_of_not_mem (free : id ∉ queue.won) :
    queue.win id = (true, { queue with won := id :: queue.won }) := by
  simp only [win, (queue.isWon_eq_false id).mpr free, Bool.false_eq_true, ↓reduceIte]

theorem win_cases {queue next : Queue} {id : WaiterId} {won : Bool}
    (tried : queue.win id = (won, next)) :
    (won = true ∧ id ∉ queue.won ∧ next = { queue with won := id :: queue.won }) ∨
      (won = false ∧ id ∈ queue.won ∧ next = queue) := by
  by_cases taken : id ∈ queue.won
  · rw [queue.win_of_mem id taken] at tried
    cases tried
    exact Or.inr ⟨rfl, taken, rfl⟩
  · rw [queue.win_of_not_mem id taken] at tried
    cases tried
    exact Or.inl ⟨rfl, taken, rfl⟩

theorem win_frame {queue next : Queue} {id : WaiterId} {won : Bool}
    (tried : queue.win id = (won, next)) : ∃ ids, next = { queue with won := ids } := by
  obtain ⟨-, -, same⟩ | ⟨-, -, same⟩ := win_cases tried
  · exact ⟨_, same⟩
  · exact ⟨queue.won, same⟩

theorem mem_remove_slots (slot : Slot) :
    slot ∈ (queue.remove id).slots ↔ slot ∈ queue.slots ∧ slot.id ≠ id := by
  simp only [remove, List.mem_filter, decide_eq_true_eq]

theorem mem_forget_sent (letter : WaiterId × Resolution) :
    letter ∈ (queue.forget id).sent ↔ letter ∈ queue.sent ∧ letter.1 ≠ id := by
  simp only [forget, List.mem_filter, decide_eq_true_eq]

theorem mem_sent_of_outcome {queue : Queue} {id : WaiterId} {resolution : Resolution}
    (found : queue.outcome? id = some resolution) : (id, resolution) ∈ queue.sent := by
  obtain ⟨letter, sought, same⟩ := Option.map_eq_some_iff.mp found
  have named : letter.1 = id := by simpa using List.find?_some sought
  have member := List.mem_of_find?_eq_some sought
  rw [← named, ← same]
  exact member

end Parts

/-- Registers a waiter. While the queue is closed the waiter gets a number, but no slot, and is
resolved at once with the reason of the closing. -/
def enqueue (queue : Queue) (kind : EventKind) (pattern : Pattern) : WaiterId × Queue :=
  let id := queue.nextId
  match queue.closed with
  | none => (id, { queue with nextId := id + 1, slots := queue.slots ++ [⟨id, kind, pattern⟩] })
  | some reason =>
    (id, { queue with
      nextId := id + 1, won := id :: queue.won, sent := queue.sent ++ [(id, .error reason)] })

theorem enqueue_cases (queue : Queue) (kind : EventKind) (pattern : Pattern) :
    (queue.closed = none ∧ (queue.enqueue kind pattern).2 = { queue with
      nextId := queue.nextId + 1, slots := queue.slots ++ [⟨queue.nextId, kind, pattern⟩] }) ∨
      ∃ reason, queue.closed = some reason ∧ (queue.enqueue kind pattern).2 = { queue with
        nextId := queue.nextId + 1
        won := queue.nextId :: queue.won
        sent := queue.sent ++ [(queue.nextId, .error reason)] } := by
  cases closed : queue.closed with
  | none => exact Or.inl ⟨rfl, by simp only [enqueue, closed]⟩
  | some reason => exact Or.inr ⟨reason, rfl, by simp only [enqueue, closed]⟩

@[simp] theorem enqueue_nextId (queue : Queue) (kind : EventKind) (pattern : Pattern) :
    (queue.enqueue kind pattern).2.nextId = queue.nextId + 1 := by
  obtain ⟨-, same⟩ | ⟨reason, -, same⟩ := queue.enqueue_cases kind pattern <;> rw [same]

/-- Tries to win each of a list of waiters and tells which it won. -/
def winEach (queue : Queue) : List WaiterId → List WaiterId × Queue
  | [] => ([], queue)
  | id :: rest =>
    match queue.win id with
    | (true, next) =>
      let (ids, final) := next.winEach rest
      (id :: ids, final)
    | (false, next) => next.winEach rest

def sendAll (queue : Queue) (letters : List (WaiterId × Resolution)) : Queue :=
  letters.foldl (fun queue letter => queue.send letter.1 letter.2) queue

/-- Takes all slots out of the queue. From now on new waiters are refused, if it is to be closed. -/
def vacate (queue : Queue) (reason : WaitError) (closing : Bool) : Queue :=
  { queue with slots := [], closed := if closing then some reason else queue.closed }

/-- Empties the queue and resolves the waiters that nobody else has won. Tells which these are. -/
def sweep (queue : Queue) (reason : WaitError) (closing : Bool) : List WaiterId × Queue :=
  let (ids, won) := (queue.vacate reason closing).winEach (queue.slots.map Slot.id)
  (ids, won.sendAll (ids.map fun id => (id, .error reason)))

/-- Empties the queue. -/
def cancelAll (queue : Queue) (reason : WaitError) : List WaiterId × Queue :=
  queue.sweep reason false

/-- Empties the queue and refuses new waiters from now on. -/
def close (queue : Queue) (reason : WaitError) : List WaiterId × Queue :=
  queue.sweep reason true

def reopen (queue : Queue) : Queue := { queue with closed := none }

/-- The number of waiters that are still to be resolved. -/
def size (queue : Queue) : Nat :=
  (queue.slots.filter fun slot => !queue.isWon slot.id).length

def display (queue : Queue) : String :=
  "WaiterQueue \x7b next_id: " ++ toString queue.nextId ++ ", .. \x7d"

end Queue

/-- What the holder of a waiter has in hand (`PendingWaiter`). -/
structure Ticket where
  id : WaiterId
  kind : EventKind
  /-- The outcome was collected, or the waiter was withdrawn. -/
  settled : Bool
deriving DecidableEq

namespace Ticket

def fresh (id : WaiterId) (kind : EventKind) : Ticket := ⟨id, kind, false⟩

/-- What an outcome is to somebody who waits for a kind of event. -/
def read (kind : EventKind) : Resolution → Except WaitError Event
  | .ok event =>
    match event.payload? kind with
    | some payload => .ok ⟨kind, payload⟩
    | none => .error (.kindMismatch kind event.kind)
  | .error reason => .error reason

/-- Looks for the outcome. A settled waiter has none any more. Who wins a waiter sends its outcome:
a sender that is dropped without sending is left out, as are the payloads and predicates whose
destruction panics, by which alone it could be. -/
def collect (ticket : Ticket) (queue : Queue) :
    Option (Except WaitError Event) × Ticket × Queue :=
  if ticket.settled then (some (.error .closed), ticket, queue)
  else
    match queue.outcome? ticket.id with
    | some resolution =>
      (some (read ticket.kind resolution), { ticket with settled := true }, queue.forget ticket.id)
    | none => (none, ticket, queue)

theorem collect_open {id : WaiterId} {kind : EventKind} {queue next : Queue}
    {result : Except WaitError Event} {ticket : Ticket}
    (found : collect ⟨id, kind, false⟩ queue = (some result, ticket, next)) :
    ∃ resolution, (id, resolution) ∈ queue.sent ∧ result = read kind resolution ∧
      ticket.settled = true ∧ next = queue.forget id := by
  simp only [collect, Bool.false_eq_true, ↓reduceIte] at found
  cases outcome : queue.outcome? id with
  | none => simp [outcome] at found
  | some resolution =>
    simp only [outcome, Prod.mk.injEq, Option.some.injEq] at found
    obtain ⟨rfl, rfl, rfl⟩ := found
    exact ⟨resolution, queue.mem_sent_of_outcome outcome, rfl, rfl, rfl⟩

/-- To look for the outcome changes nothing but that it is forgotten when it was found. -/
theorem collect_frame {ticket after : Ticket} {queue next : Queue}
    {result : Option (Except WaitError Event)}
    (found : ticket.collect queue = (result, after, next)) :
    next = queue ∨ next = queue.forget ticket.id := by
  rw [collect] at found
  split at found
  · cases found
    exact Or.inl rfl
  · split at found <;> cases found
    · exact Or.inr rfl
    · exact Or.inl rfl

theorem collect_none {ticket after : Ticket} {queue next : Queue}
    (found : ticket.collect queue = (none, after, next)) : after = ticket ∧ next = queue := by
  rw [collect] at found
  split at found
  · cases found
  · split at found <;> cases found
    exact ⟨rfl, rfl⟩

/-- Withdraws the waiter. If another party has won it, its outcome is the answer; it may still have
to be sent. -/
def cancel (ticket : Ticket) (queue : Queue) :
    Option (Except WaitError (Option Event)) × Queue :=
  if ticket.settled then (some (.ok none), queue)
  else
    match queue.win ticket.id with
    | (true, won) => (some (.ok none), won.remove ticket.id)
    | (false, lost) =>
      let (outcome, _, after) := ticket.collect lost
      (outcome.map fun result => result.map some, after)

/-- Gives the waiter up: it is withdrawn unless another party has won it. -/
def drop (ticket : Ticket) (queue : Queue) : Queue :=
  if ticket.settled then queue
  else
    match queue.win ticket.id with
    | (true, won) => won.remove ticket.id
    | (false, lost) => lost.forget ticket.id

def display (ticket : Ticket) : String :=
  "PendingWaiter \x7b id: WaiterId(" ++ toString ticket.id ++ "), state: " ++
    (if ticket.settled then "Settled" else "Pending") ++ " \x7d"

end Ticket
end Switchboard
