import Switchboard.Rehearsal.Scene

set_option autoImplicit false

namespace Switchboard

namespace Instant

variable {time : Instant} {span : Duration}

/-- The clock can tell the time that is a span after another. -/
def Reaches (time : Instant) (span : Duration) : Prop := time * 1000000 + span.nanos < limit

instance : Decidable (time.Reaches span) := inferInstanceAs (Decidable (_ < _))

theorem reaches_iff : time.Reaches span ↔ span.nanos + 1000000 * time < limit := by
  rw [Reaches, Nat.add_comm, Nat.mul_comm]

theorem after?_of_reaches (reached : time.Reaches span) :
    time.after? span = some (time + ceil span.nanos) := if_pos (reaches_iff.mp reached)

theorem after?_of_not_reaches (far : ¬ time.Reaches span) : time.after? span = none :=
  if_neg fun near => far (reaches_iff.mpr near)

theorem Reaches.of_le {longer : Duration} (reached : time.Reaches longer)
    (shorter : span.nanos ≤ longer.nanos) : time.Reaches span :=
  Nat.lt_of_le_of_lt (Nat.add_le_add_left shorter _) reached

theorem ceil_pos {nanos : Nat} (pos : 0 < nanos) : 0 < ceil nanos :=
  Nat.div_pos (by omega) (by decide)

end Instant

namespace Rehearsal

open Activity (awaitWithin_bind)

/-- The waits for an event that end after a span: any, whatever follows on it, and among them those
of tasks of their own and those in the middle of a callback. Given with each is what follows on its
result, and what follows if it cannot begin. -/
inductive TimedWait (kind : EventKind) (pattern : Pattern) (span : Duration) :
    Activity Outcome → (Except WaitError (Option Event) → Activity Outcome) → Activity Outcome →
      Prop
  | any (next : Option (Except WaitError (Option Event)) → Activity Outcome) :
      TimedWait kind pattern span (Activity.awaitWithin kind pattern span >>= next)
        (fun result => next (some result)) (next none)
  | task : TimedWait kind pattern span (Stage.waiting kind pattern (.within span))
      (fun result => .done (.named (.waited result))) (.done .silent)
  | callback (event : Event) (start : Instant) (rest : List Action)
      (goOn : CallbackEnd → Activity Outcome) :
      TimedWait kind pattern span
        ((Script.perform event start (.wait kind pattern (.within span) :: rest)).andThen goOn)
        (fun result => .step (.note (.got event result)) fun _ =>
          (Script.perform event start rest).andThen goOn)
        (goOn (.crashed Instant.overflow))

theorem perform_wait (event : Event) (start : Instant) (kind : EventKind) (pattern : Pattern)
    (span : Duration) (rest : List Action) :
    Script.perform event start (.wait kind pattern (.within span) :: rest) =
      .step .now fun now =>
        match now.after? span with
        | none => .done (.crashed Instant.overflow)
        | some deadline =>
          .step (.awaitEvent kind pattern (some deadline)) fun result =>
            .step (.note (.got event result)) fun _ => Script.perform event start rest := by
  rw [Script.perform]
  exact awaitWithin_bind kind pattern span _

namespace TimedWait

variable {kind : EventKind} {pattern : Pattern} {span : Duration} {wait crash : Activity Outcome}
  {follow : Except WaitError (Option Event) → Activity Outcome}

/-- The clock is looked at before anything else, and the wait begins only with a deadline. -/
theorem eq (timed : TimedWait kind pattern span wait follow crash) :
    wait = .step .now fun now =>
      match now.after? span with
      | none => crash
      | some deadline => .step (.awaitEvent kind pattern (some deadline)) follow := by
  cases timed with
  | any next => exact awaitWithin_bind kind pattern span next
  | task => exact awaitWithin_bind kind pattern span _
  | callback event start rest goOn =>
    rw [perform_wait, Activity.andThen]
    refine congrArg _ (funext fun now => ?_)
    cases now.after? span with
    | none => rfl
    | some deadline => rfl

section Turn

variable (timed : TimedWait kind pattern span wait follow crash) {stage : Stage} {id : TaskId}

include timed

theorem pursue_eq : Stage.pursue id wait stage =
    Stage.pursue id
      (match stage.now.after? span with
      | none => crash
      | some deadline => .step (.awaitEvent kind pattern (some deadline)) follow)
      (stage.clearTimers id) := by
  rw [timed.eq, Stage.pursue, Stage.attempt]

theorem pursue_of_reaches (reached : stage.now.Reaches span) :
    Stage.pursue id wait stage =
      Stage.pursue id
        (.step (.awaitEvent kind pattern (some (stage.now + Instant.ceil span.nanos))) follow)
        (stage.clearTimers id) := by
  rw [timed.pursue_eq, Instant.after?_of_reaches reached]

/-- Beyond the reach of the clock nothing is registered, and what was to wait crashes. -/
theorem pursue_of_not_reaches (far : ¬ stage.now.Reaches span) :
    Stage.pursue id wait stage = Stage.pursue id crash (stage.clearTimers id) := by
  rw [timed.pursue_eq, Instant.after?_of_not_reaches far]

end Turn

end TimedWait

/-- A task waits until a deadline: its waiter was registered in a queue, and a timer wakes the task
in the end. -/
structure Stage.Waits (stage : Stage) (queue : Queue) (id : TaskId) (kind : EventKind)
    (pattern : Pattern) (deadline : Instant)
    (follow : Except WaitError (Option Event) → Activity Outcome) : Prop where
  registered : stage.queue = (queue.enqueue kind pattern).2
  timed : (deadline, id) ∈ stage.timers
  blocked : (stage.tasks[id]?).map Task.work =
    some (.blocked (.awaitEvent kind pattern (some deadline))
      (.waiting (.fresh queue.nextId kind)) follow)

namespace Stage

variable {stage : Stage} {id : TaskId} {kind : EventKind} {pattern : Pattern} {deadline : Instant}

/-- On an open queue the wait is not over at once, if there is any time until the deadline. -/
theorem attempt_awaitEvent (later : stage.now < deadline) (opened : stage.queue.closed = none)
    (unsent : stage.queue.outcome? stage.queue.nextId = none) :
    stage.attempt id (.awaitEvent kind pattern (some deadline)) .fresh =
      .blocked (.waiting (.fresh stage.queue.nextId kind))
        ({ stage with queue := (stage.queue.enqueue kind pattern).2 }.setTimer deadline id) := by
  have number : (stage.queue.enqueue kind pattern).1 = stage.queue.nextId := by
    rw [Queue.enqueue, opened]
  have still : (stage.queue.enqueue kind pattern).2.outcome? stage.queue.nextId = none := by
    rw [Queue.enqueue, opened]
    exact unsent
  have looks : stage.attempt id (.awaitEvent kind pattern (some deadline)) .fresh =
      ({ stage with queue := (stage.queue.enqueue kind pattern).2 }.setTimer deadline
        id).lookForEvent (.fresh (stage.queue.enqueue kind pattern).1 kind) (some deadline) := rfl
  have uncollected : (Ticket.fresh stage.queue.nextId kind).collect
      (stage.queue.enqueue kind pattern).2 =
        (none, .fresh stage.queue.nextId kind, (stage.queue.enqueue kind pattern).2) := by
    rw [Ticket.collect, Ticket.fresh, still]
    rfl
  have early : ¬ deadline ≤ stage.now := Nat.not_le.mpr later
  rw [looks, number, lookForEvent, setTimer, uncollected]
  simp [early]

theorem waits_until {follow : Except WaitError (Option Event) → Activity Outcome}
    (later : stage.now < deadline) (present : id < stage.tasks.length)
    (opened : stage.queue.closed = none)
    (unsent : stage.queue.outcome? stage.queue.nextId = none) :
    (pursue id (.step (.awaitEvent kind pattern (some deadline)) follow) stage).Waits stage.queue
      id kind pattern deadline follow := by
  rw [pursue, attempt_awaitEvent later opened unsent]
  refine ⟨rfl, List.mem_append_right _ (List.mem_singleton_self _), ?_⟩
  simp [setWork, setTimer, List.getElem?_eq_getElem present]

end Stage
end Rehearsal
end Switchboard
