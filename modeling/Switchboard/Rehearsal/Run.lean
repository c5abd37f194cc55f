import Switchboard.Rehearsal.Perform

set_option autoImplicit false

namespace Switchboard.Rehearsal

/-- How many turns a rehearsal may take between two of the player's doings. -/
def turnLimit : Nat := 1000000

namespace Stage

/-- Gives turns until no task is ready, in the order in which they became ready. -/
def turns : Nat → Stage → Stage
  | 0, stage => stage
  | fuel + 1, stage =>
    match stage.ready with
    | [] => stage
    | id :: rest => turns fuel ({ stage with ready := rest }.turn id)

/-- Lets every task do what can be done at the current time. -/
def settle (stage : Stage) : Stage := stage.turns turnLimit

/-- Lets time pass up to an instant. What is due at the instant itself is ready afterwards. -/
def passTo (time : Instant) : Nat → Stage → Stage
  | 0, stage => stage
  | fuel + 1, stage =>
    let settled := stage.settle
    match settled.nextTimer? with
    | some next =>
      if next < time then passTo time fuel (settled.moveTo next) else settled.moveTo time
    | none => settled.moveTo time

def pass (stage : Stage) (span : Nat) : Stage :=
  if span = 0 then stage else stage.passTo (stage.now + span) turnLimit

/-- Are the tasks first when an operation of the player may be answered? -/
def tasksFirst : Op → Bool
  | .awaitTask _ => true
  | _ => false

/-- Lets the tasks work until an operation of the player is answered. It may never be. -/
def await (op : Op) : Nat → Progress → Stage → Option (op.Answer × Stage)
  | 0, _, _ => none
  | fuel + 1, progress, stage =>
    match stage.settle.attempt player op progress with
    | .answered answer after => some (answer, after)
    | .blocked progress after =>
      match after.nextTimer? with
      | none => none
      | some time =>
        let moved := after.moveTo time
        if tasksFirst op then await op fuel progress moved
        else
          match moved.attempt player op progress with
          | .answered answer later => some (answer, later)
          | .blocked progress later => await op fuel progress later

/-- The player performs an activity. While an operation of it is not answered the tasks have their
turns, and when a time comes at which it is answered the player goes on before them. -/
def play {α : Type} : Activity α → Stage → Option (α × Stage)
  | .done value, stage => some (value, stage)
  | .step op next, stage =>
    match stage.attempt player op .fresh with
    | .answered answer after => play (next answer) (after.clearTimers player)
    | .blocked progress after =>
      match await op turnLimit progress after with
      | none => none
      | some (answer, later) => play (next answer) (later.clearTimers player)

end Stage
end Switchboard.Rehearsal
