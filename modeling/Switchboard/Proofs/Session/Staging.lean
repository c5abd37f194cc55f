import Switchboard.Proofs.Session.Custody
import Switchboard.Rehearsal.Perform

set_option autoImplicit false

namespace Switchboard.Rehearsal

open Session (Point)

def Attempt.stage {α : Type} : Attempt α → Stage
  | .answered _ stage | .blocked _ stage => stage

/-- What a stage knows of its bot. -/
structure Bot where
  gone : Bool
  session : Option Session
  stops : StopForest
  tasks : List Task

namespace Stage

variable {stage after : Stage} {id : TaskId} {progress : Progress}

def bot (stage : Stage) : Bot := ⟨stage.botGone, stage.session, stage.stops, stage.tasks⟩

@[simp] theorem wake_bot (stage : Stage) (id : TaskId) : (stage.wake id).bot = stage.bot := by
  unfold wake
  split <;> rfl

@[simp] theorem wakeAll_bot (stage : Stage) (ids : List TaskId) :
    (stage.wakeAll ids).bot = stage.bot := by
  induction ids generalizing stage with
  | nil => rfl
  | cons id ids ih => exact (ih (stage.wake id)).trans (wake_bot stage id)

theorem requestStop_bot (stage : Stage) (handle : StopId) :
    (stage.requestStop handle).bot =
      { stage.bot with stops := stage.stops.request handle } :=
  wakeAll_bot { stage with stops := stage.stops.request handle } _

theorem spawn_bot (stage : Stage) (task : Task) :
    (stage.spawn task).bot = { stage.bot with tasks := stage.tasks ++ [task] } :=
  wake_bot { stage with tasks := stage.tasks ++ [task] } _

theorem answerAt_session {α : Type} (stage : Stage) (id : TaskId) (time : Instant) (given : α)
    (onward progress : Progress) :
    (stage.answerAt id time given onward progress).stage.session = stage.session := by
  unfold answerAt
  split <;> split <;> rfl

theorem attempt_request_session (stage : Stage) (id : TaskId) (request : Request)
    (progress : Progress) :
    (stage.attempt id (.request request) progress).stage.session = stage.session := by
  cases progress <;> simp only [attempt, attemptRequest] <;> exact answerAt_session ..

theorem attempt_answered {point : Point} {op : Op}
    {next : op.Answer → Activity (Except ApiError Unit)} {answer : op.Answer}
    (asks : point.work = .step op next)
    (looked : stage.attempt id op progress = .answered answer after) :
    Custody.Answered stage.session op answer after.session := by
  rcases Point.asks_cases asks with ⟨request, rfl⟩ | rfl | ⟨session, rfl⟩ | ⟨session, rfl⟩
  · have same := attempt_request_session stage id request progress
    rw [looked] at same
    rw [← same]
    exact .request _ _ _
  · obtain ⟨rfl, rfl⟩ := Attempt.answered.inj looked
    exact .session _
  · simp only [attempt] at looked
    cases held : stage.session with
    | none =>
      simp only [held, Option.isSome_none] at looked
      obtain ⟨rfl, rfl⟩ := Attempt.answered.inj looked
      exact .bound session
    | some other =>
      simp only [held, Option.isSome_some] at looked
      obtain ⟨rfl, rfl⟩ := Attempt.answered.inj looked
      rw [held]
      exact .occupied session other
  · obtain ⟨-, rfl⟩ := Attempt.answered.inj looked
    by_cases held : stage.session = some session
    · rw [if_pos held, held]
      exact .unbound session
    · rw [if_neg held]
      exact .elsewhere _ session held

theorem attempt_blocked {point : Point} {op : Op}
    {next : op.Answer → Activity (Except ApiError Unit)} {later : Progress}
    (asks : point.work = .step op next)
    (looked : stage.attempt id op progress = .blocked later after) :
    after.session = stage.session := by
  rcases Point.asks_cases asks with ⟨request, rfl⟩ | rfl | ⟨session, rfl⟩ | ⟨session, rfl⟩
  · have same := attempt_request_session stage id request progress
    rwa [looked] at same
  · cases looked
  · simp only [attempt] at looked
    split at looked <;> cases looked
  · cases looked

def farewell (session : Session) : Task :=
  .ofActivity none false do
    let _ ← Activity.perform (.request session.releaseRequest)
    return .silent

/-- A bot that nobody holds any more is gone at once: its streams are asked to stop, and the session
that is bound is taken out and its release left to one task. -/
theorem releaseBot_bot (stage : Stage) (present : stage.botGone = false)
    (unowned : stage.held = false)
    (idle : ∀ task ∈ stage.tasks, task.holdsBot = true → task.isOver = true) :
    stage.releaseBot.bot = ⟨true, none, stage.stops.request stage.botStop,
      stage.tasks ++ (stage.session.map farewell).toList⟩ := by
  have unheld : ¬ (stage.botGone || stage.held ||
      stage.tasks.any (fun task => task.holdsBot && !task.isOver)) = true := by
    simpa [present, unowned] using idle
  rw [releaseBot, if_neg unheld]
  have asked := requestStop_bot { stage with botGone := true } stage.botStop
  generalize { stage with botGone := true }.requestStop stage.botStop = stopped at asked
  obtain ⟨gone, session, stops, tasks⟩ := Bot.mk.inj asked
  dsimp only
  split
  case h_1 empty =>
    have unbound : stage.session = none := session.symm.trans empty
    rw [asked, unbound]
    simp [bot]
  case h_2 last bound =>
    have held : stage.session = some last := session.symm.trans bound
    rw [held]
    refine (spawn_bot _ (farewell last)).trans ?_
    exact congr (congr (congr (congrArg Bot.mk gone) rfl) stops) (congrArg (· ++ _) tasks)

end Stage
end Switchboard.Rehearsal
