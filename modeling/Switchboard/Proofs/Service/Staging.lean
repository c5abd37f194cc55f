import Switchboard.Proofs.Service.Tenure
import Switchboard.Rehearsal.Course

set_option autoImplicit false

namespace Switchboard

/-- What a service meets apart from the answers to its requests. -/
structure Setting where
  session : Option Session
  stops : StopForest
  botStop : StopId
  now : Instant
  stint : Stint

def Tenure.setting (tenure : Tenure) : Setting :=
  ⟨tenure.bot.slot, tenure.bot.stops, tenure.bot.botStop, tenure.clock, tenure.stint⟩

namespace Rehearsal.Stage

/-- How far the job of a stage is, as long as it is not given up. -/
def stint (stage : Stage) : Stint :=
  match stage.jobEnd, stage.jobTask with
  | some outcome, _ => .ended outcome
  | none, some _ => .underway
  | none, none => .unbegun

def setting (stage : Stage) : Setting :=
  ⟨stage.session, stage.stops, stage.botStop, stage.now, stage.stint⟩

@[simp] theorem wake_setting (stage : Stage) (id : TaskId) :
    (stage.wake id).setting = stage.setting := by
  unfold wake
  split <;> rfl

@[simp] theorem wakeAll_setting (stage : Stage) (ids : List TaskId) :
    (stage.wakeAll ids).setting = stage.setting := by
  induction ids generalizing stage with
  | nil => rfl
  | cons id ids ih => exact (ih (stage.wake id)).trans (wake_setting stage id)

section Attempt

variable {stage after : Stage} {tenure : Tenure} {id : TaskId} {progress : Progress}
  (same : tenure.setting = stage.setting)

include same

theorem attempt_awaitTask {deadline : Option Instant}
    {answer : Option (Except ServiceError Unit)} (begun : tenure.stint ≠ .unbegun)
    (looked : stage.attempt id (.awaitTask deadline) progress = .answered answer after) :
    Tenure.Answered tenure (.awaitTask deadline) answer tenure.bot tenure.stint ∧
      tenure.setting = after.setting := by
  obtain ⟨-, -, -, clock, stint⟩ := Setting.mk.inj same
  rw [Stage.stint] at stint
  simp only [attempt, attemptJob] at looked
  cases ended : stage.jobEnd with
  | some result =>
    simp only [ended] at looked stint
    obtain ⟨rfl, rfl⟩ := Attempt.answered.inj looked
    exact ⟨.ended deadline result stint, same⟩
  | none =>
    cases deadline with
    | none =>
      simp only [ended] at looked
      cases looked
    | some time =>
      have underway : tenure.stint = .underway := by
        cases job : stage.jobTask with
        | some task => simpa only [ended, job] using stint
        | none => exact absurd (by simpa only [ended, job] using stint) begun
      have settled : answer = none ∧ after = stage ∧ time ≤ stage.now := by
        simp only [ended] at looked
        unfold answerAt at looked
        split at looked <;> split at looked <;> cases looked <;> exact ⟨rfl, rfl, ‹_›⟩
      obtain ⟨rfl, rfl, due⟩ := settled
      exact ⟨.elapsed time (clock ▸ due) underway, same⟩

theorem attempt_requestStop {answer : Unit}
    (looked : stage.attempt id .requestStop progress = .answered answer after) :
    ∃ bot, Tenure.Answered tenure .requestStop answer bot tenure.stint ∧
      { tenure with bot := bot }.setting = after.setting := by
  obtain ⟨-, rfl⟩ := Attempt.answered.inj looked
  refine ⟨_, .stopped, ?_⟩
  obtain ⟨session, stops, botStop, clock, stint⟩ := Setting.mk.inj same
  simp only [requestStop, wakeAll_setting]
  simp only [Tenure.setting, setting, session, stops, botStop, clock, stint]
  rfl

theorem attempt_beginTask {answer : Unit} {clone : CloneId} (unused : clone ∉ tenure.bot.clones)
    (unbegun : tenure.stint = .unbegun)
    (looked : stage.attempt id .beginTask progress = .answered answer after) :
    ∃ bot, Tenure.Answered tenure .beginTask answer bot .underway ∧
      { tenure with bot := bot, stint := .underway }.setting = after.setting := by
  obtain ⟨-, rfl⟩ := Attempt.answered.inj looked
  refine ⟨_, .begun clone unused, ?_⟩
  obtain ⟨session, stops, botStop, clock, stint⟩ := Setting.mk.inj same
  rw [unbegun, Stage.stint] at stint
  cases ended : stage.jobEnd with
  | some result => simp [ended] at stint
  | none =>
    simp only [spawn, wake_setting]
    simp [Tenure.setting, setting, Stage.stint, session, stops, botStop, clock]

end Attempt

theorem play_andThen {α β : Type} (activity : Activity α) (follow : α → Activity β)
    (stage : Stage) :
    stage.play (activity.andThen follow) =
      (stage.play activity).bind fun played => played.2.play (follow played.1) := by
  induction activity generalizing stage with
  | done value => rfl
  | step op next ih =>
    simp only [Activity.andThen, play]
    cases stage.attempt player op .fresh with
    | answered answer after => exact ih answer _
    | blocked progress after =>
      simp only
      cases await op turnLimit progress after with
      | none => rfl
      | some woken => exact ih woken.1 _

/-- A whole service is the start of its session and then its run, as in the course of a service. -/
theorem play_serve (stage : Stage) (settings : SessionSettings) (shutdown : Option Instant) :
    stage.play (Service.serve settings shutdown) =
      (stage.play (Service.startSession settings).run).bind fun started =>
        match started.1 with
        | .error error => some (.error (.api error), started.2)
        | .ok () => started.2.play (Service.run shutdown) := by
  refine (play_andThen _ _ stage).trans (congrArg _ (funext fun started => ?_))
  obtain ⟨error | ⟨⟨⟩⟩, after⟩ := started <;> rfl

end Rehearsal.Stage
end Switchboard
