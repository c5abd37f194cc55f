import Switchboard.Proofs.Session.Points
import Switchboard.Service.Basic

set_option autoImplicit false

namespace Switchboard

/-- The first operation of one activity after another is the first one of the other, unless that is
done. -/
theorem Activity.andThen_step {α β : Type} {activity : Activity α} {follow : α → Activity β}
    {op : Op}
    {next : op.Answer → Activity β} (asks : activity.andThen follow = .step op next) :
    (∃ value, activity = .done value ∧ follow value = .step op next) ∨
      ∃ rest, activity = .step op rest ∧ next = fun answer => (rest answer).andThen follow := by
  cases activity with
  | done value => exact .inl ⟨value, rfl, asks⟩
  | step other rest =>
    cases asks
    exact .inr ⟨rest, rfl, rfl⟩

theorem Activity.andThen_eq_done {α β : Type} {activity : Activity α} {follow : α → Activity β}
    {value : β} (left : activity.andThen follow = .done value) :
    ∃ middle, activity = .done middle ∧ follow middle = .done value := by
  cases activity with
  | done middle => exact ⟨middle, rfl, left⟩
  | step op rest => cases left

theorem Session.Point.settled_of_work {point : Session.Point} {result : Except ApiError Unit}
    (left : point.work = .done result) : point = .settled result := by
  cases point with
  | beginning demand =>
    cases demand with
    | authorize authKey botId =>
      rw [Point.work, Demand.work, authorize_eq] at left
      cases left
    | release =>
      rw [Point.work, Demand.work, release_eq] at left
      cases left
  | opening | verifying | binding | returning | releasing | unbinding => cases left
  | settled other =>
    cases left
    rfl

namespace Service

def configRequest (session : Session) (config : SessionConfig) : Request :=
  .postJson "/config"
    (.ofMembers (config.encode.members?.getD [] ++ [("sessionKey", .str session.key)]))

def conclude (outcome : Except ServiceError Unit) : Except ServiceError Unit :=
  outcome.mapError fun error => .task error.message

/-- Where a service stands. -/
inductive Point where
  /-- It signs for its session. -/
  | signing (call : Session.Point)
  | pushing (session : Session) (config : SessionConfig)
  | beginning
  | watching
  | stopping
  | timing
  | waiting (deadline : Instant)
  | abandoning
  | checking (outcome : Except ServiceError Unit)
  | releasing (outcome : Except ServiceError Unit) (call : Session.Point)
  | ceased (result : Except ServiceError Unit)

section Rest

variable (settings : SessionSettings) (shutdown : Option Instant)

def fromChecking (outcome : Except ServiceError Unit) : Activity (Except ServiceError Unit) :=
  .step .session fun
    | some _ => Session.release.run.andThen fun _ => .done (conclude outcome)
    | none => .done (conclude outcome)

def fromAbandoning : Activity (Except ServiceError Unit) :=
  .step .giveUpTask fun _ => fromChecking (.ok ())

def fromWaiting (deadline : Instant) : Activity (Except ServiceError Unit) :=
  .step (.awaitTask (some deadline)) fun
    | some outcome => fromChecking outcome
    | none => fromAbandoning

def fromTiming : Activity (Except ServiceError Unit) :=
  .step .now fun now => fromWaiting (now + grace)

def fromStopping : Activity (Except ServiceError Unit) :=
  .step .requestStop fun _ => fromTiming

def fromWatching : Activity (Except ServiceError Unit) :=
  .step (.awaitTask shutdown) fun
    | some outcome => fromChecking outcome
    | none => fromStopping

def fromPushing (session : Session) (config : SessionConfig) :
    Activity (Except ServiceError Unit) :=
  .step (.request (configRequest session config)) fun result =>
    match Call.verdict result with
    | .ok _ => run shutdown
    | .error error => .done (.error (.api error))

def fromSharing (config : SessionConfig) : Activity (Except ServiceError Unit) :=
  .step .session fun
    | none => .done (.error (.api .notAuthorized))
    | some session => fromPushing shutdown session config

/-- What follows once the service has signed for its session. -/
def afterSigning : Except ApiError Unit → Activity (Except ServiceError Unit)
  | .error error => .done (.error (.api error))
  | .ok () =>
    match settings.sessionConfig? with
    | none => run shutdown
    | some config => fromSharing shutdown config

open Activity (perform_bind)

theorem run_eq : run shutdown = .step .beginTask fun _ => fromWatching shutdown := by
  have checking (outcome : Except ServiceError Unit) :
      (do
        if (← Activity.perform .session).isSome then
          let _ ← Session.release.run
        return outcome.mapError fun error => .task error.message) = fromChecking outcome := by
    refine (perform_bind .session _).trans (congrArg _ (funext fun bound => ?_))
    cases bound <;> rfl
  refine (perform_bind .beginTask _).trans (congrArg _ (funext fun _ => ?_))
  refine (perform_bind (.awaitTask shutdown) _).trans (congrArg _ (funext fun ended => ?_))
  cases ended with
  | some outcome => exact checking outcome
  | none =>
    refine (perform_bind .requestStop _).trans (congrArg _ (funext fun _ => ?_))
    refine (perform_bind .now _).trans (congrArg _ (funext fun now => ?_))
    refine (perform_bind (.awaitTask (some (now + grace))) _).trans
      (congrArg _ (funext fun ended => ?_))
    cases ended with
    | some outcome => exact checking outcome
    | none =>
      refine (perform_bind .giveUpTask _).trans (congrArg _ (funext fun _ => ?_))
      exact checking (.ok ())

theorem serve_eq : serve settings shutdown =
    (Session.authorize settings.authKey settings.botId).run.andThen
      (afterSigning settings shutdown) := by
  refine (Activity.andThen_assoc _ _ _).trans ?_
  refine congrArg (Activity.andThen · _) (funext fun signed => ?_)
  rcases signed with error | ⟨⟨⟩⟩
  · rfl
  · rw [afterSigning]
    cases settings.sessionConfig? with
    | none => rfl
    | some config =>
      refine (perform_bind .session _).trans (congrArg _ (funext fun bound => ?_))
      cases bound with
      | none => rfl
      | some session =>
        have sent := Call.send_bind (configRequest session config) fun _ => pure ()
        refine (congrArg (Activity.andThen _) sent).trans (congrArg _ (funext fun result => ?_))
        dsimp only
        cases Call.verdict result <;> rfl

theorem afterSigning_ne_done {result : Except ServiceError Unit} :
    afterSigning settings shutdown (.ok ()) ≠ .done result := by
  rw [afterSigning]
  cases settings.sessionConfig? with
  | none =>
    rw [run_eq]
    exact nofun
  | some config => exact nofun

end Rest

def Point.work (settings : SessionSettings) (shutdown : Option Instant) :
    Point → Activity (Except ServiceError Unit)
  | .signing call => call.work.andThen (afterSigning settings shutdown)
  | .pushing session config => fromPushing shutdown session config
  | .beginning => run shutdown
  | .watching => fromWatching shutdown
  | .stopping => fromStopping
  | .timing => fromTiming
  | .waiting deadline => fromWaiting deadline
  | .abandoning => fromAbandoning
  | .checking outcome => fromChecking outcome
  | .releasing outcome call => call.work.andThen fun _ => .done (conclude outcome)
  | .ceased result => .done result

/-- Where an answer leads. -/
inductive Goes (settings : SessionSettings) (shutdown : Option Instant) :
    Point → (op : Op) → op.Answer → Point → Prop
  | signs (call after : Session.Point) (op : Op) (answer : op.Answer)
      (goes : Session.Goes call op answer after) :
      Goes settings shutdown (.signing call) op answer (.signing after)
  | plain (unset : settings.sessionConfig? = none) :
      Goes settings shutdown (.signing (.settled (.ok ()))) .beginTask () .watching
  | unnamed (config : SessionConfig) (configured : settings.sessionConfig? = some config) :
      Goes settings shutdown (.signing (.settled (.ok ()))) .session none
        (.ceased (.error (.api .notAuthorized)))
  | named (config : SessionConfig) (session : Session)
      (configured : settings.sessionConfig? = some config) :
      Goes settings shutdown (.signing (.settled (.ok ()))) .session (some session)
        (.pushing session config)
  | refused (session : Session) (config : SessionConfig) (result : Except TransportError Json)
      (error : ApiError) (failed : Call.verdict result = .error error) :
      Goes settings shutdown (.pushing session config) (.request (configRequest session config))
        result (.ceased (.error (.api error)))
  | pushed (session : Session) (config : SessionConfig) (result : Except TransportError Json)
      (response : Json) (succeeded : Call.verdict result = .ok response) :
      Goes settings shutdown (.pushing session config) (.request (configRequest session config))
        result .beginning
  | begun : Goes settings shutdown .beginning .beginTask () .watching
  | ended (outcome : Except ServiceError Unit) :
      Goes settings shutdown .watching (.awaitTask shutdown) (some outcome) (.checking outcome)
  | shutDown : Goes settings shutdown .watching (.awaitTask shutdown) none .stopping
  | stopped : Goes settings shutdown .stopping .requestStop () .timing
  | timed (now : Instant) :
      Goes settings shutdown .timing .now now (.waiting (now + grace))
  | inTime (deadline : Instant) (outcome : Except ServiceError Unit) :
      Goes settings shutdown (.waiting deadline) (.awaitTask (some deadline)) (some outcome)
        (.checking outcome)
  | late (deadline : Instant) :
      Goes settings shutdown (.waiting deadline) (.awaitTask (some deadline)) none .abandoning
  | abandoned : Goes settings shutdown .abandoning .giveUpTask () (.checking (.ok ()))
  | unbound (outcome : Except ServiceError Unit) :
      Goes settings shutdown (.checking outcome) .session none (.ceased (conclude outcome))
  | bound (outcome : Except ServiceError Unit) (session : Session) :
      Goes settings shutdown (.checking outcome) .session (some session)
        (.releasing outcome (.beginning .release))
  | releases (outcome : Except ServiceError Unit) (call after : Session.Point) (op : Op)
      (answer : op.Answer) (goes : Session.Goes call op answer after) :
      Goes settings shutdown (.releasing outcome call) op answer (.releasing outcome after)

variable {settings : SessionSettings} {shutdown : Option Instant}

theorem Point.goes (point : Point) {op : Op}
    {next : op.Answer → Activity (Except ServiceError Unit)}
    (asks : point.work settings shutdown = .step op next) (answer : op.Answer) :
    ∃ after : Point, Goes settings shutdown point op answer after ∧
      next answer = after.work settings shutdown := by
  cases point with
  | signing call =>
    obtain ⟨signed, settled, follows⟩ | ⟨rest, going, rfl⟩ := Activity.andThen_step asks
    · cases Session.Point.settled_of_work settled
      rcases signed with error | ⟨⟨⟩⟩
      · cases follows
      · rw [afterSigning] at follows
        cases configured : settings.sessionConfig? with
        | none =>
          rw [configured] at follows
          cases (run_eq shutdown).symm.trans follows
          exact ⟨_, .plain configured, rfl⟩
        | some config =>
          rw [configured] at follows
          cases follows
          rcases answer with none | session
          · exact ⟨_, .unnamed config configured, rfl⟩
          · exact ⟨_, .named config session configured, rfl⟩
    · obtain ⟨after, goes, left⟩ := call.goes going answer
      exact ⟨_, .signs call after op answer goes, congrArg _ left⟩
  | pushing session config =>
    cases asks
    cases judged : Call.verdict answer with
    | error error =>
      exact ⟨_, .refused session config answer error judged, by simp only [judged, work]⟩
    | ok response =>
      exact ⟨_, .pushed session config answer response judged, by simp only [judged, work]⟩
  | beginning =>
    cases (run_eq shutdown).symm.trans asks
    exact ⟨_, .begun, rfl⟩
  | watching =>
    cases asks
    rcases answer with none | outcome
    · exact ⟨_, .shutDown, rfl⟩
    · exact ⟨_, .ended outcome, rfl⟩
  | stopping =>
    cases asks
    exact ⟨_, .stopped, rfl⟩
  | timing =>
    cases asks
    exact ⟨_, .timed answer, rfl⟩
  | waiting deadline =>
    cases asks
    rcases answer with none | outcome
    · exact ⟨_, .late deadline, rfl⟩
    · exact ⟨_, .inTime deadline outcome, rfl⟩
  | abandoning =>
    cases asks
    exact ⟨_, .abandoned, rfl⟩
  | checking outcome =>
    cases asks
    rcases answer with none | session
    · exact ⟨_, .unbound outcome, rfl⟩
    · exact ⟨_, .bound outcome session, rfl⟩
  | releasing outcome call =>
    obtain ⟨released, settled, follows⟩ | ⟨rest, going, rfl⟩ := Activity.andThen_step asks
    · cases follows
    · obtain ⟨after, goes, left⟩ := call.goes going answer
      exact ⟨_, .releases outcome call after op answer goes, congrArg _ left⟩
  | ceased result => cases asks

theorem Goes.asks {point after : Point} {op : Op} {answer : op.Answer}
    (goes : Goes settings shutdown point op answer after) :
    ∃ next : op.Answer → Activity (Except ServiceError Unit),
      point.work settings shutdown = .step op next ∧
        next answer = after.work settings shutdown := by
  cases goes with
  | signs call after op answer goes | releases outcome call after op answer goes =>
    obtain ⟨next, going, left⟩ := goes.asks
    exact ⟨_, congrArg (Activity.andThen _) going, congrArg _ left⟩
  | plain unset =>
    refine ⟨_, Eq.trans ?_ (run_eq shutdown), rfl⟩
    simp only [Point.work, Session.Point.work, Activity.andThen, afterSigning, unset]
  | unnamed config configured | named config session configured =>
    refine ⟨_, Eq.trans ?_ (show fromSharing shutdown config = _ from rfl), rfl⟩
    simp only [Point.work, Session.Point.work, Activity.andThen, afterSigning, configured]
  | refused session config result error failed =>
    exact ⟨_, rfl, by simp only [failed, Point.work]⟩
  | pushed session config result response succeeded =>
    exact ⟨_, rfl, by simp only [succeeded, Point.work]⟩
  | begun => exact ⟨_, run_eq shutdown, rfl⟩
  | _ => exact ⟨_, rfl, rfl⟩

end Service
end Switchboard
