import Switchboard.Proofs.Service.Tenure

set_option autoImplicit false

namespace Switchboard

/-- The task is over with an outcome; a task that was given up counts as done. -/
def Stint.Closed (stint : Stint) (outcome : Except ServiceError Unit) : Prop :=
  stint = .ended outcome ∨ stint = .givenUp ∧ outcome = .ok ()

namespace Tenure

open Service (Point Goes conclude grace)

section Tales

variable (settings : SessionSettings) (shutdown : Option Instant) (stops : StopForest)

/-- The task was begun, and then the shutdown came. -/
def ShutDown (history : List Proceeding) : Prop :=
  [.answered .beginTask (), .answered (.awaitTask shutdown) none].Sublist history

/-- A shutdown came, and the streams were asked to stop. -/
structure Stopping (history before after : List Proceeding) : Prop where
  whole : history = before ++ .answered .requestStop () :: after
  told : ShutDown shutdown before

/-- How a service comes to the outcome of its task. -/
inductive Finale (history : List Proceeding) : Except ServiceError Unit → Prop
  /-- The task ended before any shutdown. -/
  | unprompted (outcome : Except ServiceError Unit)
      (order : [.answered .beginTask (), .ended outcome,
        .answered (.awaitTask shutdown) (some outcome)].Sublist history) : Finale history outcome
  /-- The task ended after its streams were asked to stop. -/
  | prompted (outcome : Except ServiceError Unit) (before after : List Proceeding)
      (stopping : Stopping shutdown history before after) (ended : .ended outcome ∈ after) :
      Finale history outcome
  /-- The grace was over, and the task was given up. -/
  | late (before waited after : List Proceeding)
      (stopping : Stopping shutdown history before (waited ++ .answered .giveUpTask () :: after))
      (long : grace ≤ elapsed waited) : Finale history (.ok ())

/-- After its task had come to an outcome the service saw that a session was bound, and it was. -/
def Authorized (history : List Proceeding) (outcome : Except ServiceError Unit)
    (session : Session) : Prop :=
  ∃ early late tenure, history = early ++ .answered .session (some session) :: late ∧
    Finale shutdown early outcome ∧ Reached settings shutdown stops early tenure ∧
    tenure.bot.slot = some session

/-- How far a service may be with the release of a session. -/
def Licensed (history : List Proceeding) (outcome : Except ServiceError Unit) :
    Session.Point → Prop
  | .beginning .release | .unbinding _ | .settled _ => True
  | .releasing session => Authorized settings shutdown stops history outcome session
  | _ => False

/-- What has happened when a service stands at a point. -/
def Tells (history : List Proceeding) (stint : Stint) : Point → Prop
  | .signing _ | .pushing _ _ | .beginning => stint = .unbegun
  | .watching => Begun history ∧ (stint = .underway ∨ ∃ outcome, stint = .ended outcome ∧
      [.answered .beginTask (), .ended outcome].Sublist history)
  | .stopping => stint = .underway ∧ ShutDown shutdown history
  | .timing => stint = .underway ∧ ∃ before after, Stopping shutdown history before after
  | .waiting deadline => ∃ before after, Stopping shutdown history before after ∧
      elapsed before + grace ≤ deadline ∧
      (stint = .underway ∨ ∃ outcome, stint = .ended outcome ∧ .ended outcome ∈ after)
  | .abandoning => stint = .underway ∧
      ∃ before after, Stopping shutdown history before after ∧ grace ≤ elapsed after
  | .checking outcome => Finale shutdown history outcome ∧ stint.Closed outcome
  | .releasing outcome call => Finale shutdown history outcome ∧ stint.Closed outcome ∧
      Licensed settings shutdown stops history outcome call
  | .ceased result => (stint = .unbegun ∧ ∃ error, result = .error (.api error)) ∨
      ∃ outcome, Finale shutdown history outcome ∧ stint.Closed outcome ∧
        result = conclude outcome

/-- What a service shows agrees with what happened. -/
structure Orderly (history : List Proceeding) (tenure : Tenure) : Prop where
  stands : ∃ point : Point, tenure.work = point.work settings shutdown ∧
    Tells settings shutdown stops history tenure.stint point
  begun : Begun history → tenure.stint ≠ .unbegun
  /-- The task ends once at most. -/
  ended : ∀ outcome, .ended outcome ∈ history ↔ tenure.stint = .ended outcome
  clock : elapsed history = tenure.clock
  sent : tenure.asked = true → ∃ request next, tenure.work = .step (.request request) next

end Tales

variable {settings : SessionSettings} {shutdown : Option Instant} {stops : StopForest}
  {history more before after : List Proceeding} {tenure next : Tenure} {proceeding : Proceeding}
  {outcome : Except ServiceError Unit} {point later : Point} {stint : Stint} {bot : Custody}

theorem Stopping.mono (stopping : Stopping shutdown history before after) :
    Stopping shutdown (history ++ more) before (after ++ more) :=
  ⟨by rw [stopping.whole, List.append_assoc, List.cons_append], stopping.told⟩

theorem Stopping.elapsed_eq (stopping : Stopping shutdown history before after) :
    elapsed history = elapsed before + elapsed after := by
  rw [stopping.whole, elapsed_append]
  simp [elapsed, Proceeding.span]

theorem Finale.mono (finale : Finale shutdown history outcome) :
    Finale shutdown (history ++ more) outcome := by
  cases finale with
  | unprompted _ order => exact .unprompted _ (order.trans (List.sublist_append_left _ _))
  | prompted _ before after stopping ended =>
    exact .prompted _ _ _ stopping.mono (List.mem_append_left _ ended)
  | late before waited after stopping long =>
    refine .late before waited (after ++ more) ?_ long
    rw [← List.cons_append, ← List.append_assoc]
    exact stopping.mono

theorem Finale.begun (finale : Finale shutdown history outcome) : Begun history := by
  cases finale with
  | unprompted _ order => exact order.subset List.mem_cons_self
  | prompted _ before after stopping | late before _ after stopping =>
    rw [stopping.whole]
    exact List.mem_append_left _ (stopping.told.subset List.mem_cons_self)

theorem Authorized.mono {session : Session}
    (authorized : Authorized settings shutdown stops history outcome session) :
    Authorized settings shutdown stops (history ++ more) outcome session := by
  obtain ⟨early, late, tenure, rfl, finale, reached, bound⟩ := authorized
  exact ⟨early, late ++ more, tenure, List.append_assoc _ _ _, finale, reached, bound⟩

theorem Licensed.mono {call : Session.Point}
    (licensed : Licensed settings shutdown stops history outcome call) :
    Licensed settings shutdown stops (history ++ more) outcome call := by
  cases call with
  | releasing session => exact Authorized.mono licensed
  | beginning demand => cases demand <;> exact licensed
  | _ => exact licensed

theorem Tells.mono (tells : Tells settings shutdown stops history stint point) :
    Tells settings shutdown stops (history ++ more) stint point := by
  have longer := List.sublist_append_left history more
  cases point with
  | signing | pushing | beginning => exact tells
  | watching =>
    obtain ⟨begun, underway | ⟨outcome, ceased, order⟩⟩ := tells
    · exact ⟨longer.subset begun, .inl underway⟩
    · exact ⟨longer.subset begun, .inr ⟨outcome, ceased, order.trans longer⟩⟩
  | stopping => exact ⟨tells.1, tells.2.trans longer⟩
  | timing =>
    obtain ⟨underway, before, after, stopping⟩ := tells
    exact ⟨underway, before, _, stopping.mono⟩
  | waiting deadline =>
    obtain ⟨before, after, stopping, due, underway | ⟨outcome, ceased, ended⟩⟩ := tells
    · exact ⟨before, _, stopping.mono, due, .inl underway⟩
    · exact ⟨before, _, stopping.mono, due, .inr ⟨outcome, ceased, List.mem_append_left _ ended⟩⟩
  | abandoning =>
    obtain ⟨underway, before, after, stopping, long⟩ := tells
    exact ⟨underway, before, _, stopping.mono, by rw [elapsed_append]; omega⟩
  | checking outcome => exact ⟨tells.1.mono, tells.2⟩
  | releasing outcome call => exact ⟨tells.1.mono, tells.2.1, tells.2.2.mono⟩
  | ceased result =>
    rcases tells with unbegun | ⟨outcome, finale, rest⟩
    · exact .inl unbegun
    · exact .inr ⟨outcome, finale.mono, rest⟩

/-- A call for a session or for its release is answered as in any company, and the task is left
alone. -/
theorem Answered.of_call {call onward : Session.Point} {op : Op} {answer : op.Answer}
    (answered : Answered tenure op answer bot stint) (goes : Session.Goes call op answer onward) :
    stint = tenure.stint ∧ ∃ slot, Custody.Answered tenure.bot.slot op answer slot ∧
      bot = { tenure.bot with slot := slot } := by
  cases answered with
  | bot _ _ slot answered => exact ⟨rfl, slot, answered, rfl⟩
  | begun | ended | elapsed | stopped | told | givenUp => cases goes

theorem Answered.of_begin (answered : Answered tenure .beginTask () bot stint) :
    stint = .underway ∧ ∃ clone, clone ∉ tenure.bot.clones ∧
      bot = { tenure.bot with clones := clone :: tenure.bot.clones } := by
  cases answered with
  | bot _ _ slot answered => exact nomatch answered.concerns
  | begun clone unused => exact ⟨rfl, clone, unused, rfl⟩

theorem Answered.of_ended {deadline : Option Instant}
    (answered : Answered tenure (.awaitTask deadline) (some outcome) bot stint) :
    bot = tenure.bot ∧ stint = tenure.stint ∧ tenure.stint = .ended outcome := by
  cases answered with
  | bot _ _ slot answered => exact nomatch answered.concerns
  | ended _ _ ceased => exact ⟨rfl, rfl, ceased⟩

theorem Answered.of_elapsed {deadline : Option Instant}
    (answered : Answered tenure (.awaitTask deadline) none bot stint) :
    bot = tenure.bot ∧ stint = tenure.stint ∧ tenure.stint = .underway ∧
      ∃ time, deadline = some time ∧ time ≤ tenure.clock := by
  cases answered with
  | bot _ _ slot answered => exact nomatch answered.concerns
  | elapsed time due underway => exact ⟨rfl, rfl, underway, time, rfl, due⟩

theorem Answered.of_requestStop (answered : Answered tenure .requestStop () bot stint) :
    bot = { tenure.bot with stops := tenure.bot.stops.request tenure.bot.botStop } ∧
      stint = tenure.stint := by
  cases answered with
  | bot _ _ slot answered => exact nomatch answered.concerns
  | stopped => exact ⟨rfl, rfl⟩

theorem Answered.of_now {now : Instant} (answered : Answered tenure .now now bot stint) :
    bot = tenure.bot ∧ stint = tenure.stint ∧ now = tenure.clock := by
  cases answered with
  | bot _ _ slot answered => exact nomatch answered.concerns
  | told => exact ⟨rfl, rfl, rfl⟩

theorem Answered.of_giveUp (answered : Answered tenure .giveUpTask () bot stint) :
    bot = tenure.bot ∧ stint = .givenUp := by
  cases answered with
  | bot _ _ slot answered => exact nomatch answered.concerns
  | givenUp => exact ⟨rfl, rfl⟩

theorem Licensed.answer {call onward : Session.Point} {op : Op} {answer : op.Answer}
    {slot : Option Session} (licensed : Licensed settings shutdown stops history outcome call)
    (finale : Finale shutdown history outcome) (goes : Session.Goes call op answer onward)
    (answered : Custody.Answered tenure.bot.slot op answer slot)
    (reached : Reached settings shutdown stops history tenure) :
    Licensed settings shutdown stops (history ++ [.answered op answer]) outcome onward := by
  cases goes with
  | found session => exact ⟨history, [], tenure, rfl, finale, reached, answered.session_eq.symm⟩
  | unbound | kept | released | finished => trivial
  | _ => exact licensed.elim

theorem Licensed.request {call onward : Session.Point} {request : Request}
    {result : Except TransportError Json}
    (licensed : Licensed settings shutdown stops history outcome call)
    (goes : Session.Goes call (.request request) result onward) :
    ∃ session, request = session.releaseRequest ∧
      Authorized settings shutdown stops history outcome session := by
  cases goes with
  | kept session | released session => exact ⟨session, rfl, licensed⟩
  | refused | granted | rejected | verified | returned => exact licensed.elim

theorem Tells.answer {op : Op} {answer : op.Answer}
    (tells : Tells settings shutdown stops history tenure.stint point)
    (goes : Goes settings shutdown point op answer later)
    (answered : Answered tenure op answer bot stint)
    (reached : Reached settings shutdown stops history tenure)
    (clock : elapsed history = tenure.clock) :
    Tells settings shutdown stops (history ++ [.answered op answer]) stint later := by
  have latest : .answered op answer ∈ history ++ [.answered op answer] :=
    List.mem_append_right _ (List.mem_singleton_self _)
  cases goes with
  | signs call onward _ _ goes => exact (answered.of_call goes).1.trans tells
  | plain | begun => exact ⟨latest, .inl answered.of_begin.1⟩
  | unnamed =>
    cases answered
    exact .inl ⟨tells, _, rfl⟩
  | refused =>
    cases answered
    exact .inl ⟨tells, _, rfl⟩
  | named | pushed =>
    cases answered
    exact tells
  | ended outcome =>
    obtain ⟨-, rfl, ceased⟩ := answered.of_ended
    obtain ⟨begun, underway | ⟨other, known, order⟩⟩ := tells
    · cases ceased.symm.trans underway
    · cases ceased.symm.trans known
      exact ⟨.unprompted outcome (order.append (.refl [_])), .inl ceased⟩
  | shutDown =>
    obtain ⟨-, rfl, underway, -⟩ := answered.of_elapsed
    exact ⟨underway, (List.singleton_sublist.mpr tells.1).append (.refl [_])⟩
  | stopped =>
    obtain ⟨-, rfl⟩ := answered.of_requestStop
    exact ⟨tells.1, history, [], rfl, tells.2⟩
  | timed now =>
    obtain ⟨-, rfl, rfl⟩ := answered.of_now
    obtain ⟨underway, before, after, stopping⟩ := tells
    have spent := stopping.elapsed_eq
    exact ⟨before, _, stopping.mono, by omega, .inl underway⟩
  | inTime deadline outcome =>
    obtain ⟨-, rfl, ceased⟩ := answered.of_ended
    obtain ⟨before, after, stopping, due, underway | ⟨other, known, ended⟩⟩ := tells
    · cases ceased.symm.trans underway
    · cases ceased.symm.trans known
      exact ⟨.prompted outcome before _ stopping.mono (List.mem_append_left _ ended), .inl ceased⟩
  | late deadline =>
    obtain ⟨-, rfl, underway, _, ⟨⟩, arrived⟩ := answered.of_elapsed
    obtain ⟨before, after, stopping, due, -⟩ := tells
    have spent : elapsed before + grace ≤ elapsed before + elapsed after :=
      Nat.le_trans due (le_of_le_of_eq arrived (clock.symm.trans stopping.elapsed_eq))
    exact ⟨underway, before, _, stopping.mono, by rw [elapsed_append]; omega⟩
  | abandoned =>
    obtain ⟨-, before, after, stopping, long⟩ := tells
    exact ⟨.late before after [] stopping.mono long, .inr ⟨answered.of_giveUp.2, rfl⟩⟩
  | unbound outcome =>
    cases answered
    exact .inr ⟨outcome, tells.1.mono, tells.2, rfl⟩
  | bound outcome session =>
    cases answered
    exact ⟨tells.1.mono, tells.2, trivial⟩
  | releases outcome call onward _ _ goes =>
    obtain ⟨finale, closed, licensed⟩ := tells
    obtain ⟨rfl, slot, answered, -⟩ := answered.of_call goes
    exact ⟨finale.mono, closed, licensed.answer finale goes answered reached⟩

theorem Tells.ended (tells : Tells settings shutdown stops history .underway point)
    {deadline : Option Instant} {rest : Op.Answer (.awaitTask deadline) →
      Activity (Except ServiceError Unit)}
    (awaits : point.work settings shutdown = .step (.awaitTask deadline) rest) :
    Tells settings shutdown stops (history ++ [.ended outcome]) (.ended outcome) point := by
  obtain ⟨later, goes, -⟩ := point.goes awaits none
  cases goes with
  | signs _ _ _ _ goes | releases _ _ _ _ _ goes => cases goes
  | shutDown =>
    exact ⟨List.mem_append_left _ tells.1, .inr ⟨outcome, rfl,
      (List.singleton_sublist.mpr tells.1).append (.refl [_])⟩⟩
  | late deadline =>
    obtain ⟨before, after, stopping, due, -⟩ := tells
    exact ⟨before, _, stopping.mono, due, .inr ⟨outcome, rfl,
      List.mem_append_right _ (List.mem_singleton_self _)⟩⟩

section Preservation

variable (step : Step tenure proceeding next)
  (orderly : Orderly settings shutdown stops history tenure)

include step orderly

theorem Step.stands (reached : Reached settings shutdown stops history tenure) :
    ∃ point : Point, next.work = point.work settings shutdown ∧
      Tells settings shutdown stops (history ++ [proceeding]) next.stint point := by
  obtain ⟨point, asks, tells⟩ := orderly.stands
  cases step with
  | shared | forsaken | asks | passed | ran => exact ⟨point, asks, tells.mono⟩
  | answer op rest answer bot stint stands due answered =>
    obtain ⟨later, goes, left⟩ := point.goes (asks.symm.trans stands) answer
    exact ⟨later, left, tells.answer goes answered reached orderly.clock⟩
  | ended outcome underway awaited =>
    obtain ⟨deadline, rest, awaits⟩ := awaited
    rw [underway] at tells
    exact ⟨point, asks, tells.ended (asks.symm.trans awaits)⟩

theorem Step.begun (begun : Begun (history ++ [proceeding])) : next.stint ≠ .unbegun := by
  have before (known : Begun history) := orderly.begun known
  rcases List.mem_append.mp begun with known | latest
  · cases step with
    | shared | forsaken | asks | passed | ran => exact before known
    | ended => exact nofun
    | answer op rest answer bot stint stands due answered =>
      cases answered with
      | bot | ended | elapsed | stopped | told => exact before known
      | begun | givenUp => exact nofun
  · cases List.mem_singleton.mp latest
    cases step with
    | answer _ _ _ _ _ _ _ answered =>
      rw [answered.of_begin.1]
      exact nofun

/-- No answer ends the task: before it is begun, and when it is given up, it has not ended. -/
theorem Step.unending {op : Op} {answer : op.Answer} (own : proceeding = .answered op answer) :
    next.stint = tenure.stint ∨
      ∀ outcome, tenure.stint ≠ .ended outcome ∧ next.stint ≠ .ended outcome := by
  obtain ⟨point, asks, tells⟩ := orderly.stands
  cases step with
  | answer _ rest _ bot stint stands due answered =>
    obtain ⟨later, goes, -⟩ := point.goes (asks.symm.trans stands) ‹_›
    cases answered with
    | bot | ended | elapsed | stopped | told => exact .inl rfl
    | begun =>
      cases goes with
      | signs _ _ _ _ goes => cases goes
      | releases _ _ _ _ _ goes => cases goes
      | plain | begun => exact .inr fun outcome => ⟨tells ▸ nofun, nofun⟩
    | givenUp =>
      cases goes with
      | signs _ _ _ _ goes => cases goes
      | releases _ _ _ _ _ goes => cases goes
      | abandoned => exact .inr fun outcome => ⟨tells.1 ▸ nofun, nofun⟩
  | _ => cases own

theorem Step.ended_iff (outcome : Except ServiceError Unit) :
    .ended outcome ∈ history ++ [proceeding] ↔ next.stint = .ended outcome := by
  have before := orderly.ended outcome
  rw [List.mem_append, List.mem_singleton, before]
  cases proceeding with
  | ended other =>
    cases step with
    | ended _ underway => simp [underway, eq_comm]
  | answered op answer =>
    rcases step.unending orderly rfl with same | unended
    · simp [same]
    · simp [unended outcome]
  | shared | forsaken | asked | passed | ran =>
    cases step
    simp [forsake]

theorem Step.clock : elapsed (history ++ [proceeding]) = next.clock := by
  rw [elapsed_append, orderly.clock]
  cases step <;> rfl

theorem Step.sent (asked : next.asked = true) :
    ∃ request rest, next.work = .step (.request request) rest := by
  cases step with
  | shared | forsaken | ended | passed | ran => exact orderly.sent asked
  | asks request rest stands => exact ⟨request, rest, stands⟩
  | answer => cases asked

end Preservation

theorem Step.orderly (step : Step tenure proceeding next)
    (orderly : Orderly settings shutdown stops history tenure)
    (reached : Reached settings shutdown stops history tenure) :
    Orderly settings shutdown stops (history ++ [proceeding]) next where
  stands := step.stands orderly reached
  begun := step.begun orderly
  ended := step.ended_iff orderly
  clock := step.clock orderly
  sent := step.sent orderly

theorem start_eq : start settings shutdown stops =
    ⟨.start stops,
      (Point.signing (.beginning (.authorize settings.authKey settings.botId))).work settings
        shutdown, false, .unbegun, 0⟩ := by
  rw [start, Service.serve_eq]
  rfl

theorem start_orderly : Orderly settings shutdown stops [] (start settings shutdown stops) where
  stands := ⟨.signing (.beginning (.authorize settings.authKey settings.botId)),
    Service.serve_eq settings shutdown, rfl⟩
  begun := nofun
  ended := fun outcome => by simp [start]
  clock := rfl
  sent := nofun

theorem Reached.orderly (reached : Reached settings shutdown stops history tenure) :
    Orderly settings shutdown stops history tenure := by
  induction reached with
  | nil => exact start_orderly
  | snoc run step ih => exact step.orderly ih run

theorem Orderly.outcome_eq (orderly : Orderly settings shutdown stops history tenure)
    (closed : tenure.stint.Closed outcome) (error : ServiceError) :
    outcome = .error error ↔ .ended (.error error) ∈ history := by
  rw [orderly.ended]
  rcases closed with ceased | ⟨givenUp, rfl⟩
  · simp [ceased]
  · simp [givenUp]

/-- A service that never began its task ends with an error of the server; any other one ends as its
task did. -/
theorem Orderly.returned {result : Except ServiceError Unit}
    (orderly : Orderly settings shutdown stops history tenure) (returned : tenure.Returned result) :
    (tenure.stint = .unbegun ∧ ∃ error, result = .error (.api error)) ∨
      ∃ outcome, Finale shutdown history outcome ∧ tenure.stint.Closed outcome ∧
        result = conclude outcome := by
  obtain ⟨point, asks, tells⟩ := orderly.stands
  have left : point.work settings shutdown = .done result := asks.symm.trans returned
  cases point with
  | signing call =>
    obtain ⟨signed, -, follows⟩ := Activity.andThen_eq_done left
    refine .inl ⟨tells, ?_⟩
    rcases signed with error | ⟨⟨⟩⟩
    · cases follows
      exact ⟨error, rfl⟩
    · exact absurd follows (Service.afterSigning_ne_done settings shutdown)
  | releasing outcome call =>
    obtain ⟨released, -, follows⟩ := Activity.andThen_eq_done left
    cases follows
    exact .inr ⟨outcome, tells.1, tells.2.1, rfl⟩
  | ceased other =>
    cases left
    exact tells
  | beginning => cases (Service.run_eq shutdown).symm.trans left
  | pushing | watching | stopping | timing | waiting | abandoning | checking => cases left

/-- A service whose task was begun asks for the release of a session only after the task came to its
outcome, and only if that session was bound then. -/
theorem Step.authorized {session : Session}
    (step : Step tenure (.asked session.releaseRequest) next)
    (orderly : Orderly settings shutdown stops history tenure) (begun : Begun history) :
    ∃ outcome, Authorized settings shutdown stops history outcome session := by
  obtain ⟨point, asks, tells⟩ := orderly.stands
  have late := orderly.begun begun
  cases step with
  | asks _ rest stands =>
    obtain ⟨later, goes, -⟩ := point.goes (asks.symm.trans stands) (.error default)
    generalize same : session.releaseRequest = request at goes
    cases goes with
    | signs | refused | pushed => exact absurd tells late
    | releases outcome call onward _ _ goes =>
      obtain ⟨-, -, licensed⟩ := tells
      obtain ⟨other, alike, authorized⟩ := licensed.request goes
      rw [Session.releaseRequest_inj (same.trans alike)]
      exact ⟨outcome, authorized⟩

end Tenure
end Switchboard
