import Switchboard.Proofs.Stream.Crew

set_option autoImplicit false

/- What the sink hears of failing callbacks, and what else comes of them. Each callback that fails
or crashes while it runs is reported once; one that crashes when it is called is not reported at
all. Beyond that a failure has no consequences: had the callbacks returned instead, or failed in
another way, then everybody else could have done the same. -/

namespace Switchboard

open Hall (Answers evaluated filterMap_snoc)
open Station (onlineFrame online decode_onlineFrame)

def DispatchError.isOfCallback : DispatchError → Bool
  | .undecodable _ => false
  | .callbackFailed .. | .callbackCrashed .. => true

namespace Upshot

/-- The failure that is due to be reported: what a callback returned, or how it crashed. -/
def due (kind : EventKind) : Upshot → Option DispatchError
  | .returned _ => none
  | .failed reason => some (.callbackFailed kind reason)
  | .crashed reason | .stillborn reason => some (.callbackCrashed kind reason)

theorem fault_eq (upshot : Upshot) (kind : EventKind) :
    upshot.ending.fault kind = if upshot.isStillborn then none else upshot.due kind := by
  cases upshot <;> rfl

theorem isOfCallback_of_fault {upshot : Upshot} {kind : EventKind} {error : DispatchError}
    (fault : upshot.ending.fault kind = some error) : error.isOfCallback = true := by
  cases upshot <;> cases fault <;> rfl

theorem due_of_stillborn {upshot : Upshot} (stillborn : upshot.isStillborn = true)
    (kind : EventKind) : (upshot.due kind).isSome = true := by
  cases upshot <;> first | rfl | cases stillborn

end Upshot

namespace Turn

def did? : Turn → Option Deed
  | .did deed => some deed
  | _ => none

/-- The same step, if some of the callbacks come to something else. -/
def recast (change : ErrandId → Option Upshot) : Turn → List Turn
  | .called errand event =>
    if (change errand).any Upshot.isStillborn then [] else [.called errand event]
  | .ended errand event upshot =>
    match change errand with
    | none => [.ended errand event upshot]
    | some other =>
      if upshot.isStillborn && !other.isStillborn then
        [.called errand event, .ended errand event other]
      else [.ended errand event other]
  | turn => [turn]

end Turn

/-- A callback that comes to something else has not been called if it is to crash when it is. -/
def CallbackStage.recast (other : Option Upshot) : CallbackStage → CallbackStage
  | .running event => if other.any Upshot.isStillborn then .waiting event else .running event
  | stage => stage

namespace Crew

def callbackReports (history : List Turn) : List DispatchError :=
  ((deeds history).filterMap Deed.report?).filter DispatchError.isOfCallback

def conduct (history : List Turn) : List Deed := history.filterMap Turn.did?

/-- The crew, if some of its callbacks come to something else. -/
def recast (change : ErrandId → Option Upshot) (crew : Crew) : Crew :=
  { crew with callbacks := fun errand => (crew.callbacks errand).recast (change errand) }

/-- The callbacks that come to something else ask for no stop, either way. -/
def Unstopping (change : ErrandId → Option Upshot) (history : List Turn) : Prop :=
  ∀ errand other, change errand = some other → other.ending.stops = false ∧
    ∀ event upshot, (errand, event, upshot) ∈ ends history → upshot.ending.stops = false

variable {answers : Answers} {before : List Act} {history : List Turn} {crew next : Crew}
  {turn : Turn} {change : ErrandId → Option Upshot}

theorem callbackReports_snoc :
    callbackReports (history ++ [turn]) = callbackReports history ++
      (turn.deed?.bind Deed.report?).toList.filter DispatchError.isOfCallback := by
  rw [callbackReports, callbackReports, deeds_snoc, List.filterMap_append, List.filter_append]
  cases turn.deed? with
  | none => rfl
  | some deed => cases found : deed.report? <;> simp [found]

/-- Callbacks are reported when they end, and nobody else reports failures of callbacks. -/
theorem Reached.callbackReports (reached : Reached answers before history crew) :
    callbackReports history =
      (ends history).filterMap fun last => last.2.2.ending.fault last.2.1.kind := by
  induction reached with
  | start => rfl
  | snoc reached step ih =>
    rw [callbackReports_snoc, ih, ends_snoc, List.filterMap_append]
    refine congrArg _ ?_
    cases step with
    | did deed station other manned followed step =>
      cases deed with
      | callbackEnded => cases other
      | _ => rfl
    | call | crash => rfl
    | finish errand event upshot station ripe step =>
      simp only [Turn.deed?, Option.bind_some, Deed.report?, Turn.end?, Option.toList_some,
        List.filterMap_cons, List.filterMap_nil]
      cases fault : upshot.ending.fault event.kind with
      | none => rfl
      | some error => simp [Upshot.isOfCallback_of_fault fault]

/-- What is due of some ends is reported of all but those that crashed when they were called. -/
theorem filterMap_fault (list : List (ErrandId × Event × Upshot)) :
    (list.filterMap fun last => last.2.2.ending.fault last.2.1.kind) =
      (list.filter fun last => !last.2.2.isStillborn).filterMap
        fun last => last.2.2.due last.2.1.kind := by
  rw [List.filterMap_filter]
  refine List.filterMap_congr fun last _ => ?_
  rw [Upshot.fault_eq]
  cases last.2.2.isStillborn <;> rfl

/-- Nothing is missing from the reports just if nobody crashed when he was called. -/
theorem filterMap_fault_eq_due (list : List (ErrandId × Event × Upshot)) :
    (list.filterMap fun last => last.2.2.ending.fault last.2.1.kind) =
        (list.filterMap fun last => last.2.2.due last.2.1.kind) ↔
      ∀ last ∈ list, last.2.2.isStillborn = false := by
  constructor
  · intro same last member
    by_contra stillborn
    rw [Bool.not_eq_false] at stillborn
    have fewer : ∀ (entry : ErrandId × Event × Upshot) (error : DispatchError),
        entry.2.2.ending.fault entry.2.1.kind = some error →
          entry.2.2.due entry.2.1.kind = some error := by
      intro entry error found
      rw [Upshot.fault_eq] at found
      split at found
      · cases found
      · exact found
    obtain ⟨front, back, rfl⟩ := List.append_of_mem member
    -- around the one that is not reported there are at least as many due as reported
    have silent : last.2.2.ending.fault last.2.1.kind = none := by
      rw [Upshot.fault_eq, stillborn]
      rfl
    obtain ⟨error, due⟩ :=
      Option.isSome_iff_exists.mp (Upshot.due_of_stillborn stillborn last.2.1.kind)
    have whole := congrArg List.length same
    simp only [List.filterMap_append, List.filterMap_cons, silent, due, List.length_append,
      List.length_cons] at whole
    have first := (Hall.filterMap_sublist fewer front).length_le
    have second := (Hall.filterMap_sublist fewer back).length_le
    omega
  · intro called
    refine List.filterMap_congr fun last member => ?_
    rw [Upshot.fault_eq, called last member]
    rfl

/-- At the station it does not matter how a callback ends, as long as it asks for no stop. -/
theorem end_otherwise {first second : Station} {kind : EventKind} {ending other : CallbackEnd}
    (step : Station.Step answers first (.callbackEnded kind ending) second)
    (same : other.stops = ending.stops) :
    Station.Step answers first (.callbackEnded kind other) second := by
  cases step with
  | endCallback _ _ running =>
    rw [← same]
    exact .endCallback kind other running

theorem setCallback_recast (crew : Crew) (errand : ErrandId) (stage : CallbackStage) :
    (crew.setCallback errand stage).recast change =
      (crew.recast change).setCallback errand (stage.recast (change errand)) := by
  simp only [recast, setCallback, mk.injEq, true_and, and_true]
  funext other
  by_cases own : other = errand
  · subst own
    simp only [Function.update_self]
  · simp only [Function.update_of_ne own]

theorem after_recast (crew : Crew) (deed : Deed) (station : Station) :
    (crew.after deed station).recast change = (crew.recast change).after deed station := by
  unfold after
  split
  · rw [setCallback_recast]
    rfl
  · rfl

theorem setCallback_self {errand : ErrandId} {stage : CallbackStage}
    (same : crew.callbacks errand = stage) : crew.setCallback errand stage = crew := by
  rw [setCallback, ← same, Function.update_eq_self]

theorem setCallback_again (crew : Crew) (errand : ErrandId) (first second : CallbackStage)
    (station : Station) :
    { crew.setCallback errand first with station := station }.setCallback errand second =
      { crew with station := station }.setCallback errand second := by
  simp only [setCallback, Function.update_idem]

theorem Reached.ends_otherwise {others : List Turn} {errand : ErrandId} {event : Event}
    {upshot : Upshot} {station : Station}
    (reached : Reached answers before others (crew.recast change))
    (unstopping : ∀ other, change errand = some other →
      other.ending.stops = false ∧ upshot.ending.stops = false)
    (ripe : crew.callbacks errand =
      if upshot.isStillborn then .waiting event else .running event)
    (step : Station.Step answers crew.station (.callbackEnded event.kind upshot.ending)
      station) :
    Reached answers before (others ++ (Turn.ended errand event upshot).recast change)
      (({ crew with station := station }.setCallback errand .settled).recast change) := by
  have stage : (crew.recast change).callbacks errand =
      (crew.callbacks errand).recast (change errand) := rfl
  rw [setCallback_recast]
  cases changed : change errand with
  | none =>
    rw [changed] at stage
    have still : (crew.recast change).callbacks errand =
        if upshot.isStillborn then .waiting event else .running event := by
      rw [stage, ripe]
      split <;> rfl
    simp only [Turn.recast, changed]
    exact reached.snoc (.finish errand event upshot station still step)
  | some other =>
    obtain ⟨calm, was_calm⟩ := unstopping other changed
    have otherwise := end_otherwise step (calm.trans was_calm.symm)
    rw [changed] at stage
    simp only [Turn.recast, changed]
    cases born : other.isStillborn with
    | true =>
      have waits : (crew.recast change).callbacks errand =
          if other.isStillborn then .waiting event else .running event := by
        rw [stage, ripe, born]
        split <;> simp [CallbackStage.recast, born]
      simp only [Bool.not_true, Bool.and_false, Bool.false_eq_true, ↓reduceIte]
      exact reached.snoc (.finish errand event other station waits otherwise)
    | false =>
      cases was_born : upshot.isStillborn with
      | true =>
        have waits : (crew.recast change).callbacks errand = .waiting event := by
          rw [stage, ripe, was_born]
          rfl
        have runs : ((crew.recast change).setCallback errand (.running event)).callbacks errand =
            if other.isStillborn then .waiting event else .running event := by
          rw [born]
          exact Function.update_self ..
        have ended := (reached.snoc (.call errand event waits)).snoc
          (.finish errand event other station runs otherwise)
        rw [setCallback_again, List.append_assoc] at ended
        exact ended
      | false =>
        have runs : (crew.recast change).callbacks errand =
            if other.isStillborn then .waiting event else .running event := by
          rw [stage, ripe, was_born, born]
          simp [CallbackStage.recast, born]
        simp only [Bool.not_false, Bool.and_true, Bool.false_eq_true, ↓reduceIte]
        exact reached.snoc (.finish errand event other station runs otherwise)

/-- If some callbacks had come to something else, everybody else could have done the same. -/
theorem Reached.recast (reached : Reached answers before history crew)
    (unstopping : Unstopping change history) :
    Reached answers before (history.flatMap (Turn.recast change)) (crew.recast change) := by
  induction reached with
  | start reached => exact .start reached
  | @snoc history crew next turn reached step ih =>
    have earlier : Unstopping change history := by
      intro errand other changed
      refine ⟨(unstopping errand other changed).1, fun event upshot member => ?_⟩
      refine (unstopping errand other changed).2 event upshot ?_
      rw [ends_snoc]
      exact List.mem_append_left _ member
    have others := ih earlier
    rw [List.flatMap_append, List.flatMap_singleton]
    cases step with
    | did deed station other manned followed step =>
      rw [after_recast]
      exact others.snoc (.did deed station other manned followed step)
    | crash unfinished rests => exact others.snoc (.crash unfinished rests)
    | call errand event waits =>
      have still : (crew.recast change).callbacks errand = .waiting event := by
        simp only [Crew.recast, waits, CallbackStage.recast]
      rw [setCallback_recast]
      simp only [Turn.recast, CallbackStage.recast]
      split
      · rw [List.append_nil, setCallback_self still]
        exact others
      · exact others.snoc (.call errand event still)
    | finish errand event upshot station ripe step =>
      refine others.ends_otherwise (fun other changed => ?_) ripe step
      obtain ⟨calm, was_calm⟩ := unstopping errand other changed
      refine ⟨calm, was_calm event upshot ?_⟩
      rw [ends_snoc]
      exact List.mem_append_right _ (List.mem_singleton_self _)

theorem conduct_recast (change : ErrandId → Option Upshot) (history : List Turn) :
    conduct (history.flatMap (Turn.recast change)) = conduct history := by
  induction history with
  | nil => rfl
  | cons turn rest ih =>
    have single : (turn.recast change).filterMap Turn.did? = turn.did?.toList := by
      cases turn with
      | did | crashed => rfl
      | called errand event =>
        simp only [Turn.recast]
        split <;> rfl
      | ended errand event upshot =>
        simp only [Turn.recast]
        split <;> [rfl; split <;> rfl]
    simp only [conduct] at ih ⊢
    rw [List.flatMap_cons, List.filterMap_append, ih, single, List.filterMap_cons]
    cases turn.did? <;> rfl

theorem ends_recast (change : ErrandId → Option Upshot) (history : List Turn) :
    ((ends (history.flatMap (Turn.recast change))).filter fun last => (change last.1).isNone) =
      (ends history).filter fun last => (change last.1).isNone := by
  induction history with
  | nil => rfl
  | cons turn rest ih =>
    have single : ((turn.recast change).filterMap Turn.end?).filter
        (fun last => (change last.1).isNone) =
          turn.end?.toList.filter fun last => (change last.1).isNone := by
      cases turn with
      | did | crashed => rfl
      | called errand event =>
        simp only [Turn.recast]
        split <;> rfl
      | ended errand event upshot =>
        cases changed : change errand with
        | none => simp [Turn.recast, changed, Turn.end?]
        | some other =>
          simp only [Turn.recast, changed]
          split <;> simp [Turn.end?, changed]
    simp only [ends] at ih ⊢
    rw [List.flatMap_cons, List.filterMap_append, List.filter_append, ih, single,
      List.filterMap_cons]
    cases turn.end? with
    | none => rfl
    | some last => rw [Option.toList_some, ← List.filter_append, List.singleton_append]

/-- Each callback ends at most once, with the event that it was started with. The sink gets one
failure of its kind for each that failed or crashed while it ran, and no others; so it gets all that
is due just if no callback crashed when it was called. Nothing else comes of a failure: if any of
the callbacks that asked for no stop had come to something else, everybody else could have done the
same, and the others would have come to the same ends. -/
theorem failures_stay_local (reached : Reached answers before history crew) :
    ((ends history).map Prod.fst).Nodup ∧
    (∀ errand event upshot, (errand, event, upshot) ∈ ends history →
      (errand, event) ∈ jobs history) ∧
    callbackReports history =
      ((ends history).filter fun last => !last.2.2.isStillborn).filterMap
        (fun last => last.2.2.due last.2.1.kind) ∧
    (callbackReports history =
        (ends history).filterMap (fun last => last.2.2.due last.2.1.kind) ↔
      ∀ last ∈ ends history, last.2.2.isStillborn = false) ∧
    ∀ change, Unstopping change history → ∃ others other,
      Reached answers before others other ∧ others = history.flatMap (Turn.recast change) ∧
      other.station = crew.station ∧ other.result = crew.result ∧
      (∀ errand, change errand = none → other.callbacks errand = crew.callbacks errand) ∧
      conduct others = conduct history ∧
      ((ends others).filter fun last => (change last.1).isNone) =
        (ends history).filter fun last => (change last.1).isNone := by
  have staffed := reached.staffed
  refine ⟨staffed.once, staffed.started, ?_, ?_, ?_⟩
  · rw [reached.callbackReports, filterMap_fault]
  · rw [reached.callbackReports]
    exact filterMap_fault_eq_due _
  · intro change unstopping
    refine ⟨_, _, reached.recast unstopping, rfl, rfl, rfl, ?_, conduct_recast change history,
      ends_recast change history⟩
    intro errand same
    simp only [Crew.recast, same]
    cases crew.callbacks errand <;> rfl

/-- Two callbacks are started. The second crashes when it is called, and then the first crashes
while it runs. -/
def mishaps : List Turn :=
  [.did (.heard .begun), .did .reopened, .did (.connected (.ok ())), .did (.heard .connected),
    .did (.published .reading), .did (.delivered (.frame onlineFrame)),
    .did (.delivered (.frame onlineFrame)), .did (.heard (.frame onlineFrame)),
    .did (.published .dispatching), .did (.offered onlineFrame 0 online),
    .did (.party (.entered 0)), .did (.party (.left 0)),
    .did (.party (.answered 0 (.unclaimed online))), .did (.spawned onlineFrame 0 online),
    .did (.published .reading), .did (.heard (.frame onlineFrame)), .did (.published .dispatching),
    .did (.offered onlineFrame 1 online), .did (.party (.entered 1)), .did (.party (.left 1)),
    .did (.party (.answered 1 (.unclaimed online))), .did (.spawned onlineFrame 1 online),
    .called 0 online, .ended 1 online (.stillborn "gone"), .ended 0 online (.crashed "boom")]

theorem mishaps_reached : ∃ crew, Reached evaluated [] mishaps crew := by
  have h0 : Reached evaluated [] [] (start Hall.start) := .start .nil
  have h1 := h0.goes_on rfl rfl (.hear .begun rfl rfl rfl)
  have h2 := h1.goes_on rfl rfl (.reopen _ _ rfl rfl (.reopen rfl))
  have h3 := h2.goes_on rfl rfl (.connect (.ok ()) rfl)
  have h4 := h3.goes_on rfl rfl (.hear .connected rfl rfl rfl)
  have h5 := h4.goes_on rfl rfl (.publish .reading _ rfl rfl)
  have h6 := h5.goes_on rfl rfl (.deliver (.frame onlineFrame) rfl)
  have h7 := h6.goes_on rfl rfl (.deliver (.frame onlineFrame) rfl)
  have h8 := h7.goes_on rfl rfl (.hear (.frame onlineFrame) rfl rfl rfl)
  have h9 := h8.goes_on rfl rfl (.publish .dispatching _ rfl rfl)
  have h10 := h9.goes_on rfl rfl (.offer onlineFrame online _ 0 _ rfl rfl decode_onlineFrame
    (.ask 0 (.offer online) rfl))
  have h11 := h10.goes_on rfl rfl (.party _ _ (.enterSearch 0 online rfl rfl))
  have h12 := h11.goes_on rfl rfl (.party _ _ (.leaveSearch 0 online _ rfl))
  have h13 := h12.goes_on rfl rfl (.party _ _ (.answer 0 _ _ rfl))
  have h14 := h13.goes_on rfl rfl (.spawn onlineFrame 0 online online _ rfl rfl)
  have h15 := h14.goes_on rfl rfl (.publish .reading _ rfl rfl)
  have h16 := h15.goes_on rfl rfl (.hear (.frame onlineFrame) rfl rfl rfl)
  have h17 := h16.goes_on rfl rfl (.publish .dispatching _ rfl rfl)
  have h18 := h17.goes_on rfl rfl (.offer onlineFrame online _ 1 _ rfl rfl decode_onlineFrame
    (.ask 1 (.offer online) rfl))
  have h19 := h18.goes_on rfl rfl (.party _ _ (.enterSearch 1 online rfl rfl))
  have h20 := h19.goes_on rfl rfl (.party _ _ (.leaveSearch 1 online _ rfl))
  have h21 := h20.goes_on rfl rfl (.party _ _ (.answer 1 _ _ rfl))
  have h22 := h21.goes_on rfl rfl (.spawn onlineFrame 1 online online _ rfl rfl)
  have h23 := h22.snoc (.call 0 online rfl)
  have h24 := h23.snoc (.finish 1 online (.stillborn "gone") _ rfl
    (.endCallback .botOnline _ (by decide)))
  have h25 := h24.snoc (.finish 0 online (.crashed "boom") _ rfl
    (.endCallback .botOnline _ (by decide)))
  exact ⟨_, h25⟩

/-- Of the two crashes only the second is reported. Had both callbacks returned instead, the reader
could have done the same, and nothing would have been reported. -/
theorem mishaps_stay_local :
    (∃ crew, Reached evaluated [] mishaps crew) ∧
      callbackReports mishaps = [.callbackCrashed .botOnline "boom"] ∧
      ∃ others other, Reached evaluated [] others other ∧ conduct others = conduct mishaps ∧
        ends others = [(1, online, .returned .proceed), (0, online, .returned .proceed)] ∧
        callbackReports others = [] := by
  obtain ⟨crew, reached⟩ := mishaps_reached
  obtain ⟨-, -, reports, -, alternative⟩ := failures_stay_local reached
  have calm : Unstopping (fun _ => some (.returned .proceed)) mishaps := by
    rintro errand other ⟨⟩
    refine ⟨rfl, fun event upshot member => ?_⟩
    rcases List.mem_cons.mp member with same | rest
    · cases same
      rfl
    · cases List.mem_singleton.mp rest
      rfl
  obtain ⟨others, other, again, rfl, -, -, -, same, -⟩ := alternative _ calm
  exact ⟨⟨crew, reached⟩, reports.trans rfl, _, other, again, same, rfl, rfl⟩

/-- A callback that crashes when it is called is not reported. -/
theorem stillborn_unreported :
    ∃ crew, Reached evaluated [] mishaps crew ∧
      (1, online, .stillborn "gone") ∈ ends mishaps ∧
      Upshot.due online.kind (.stillborn "gone") = some (.callbackCrashed .botOnline "gone") ∧
      .callbackCrashed .botOnline "gone" ∉ (deeds mishaps).filterMap Deed.report? := by
  obtain ⟨crew, reached⟩ := mishaps_reached
  exact ⟨crew, reached, List.mem_cons_self, rfl, by decide⟩

end Crew
end Switchboard
