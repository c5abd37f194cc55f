import Switchboard.Proofs.Stream.Vigil
import Switchboard.Proofs.Waiter.Desertion

set_option autoImplicit false

namespace Switchboard

open Hall (Answers filterMap_snoc)

/-- What a callback comes to. -/
inductive Upshot where
  | returned (flow : Flow)
  | failed (reason : String)
  /-- It crashed while it ran. -/
  | crashed (reason : String)
  /-- It crashed when it was called, before there was anything to run. -/
  | stillborn (reason : String)
deriving DecidableEq

namespace Upshot

def ending : Upshot → CallbackEnd
  | .returned flow => .returned flow
  | .failed reason => .failed reason
  | .crashed reason => .crashed reason
  | .stillborn _ => .vanished

def isStillborn : Upshot → Bool
  | .stillborn _ => true
  | _ => false

end Upshot

/-- How far a callback has come. -/
inductive CallbackStage where
  | absent
  /-- It was started and not called yet. -/
  | waiting (event : Event)
  | running (event : Event)
  | settled

namespace CallbackStage

def kind? : CallbackStage → Option EventKind
  | .waiting event | .running event => some event.kind
  | .absent | .settled => none

end CallbackStage

def Pursuit.own : Pursuit → ErrandId
  | .offering _ errand _ | .closing errand _ => errand

namespace Deed

def made? : Deed → Option ErrandId
  | .offered _ errand _ | .closing errand _ => some errand
  | _ => none

/-- A callback that is started, by the errand that offered its event. -/
def job? : Deed → Option (ErrandId × Event)
  | .spawned _ errand event => some (errand, event)
  | _ => none

end Deed

namespace Station

/-- The reader waits for nothing, or for the lock, or its errand is answered. -/
def AtRest (station : Station) : Prop :=
  ∀ pursuit, station.pursuit = some pursuit → station.hall.Rests pursuit.own

end Station

/-- What happens to a reader and its callbacks. -/
inductive Turn where
  | did (deed : Deed)
  /-- A callback was called, and there is something to run. -/
  | called (errand : ErrandId) (event : Event)
  | ended (errand : ErrandId) (event : Event) (upshot : Upshot)
  /-- The reader crashes. -/
  | crashed

/-- A reader (`StreamReader`) at its station, with the tasks of the callbacks (`EventCallback`) that
it started, by the errands that offered their events, and the result that its handle
(`StreamHandle`) tells once it is there. A callback is called first, and runs if the call gave
something to run; it may crash at both. The reader may crash too, wherever it is not in the middle
of an operation of the queue: its callbacks go on, and the handle tells that the reader is gone. -/
structure Crew where
  station : Station
  callbacks : ErrandId → CallbackStage
  result : Option StreamResult

namespace Turn

def deed? : Turn → Option Deed
  | .did deed => some deed
  | .ended _ event upshot => some (.callbackEnded event.kind upshot.ending)
  | .called .. | .crashed => none

def job? : Turn → Option (ErrandId × Event)
  | .did deed => deed.job?
  | _ => none

def end? : Turn → Option (ErrandId × Event × Upshot)
  | .ended errand event upshot => some (errand, event, upshot)
  | _ => none

def callback? : Turn → Option ErrandId
  | .did deed => deed.job?.map Prod.fst
  | .called errand _ | .ended errand _ _ => some errand
  | .crashed => none

end Turn

namespace Crew

def start (hall : Hall) : Crew := ⟨Station.start hall, fun _ => .absent, none⟩

/-- The reader has crashed and does not follow its errand up. -/
def Forsaken (crew : Crew) (errand : ErrandId) : Prop :=
  crew.result ≠ none ∧ ∃ pursuit, crew.station.pursuit = some pursuit ∧ pursuit.own = errand

def setCallback (crew : Crew) (errand : ErrandId) (stage : CallbackStage) : Crew :=
  { crew with callbacks := Function.update crew.callbacks errand stage }

def kinds (crew : Crew) (errand : ErrandId) : Option EventKind := (crew.callbacks errand).kind?

def after (crew : Crew) (deed : Deed) (station : Station) : Crew :=
  let told := { crew with station := station, result := deed.finished?.or crew.result }
  match deed.job? with
  | some (errand, event) => told.setCallback errand (.waiting event)
  | none => told

@[simp] theorem after_station (crew : Crew) (deed : Deed) (station : Station) :
    (crew.after deed station).station = station := by
  unfold after
  split <;> rfl

@[simp] theorem after_result (crew : Crew) (deed : Deed) (station : Station) :
    (crew.after deed station).result = deed.finished?.or crew.result := by
  unfold after
  split <;> rfl

/-- A step of anybody. -/
inductive Step (answers : Answers) (crew : Crew) : Turn → Crew → Prop
  | did (deed : Deed) (station : Station) (other : deed.ended? = none)
      (manned : deed.byReader = true → crew.result = none)
      (followed : ∀ act errand, deed.act? = some act → act.errand? = some errand →
        ¬ crew.Forsaken errand)
      (step : Station.Step answers crew.station deed station) :
      Step answers crew (.did deed) (crew.after deed station)
  | call (errand : ErrandId) (event : Event) (waits : crew.callbacks errand = .waiting event) :
      Step answers crew (.called errand event) (crew.setCallback errand (.running event))
  | finish (errand : ErrandId) (event : Event) (upshot : Upshot) (station : Station)
      (ripe : crew.callbacks errand =
        if upshot.isStillborn then .waiting event else .running event)
      (step : Station.Step answers crew.station (.callbackEnded event.kind upshot.ending)
        station) :
      Step answers crew (.ended errand event upshot)
        ({ crew with station := station }.setCallback errand .settled)
  | crash (unfinished : crew.result = none) (rests : crew.station.AtRest) :
      Step answers crew .crashed { crew with result := some (.error .dropped) }

/-- What happens from when a reader is made: the hall has a history of its own by then. -/
inductive Reached (answers : Answers) (before : List Act) : List Turn → Crew → Prop
  | start {hall : Hall} (reached : Hall.Reached answers before hall) :
      Reached answers before [] (start hall)
  | snoc {history : List Turn} {crew next : Crew} {turn : Turn}
      (reached : Reached answers before history crew) (step : Step answers crew turn next) :
      Reached answers before (history ++ [turn]) next

theorem Reached.goes_on {answers : Answers} {before : List Act} {history : List Turn} {crew : Crew}
    {deed : Deed} {station : Station} (reached : Reached answers before history crew)
    (unfinished : crew.result = none) (other : deed.ended? = none)
    (step : Station.Step answers crew.station deed station) :
    Reached answers before (history ++ [.did deed]) (crew.after deed station) :=
  reached.snoc (.did deed station other (fun _ => unfinished)
    (fun _ _ _ _ forsaken => forsaken.1 unfinished) step)

def deeds (history : List Turn) : List Deed := history.filterMap Turn.deed?

def acts (history : List Turn) : List Act := Station.acts (deeds history)

def jobs (history : List Turn) : List (ErrandId × Event) := history.filterMap Turn.job?

def ends (history : List Turn) : List (ErrandId × Event × Upshot) := history.filterMap Turn.end?

variable {answers : Answers} {before : List Act} {history : List Turn} {crew next : Crew}
  {turn : Turn}

theorem deeds_snoc : deeds (history ++ [turn]) = deeds history ++ turn.deed?.toList :=
  filterMap_snoc _ _ _

theorem jobs_snoc : jobs (history ++ [turn]) = jobs history ++ turn.job?.toList :=
  filterMap_snoc _ _ _

theorem ends_snoc : ends (history ++ [turn]) = ends history ++ turn.end?.toList :=
  filterMap_snoc _ _ _

theorem Step.station (step : Step answers crew turn next) :
    (turn.deed? = none ∧ next.station = crew.station) ∨
      ∃ deed, turn.deed? = some deed ∧ Station.Step answers crew.station deed next.station := by
  cases step with
  | did deed station other manned followed step =>
    rw [after_station]
    exact .inr ⟨deed, rfl, step⟩
  | call | crash => exact .inl ⟨rfl, rfl⟩
  | finish errand event upshot station ripe step => exact .inr ⟨_, rfl, step⟩

theorem Reached.station (reached : Reached answers before history crew) :
    Station.Reached answers before (deeds history) crew.station := by
  induction reached with
  | start reached => exact .start reached
  | snoc reached step ih =>
    rw [deeds_snoc]
    rcases step.station with ⟨alone, same⟩ | ⟨deed, does, step⟩
    · rw [alone, same, Option.toList_none, List.append_nil]
      exact ih
    · rw [does]
      exact ih.snoc step

theorem Reached.hall (reached : Reached answers before history crew) :
    Hall.Reached answers (before ++ acts history) crew.station.hall :=
  reached.station.faithful.hall

theorem jobs_eq (history : List Turn) : jobs history = (deeds history).filterMap Deed.job? := by
  rw [jobs, deeds, List.filterMap_filterMap]
  refine List.filterMap_congr fun turn _ => ?_
  cases turn <;> rfl

theorem Reached.jobs_distinct (reached : Reached answers before history crew) :
    ((jobs history).map Prod.fst).Nodup := by
  have whole := (List.nodup_append.mp reached.station.faithful.distinct).1
  rw [Station.dealings, List.filterMap_filterMap] at whole
  rw [jobs_eq, List.map_filterMap]
  refine whole.sublist (Hall.filterMap_sublist (fun deed errand found => ?_) _)
  cases deed <;> first | exact found | cases found

/-- A callback has come as far as what happened says. -/
def Fits (history : List Turn) (errand : ErrandId) : CallbackStage → Prop
  | .absent => errand ∉ (jobs history).map Prod.fst
  | .waiting event | .running event =>
    (errand, event) ∈ jobs history ∧ errand ∉ (ends history).map Prod.fst
  | .settled => errand ∈ (ends history).map Prod.fst

/-- The callbacks agree with what happened. -/
structure Staffed (history : List Turn) (crew : Crew) : Prop where
  fits : ∀ errand, Fits history errand (crew.callbacks errand)
  started : ∀ errand event upshot, (errand, event, upshot) ∈ ends history →
    (errand, event) ∈ jobs history
  once : ((ends history).map Prod.fst).Nodup
  counted : crew.station.callbacks.Perm ((jobs history).filterMap fun job => crew.kinds job.1)

theorem start_staffed (hall : Hall) : Staffed [] (start hall) where
  fits := fun _ => List.not_mem_nil
  started := fun _ _ _ member => nomatch member
  once := List.nodup_nil
  counted := .nil

theorem Fits.frame {stage : CallbackStage} {errand : ErrandId} (fits : Fits history errand stage)
    (bystander : turn.callback? ≠ some errand) : Fits (history ++ [turn]) errand stage := by
  have unstarted : errand ∉ turn.job?.toList.map Prod.fst := by
    intro member
    cases turn with
    | did deed =>
      obtain ⟨job, found, rfl⟩ := List.mem_map.mp member
      exact bystander (congrArg (Option.map Prod.fst) (Option.mem_toList.mp found))
    | _ => cases member
  have unended : errand ∉ turn.end?.toList.map Prod.fst := by
    intro member
    cases turn with
    | ended other event upshot =>
      cases List.mem_singleton.mp member
      exact bystander rfl
    | _ => cases member
  cases stage with
  | absent =>
    simp only [Fits, jobs_snoc, List.map_append, List.mem_append, not_or]
    exact ⟨fits, unstarted⟩
  | waiting event | running event =>
    simp only [Fits, jobs_snoc, ends_snoc, List.map_append, List.mem_append, not_or]
    exact ⟨.inl fits.1, fits.2, unended⟩
  | settled =>
    simp only [Fits, ends_snoc, List.map_append, List.mem_append]
    exact .inl fits

theorem Fits.started {stage : CallbackStage} {errand : ErrandId} {event : Event}
    (fits : Fits history errand stage) (busy : stage = .waiting event ∨ stage = .running event) :
    (errand, event) ∈ jobs history ∧ errand ∉ (ends history).map Prod.fst := by
  rcases busy with rfl | rfl <;> exact fits

theorem busy_of_ripe {errand : ErrandId} {event : Event} {upshot : Upshot}
    (ripe : crew.callbacks errand =
      if upshot.isStillborn then .waiting event else .running event) :
    crew.callbacks errand = .waiting event ∨ crew.callbacks errand = .running event := by
  split at ripe
  · exact .inl ripe
  · exact .inr ripe

theorem kinds_of_busy {errand : ErrandId} {event : Event}
    (busy : crew.callbacks errand = .waiting event ∨ crew.callbacks errand = .running event) :
    crew.kinds errand = some event.kind := by
  rcases busy with found | found <;> rw [kinds, found] <;> rfl

@[simp] theorem setCallback_kinds (crew : Crew) (errand : ErrandId) (stage : CallbackStage) :
    (crew.setCallback errand stage).kinds = Function.update crew.kinds errand stage.kind? := by
  funext other
  by_cases own : other = errand
  · subst own
    simp only [kinds, setCallback, Function.update_self]
  · simp only [kinds, setCallback, Function.update_of_ne own]

theorem Step.callback_frame (step : Step answers crew turn next) {errand : ErrandId}
    (bystander : turn.callback? ≠ some errand) :
    next.callbacks errand = crew.callbacks errand := by
  have apart : ∀ {other : ErrandId}, some other ≠ some errand → errand ≠ other :=
    fun differ same => differ (congrArg some same.symm)
  cases step with
  | did deed station other manned followed step =>
    cases begun : deed.job? with
    | none => simp only [after, begun]
    | some job =>
      simp only [Turn.callback?, begun, Option.map_some] at bystander
      simp only [after, begun, setCallback, Function.update_of_ne (apart bystander)]
  | call | finish => exact Function.update_of_ne (apart bystander) _ _
  | crash => rfl

theorem Step.fits (step : Step answers crew turn next)
    (reached : Reached answers before history crew) (staffed : Staffed history crew)
    (errand : ErrandId) : Fits (history ++ [turn]) errand (next.callbacks errand) := by
  by_cases own : turn.callback? = some errand
  · cases step with
    | did deed station other manned followed step =>
      cases deed with
      | spawned frame owner event =>
        cases own
        -- no other callback was started by the errand
        have fresh : owner ∉ (jobs history).map Prod.fst := by
          have distinct := (reached.snoc (.did _ _ other manned followed step)).jobs_distinct
          rw [jobs_snoc, List.map_append, List.nodup_append] at distinct
          exact fun known => distinct.2.2 _ known _ (List.mem_singleton_self _) rfl
        simp only [after, Deed.job?, setCallback, Function.update_self, Fits, jobs_snoc, ends_snoc,
          Turn.job?, Turn.end?, Option.toList_none, List.append_nil]
        refine ⟨List.mem_append_right _ (List.mem_singleton_self _), ?_⟩
        intro ended
        obtain ⟨⟨_, shown, upshot⟩, member, rfl⟩ := List.mem_map.mp ended
        exact fresh (List.mem_map.mpr ⟨_, staffed.started _ _ _ member, rfl⟩)
      | _ => cases own
    | call owner event waits =>
      cases own
      have before := (staffed.fits errand).started (.inl waits)
      simp only [setCallback, Function.update_self, Fits, jobs_snoc, ends_snoc, Turn.job?,
        Turn.end?, Option.toList_none, List.append_nil]
      exact before
    | finish owner event upshot station ripe step =>
      cases own
      simp only [setCallback, Function.update_self, Fits, ends_snoc, List.map_append]
      exact List.mem_append_right _ (List.mem_singleton_self _)
    | crash => cases own
  · rw [step.callback_frame own]
    exact (staffed.fits errand).frame own

theorem Step.end_cases (step : Step answers crew turn next) (staffed : Staffed history crew)
    {errand : ErrandId} {event : Event} {upshot : Upshot}
    (ends : turn.end? = some (errand, event, upshot)) :
    (errand, event) ∈ jobs history ∧ errand ∉ (Crew.ends history).map Prod.fst := by
  cases step with
  | finish owner shown last station ripe step =>
    cases ends
    exact (staffed.fits errand).started (busy_of_ripe ripe)
  | _ => cases ends

/-- What is read off by errands is the same if it differs only for an errand that is not there. -/
theorem filterMap_update {α β γ : Type} [DecidableEq α] {list : List (α × β)} {key : α}
    (absent : key ∉ list.map Prod.fst) (read : α → Option γ) (value : Option γ) :
    (list.filterMap fun entry => Function.update read key value entry.1) =
      list.filterMap fun entry => read entry.1 := by
  refine List.filterMap_congr fun entry member => Function.update_of_ne ?_ _ _
  rintro rfl
  exact absent (List.mem_map.mpr ⟨entry, member, rfl⟩)

theorem Staffed.uncounted (staffed : Staffed history crew)
    (distinct : ((jobs history).map Prod.fst).Nodup) {errand : ErrandId} {event : Event}
    (busy : crew.callbacks errand = .waiting event ∨ crew.callbacks errand = .running event) :
    (crew.station.callbacks.erase event.kind).Perm
      ((jobs history).filterMap fun job => Function.update crew.kinds errand none job.1) := by
  obtain ⟨front, back, split⟩ :=
    List.append_of_mem ((staffed.fits errand).started busy).1
  have moved : (jobs history).Perm ((errand, event) :: (front ++ back)) :=
    split ▸ List.perm_middle
  have fresh : errand ∉ (front ++ back).map Prod.fst :=
    (List.nodup_cons.mp ((moved.map Prod.fst).nodup_iff.mp distinct)).1
  have tally := staffed.counted.trans (moved.filterMap _)
  have shorter := moved.filterMap fun job => Function.update crew.kinds errand none job.1
  simp only [List.filterMap_cons, kinds_of_busy busy] at tally
  simp only [List.filterMap_cons, Function.update_self, filterMap_update fresh] at shorter
  have erased := tally.erase event.kind
  rw [List.erase_cons_head] at erased
  exact erased.trans shorter.symm

theorem Step.counted (step : Step answers crew turn next)
    (reached : Reached answers before history crew) (staffed : Staffed history crew) :
    next.station.callbacks.Perm
      ((jobs (history ++ [turn])).filterMap fun job => next.kinds job.1) := by
  have distinct := (reached.snoc step).jobs_distinct
  have tally := staffed.counted
  cases step with
  | did deed station other manned followed step =>
    cases deed with
    | spawned frame errand event =>
      rw [jobs_snoc, List.map_append, List.nodup_append] at distinct
      have fresh : errand ∉ (jobs history).map Prod.fst :=
        fun known => distinct.2.2 _ known _ (List.mem_singleton_self _) rfl
      have counted : station.callbacks = crew.station.callbacks ++ [event.kind] := by
        cases step
        rfl
      simp only [after, Deed.job?, setCallback_kinds, jobs_snoc, Turn.job?, Option.toList_some,
        List.filterMap_append, filterMap_update fresh, List.filterMap_cons, Function.update_self,
        CallbackStage.kind?, List.filterMap_nil]
      simp only [setCallback, counted]
      exact tally.append_right _
    | callbackEnded => cases other
    | _ =>
      rw [jobs_snoc]
      simp only [Turn.job?, Deed.job?, Option.toList_none, List.append_nil]
      cases step
      exact tally
  | call errand event waits =>
    have same : (CallbackStage.running event).kind? = crew.kinds errand :=
      (kinds_of_busy (.inl waits)).symm
    rw [jobs_snoc, setCallback_kinds, same, Function.update_eq_self]
    simp only [Turn.job?, Option.toList_none, List.append_nil]
    exact tally
  | finish errand event upshot station ripe step =>
    rw [jobs_snoc] at distinct ⊢
    simp only [Turn.job?, Option.toList_none, List.append_nil] at distinct ⊢
    have counted : station.callbacks = crew.station.callbacks.erase event.kind := by
      cases step
      rfl
    simp only [setCallback_kinds, CallbackStage.kind?]
    simp only [setCallback, counted]
    exact staffed.uncounted distinct (busy_of_ripe ripe)
  | crash unfinished rests =>
    rw [jobs_snoc]
    simp only [Turn.job?, Option.toList_none, List.append_nil]
    exact tally

theorem Step.staffed (step : Step answers crew turn next)
    (reached : Reached answers before history crew) (staffed : Staffed history crew) :
    Staffed (history ++ [turn]) next where
  fits := step.fits reached staffed
  started := by
    intro errand event upshot member
    rw [ends_snoc] at member
    rw [jobs_snoc]
    rcases List.mem_append.mp member with old | new
    · exact List.mem_append_left _ (staffed.started errand event upshot old)
    · exact List.mem_append_left _ (step.end_cases staffed (Option.mem_toList.mp new)).1
  once := by
    rw [ends_snoc, List.map_append, List.nodup_append]
    refine ⟨staffed.once, ?_, ?_⟩
    · cases turn.end? with
      | none => exact List.nodup_nil
      | some last => exact List.pairwise_singleton _ _
    · rintro errand earlier _ later rfl
      obtain ⟨⟨_, event, upshot⟩, member, rfl⟩ := List.mem_map.mp later
      exact (step.end_cases staffed (Option.mem_toList.mp member)).2 earlier
  counted := step.counted reached staffed

theorem Reached.staffed (reached : Reached answers before history crew) :
    Staffed history crew := by
  induction reached with
  | start => exact start_staffed _
  | snoc reached step ih => exact step.staffed reached ih

end Crew
end Switchboard
