import Switchboard.Proofs.Stream.Discipline
import Switchboard.Proofs.Stream.Halting

set_option autoImplicit false

namespace Switchboard

open Hall (Answers)

theorem Station.Reached.append {answers : Answers} {before : List Act} {history deeds : List Deed}
    {station next : Station} (reached : Reached answers before history station)
    (run : Run answers station deeds next) : Reached answers before (history ++ deeds) next := by
  induction run with
  | nil =>
    rw [List.append_nil]
    exact reached
  | snoc run step ih =>
    rw [← List.append_assoc]
    exact ih.snoc step

namespace Deed

variable {α : Type} {f : Deed → Option α}

theorem filterMap_own (own : ∀ deed, deed.byReader = false → f deed = none) (deeds : List Deed) :
    (deeds.filter byReader).filterMap f = deeds.filterMap f := by
  rw [List.filterMap_filter]
  refine List.filterMap_congr fun deed _ => ?_
  cases mine : deed.byReader with
  | true => rfl
  | false => exact (own deed mine).symm

end Deed

namespace Desk

variable {answers : Answers} {hall left : Hall} {stop : Bool} {motion : Motion} {desk after : Desk}

/-- What happens to a reader, as it would happen at its station if it were the only one. -/
theorem Step.run (step : Step answers hall stop desk motion after left) :
    ∃ deeds, Station.Run answers (desk.within hall) deeds (after.within left) ∧
      deeds.filter Deed.byReader = motion.deed?.toList := by
  have single {deed : Deed} {station : Station}
      (step : Station.Step answers (desk.within hall) deed station) :
      Station.Run answers (desk.within hall) [deed] station := .snoc .nil step
  cases step with
  | deliver signal streamed => exact ⟨_, single (.deliver signal streamed), rfl⟩
  | wake | sleep | crash => exact ⟨[], .nil, rfl⟩
  | look =>
    cases stop with
    | true =>
      refine ⟨[.stopRequested], ?_, rfl⟩
      have asks : Station.Step answers (desk.within hall) _ _ := .requestStop
      simp only [Bool.or_true]
      exact single asks
    | false =>
      refine ⟨[], ?_, rfl⟩
      simp only [Bool.or_false]
      exact .nil
  | dial outcome _ _ _ _ _ pending =>
    cases outcome with
    | none =>
      rw [← pending]
      exact ⟨[], .nil, rfl⟩
    | some outcome => exact ⟨_, single (.connect outcome pending), rfl⟩
  | act deed station _ own _ step =>
    refine ⟨[deed], single step, ?_⟩
    rw [List.filter_singleton, own]
    rfl
  | finish kind ending running =>
    -- a stop that the callback asks for comes by the handle of the reader
    refine ⟨[.callbackEnded kind (.returned .proceed)], ?_, rfl⟩
    have ends : Station.Step answers (desk.within hall) _ _ :=
      .endCallback kind (.returned .proceed) running
    simp only [CallbackEnd.stops, Bool.or_false] at ends
    exact single ends

theorem Step.hall_cases (step : Step answers hall stop desk motion after left) :
    left = hall ∨ ∃ act, Hall.Step answers hall act left := by
  cases step with
  | act deed station _ _ _ step =>
    rcases Relay.hall_cases step with ⟨-, same⟩ | ⟨act, -, step⟩
    · exact .inl same
    · exact .inr ⟨act, step⟩
  | _ => exact .inl rfl

end Desk

namespace Fleet

open Station (framesTaken dealings)

variable {answers : Answers} {history : List Incident} {fleet next : Fleet} {incident : Incident}
  {reader : ReaderId} {desk after : Desk}

def deeds (history : List Incident) (reader : ReaderId) : List Deed :=
  (history.filterMap (Incident.motion? reader)).filterMap Motion.deed?

theorem deeds_append (earlier later : List Incident) (reader : ReaderId) :
    deeds (earlier ++ later) reader = deeds earlier reader ++ deeds later reader := by
  simp only [deeds, List.filterMap_append]

theorem deeds_eq_nil (unmoved : ∀ motion, .moved reader motion ∉ history) :
    deeds history reader = [] := by
  have idle : history.filterMap (Incident.motion? reader) = [] := by
    refine List.filterMap_eq_nil_iff.mpr fun incident member => ?_
    cases incident with
    | moved other motion =>
      refine if_neg ?_
      rintro rfl
      exact unmoved motion member
    | _ => rfl
  rw [deeds, idle, List.filterMap_nil]

theorem Change.hall_cases (change : Change answers fleet incident next) :
    next.hall = fleet.hall ∨ ∃ act, Hall.Step answers fleet.hall act next.hall := by
  cases change with
  | hall act hall step => exact .inr ⟨act, step⟩
  | handle parent => cases parent <;> exact .inl rfl
  | motion _ _ _ _ _ _ step => exact step.hall_cases
  | stop | reader | aside => exact .inl rfl

theorem Change.station_run (change : Change answers fleet incident next)
    (sits : fleet.desks reader = some desk) :
    ∃ after, next.desks reader = some after ∧
      ∃ done, Station.Run answers (desk.within fleet.hall) done (after.within next.hall) ∧
        done.filter Deed.byReader = deeds [incident] reader := by
  rcases change.of_reader sits with ⟨stays, unmoved⟩ | ⟨motion, after, rfl, moved, step⟩
  · refine ⟨desk, stays, ?_⟩
    have idle : deeds [incident] reader = [] :=
      deeds_eq_nil fun motion member => unmoved motion (List.mem_singleton.mp member).symm
    rw [idle]
    rcases change.hall_cases with same | ⟨act, step⟩
    · rw [same]
      exact ⟨[], .nil, rfl⟩
    · exact ⟨[.party act], .snoc .nil (.party act next.hall step), rfl⟩
  · obtain ⟨done, run, own⟩ := step.run
    refine ⟨after, moved, done, run, own.trans ?_⟩
    cases deed : motion.deed? <;> simp [deeds, Incident.motion?, deed]

theorem Reached.hall (reached : Reached answers history fleet) :
    ∃ acts, Hall.Reached answers acts fleet.hall := by
  obtain ⟨begun, run⟩ := reached
  induction run with
  | nil => exact ⟨_, begun⟩
  | snoc run step ih =>
    obtain ⟨acts, reached⟩ := ih
    rcases step.change.hall_cases with same | ⟨act, step⟩
    · exact ⟨acts, same ▸ reached⟩
    · exact ⟨acts ++ [act], reached.snoc step⟩

theorem Reached.station (reached : Reached answers history fleet)
    (sits : fleet.desks reader = some desk) :
    ∃ acts done, Station.Reached answers acts done (desk.within fleet.hall) ∧
      done.filter Deed.byReader = deeds history reader := by
  obtain ⟨begun, run⟩ := reached
  induction run generalizing desk with
  | nil => cases sits
  | @snoc history fleet next incident run step ih =>
    have change := step.change
    rw [deeds_append]
    cases present : fleet.desks reader with
    | some earlier =>
      obtain ⟨acts, done, reached, own⟩ := ih present
      obtain ⟨after, stays, more, goes_on, further⟩ := change.station_run present
      cases stays.symm.trans sits
      refine ⟨acts, done ++ more, reached.append goes_on, ?_⟩
      rw [List.filter_append, own, further]
    | none =>
      obtain ⟨acts, hall⟩ := (Reached.intro begun (run.snoc step)).hall
      have idle := deeds_eq_nil ((Run.accounted run).unmoved reader present)
      have still : deeds [incident] reader = [] := by
        refine deeds_eq_nil fun motion member => ?_
        obtain ⟨desk, sat⟩ := change.moved (List.mem_singleton.mp member).symm
        cases present.symm.trans sat
      refine ⟨acts, [], ?_, ?_⟩
      · rcases change.origin sits with ⟨earlier, sat, -⟩ | ⟨-, -, rfl, -⟩
        · cases present.symm.trans sat
        · exact .start hall
      · rw [idle, still]
        rfl

/-- Every frame that a reader has taken up was dealt with, in its turn and as it had to be, except
for one at most that is in hand. -/
theorem Reached.frames (reached : Reached answers history fleet)
    (sits : fleet.desks reader = some desk) :
    framesTaken (deeds history reader) =
        (dealings (deeds history reader)).map Dealing.frame ++ desk.station.inHand ∧
      desk.station.inHand.length ≤ 1 ∧
      ∃ acts, Hall.Reached answers acts fleet.hall ∧
        ∀ dealing ∈ dealings (deeds history reader), dealing.Right answers acts := by
  obtain ⟨acts, done, station, own⟩ := reached.station sits
  have faithful := station.faithful
  have taken : framesTaken (deeds history reader) = framesTaken done := by
    rw [framesTaken, framesTaken, ← own, Deed.filterMap_own]
    intro deed others
    cases deed <;> first | rfl | cases others
  have dealt : dealings (deeds history reader) = dealings done := by
    rw [dealings, dealings, ← own, Deed.filterMap_own]
    intro deed others
    cases deed <;> first | rfl | cases others
  rw [taken, dealt]
  refine ⟨faithful.frames, faithful.single, _, faithful.hall, fun dealing member => ?_⟩
  exact (faithful.decided dealing member).right faithful.hall

/-- Whatever a reader takes up, be it a stop, it has dealt with all frames before. -/
theorem Reached.dealt {earlier later : List Incident} {signal : ReaderSignal}
    (reached : Reached answers (earlier ++ .moved reader (.did (.heard signal)) :: later) fleet) :
    framesTaken (deeds earlier reader) = (dealings (deeds earlier reader)).map Dealing.frame := by
  obtain ⟨begun, run⟩ := reached
  obtain ⟨moment, after, run, step, -⟩ := run.split_at
  obtain ⟨desk, sits, idle, quiet, -⟩ := step.change.hears rfl
  have frames := (Reached.intro begun run).frames sits
  have free : desk.station.inHand = [] := by rw [Station.inHand, idle, quiet]; rfl
  rw [frames.1, free, List.append_nil]

end Fleet
end Switchboard
