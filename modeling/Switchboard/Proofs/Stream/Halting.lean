import Switchboard.Proofs.Stream.Recall

set_option autoImplicit false

namespace Switchboard

open Hall (Answers)

def ReaderSignal.isServed : ReaderSignal → Bool
  | .connected | .refused _ | .frame _ | .ended | .failed _ => true
  | .begun | .stopRequested | .drained => false

/-- A reader that sees a stop where it looks for one takes up nothing from the server. -/
theorem ReaderPhase.listen_stopped {phase : ReaderPhase} {view : ReaderView} {signal : ReaderSignal}
    (stopped : phase.selects = true → view.stopRequested = true)
    (heard : phase.listen view = some signal) : signal.isServed = false := by
  cases phase with
  | starting =>
    cases heard
    rfl
  | connecting | reading =>
    rw [listen, if_pos (stopped rfl)] at heard
    cases heard
    rfl
  | draining outcome =>
    simp only [listen] at heard
    split at heard <;> cases heard
    rfl
  | closed => cases heard

/-- By its own steps a reader does not come to see a stop, nor to forget it. -/
theorem Station.Step.stopping_eq {answers : Answers} {station next : Station} {deed : Deed}
    (step : Station.Step answers station deed next) (own : deed.byReader = true) :
    next.stopping = station.stopping := by
  cases step with
  | party | deliver | requestStop | connect | endCallback => cases own
  | _ => rfl

/-- A reader that knows of a stop, or looks for it before it goes on. -/
def Desk.Wary (desk : Desk) : Prop := desk.looked = true → desk.station.stopping = true

section Reader

variable {answers : Answers} {hall left : Hall} {motion : Motion} {desk after : Desk}

theorem Desk.Step.unseen (step : Desk.Step answers hall false desk motion after left)
    (seen : after.station.stopping = true) : desk.station.stopping = true := by
  cases step with
  | look => simpa using seen
  | act deed station _ own _ step => exact (step.stopping_eq own).symm.trans seen
  | _ => exact seen

theorem Desk.Step.unlooked {stop : Bool}
    (step : Desk.Step answers hall stop desk .woke after left) : after.looked = false := by
  cases step
  rfl

variable (step : Desk.Step answers hall true desk motion after left) (wary : desk.Wary)

include step wary

theorem Desk.Step.stays_wary : after.Wary := by
  cases step with
  | deliver | sleep | crash | finish => exact wary
  | wake => exact nofun
  | look => exact fun _ => Bool.or_true _
  | dial _ _ looked unstopped => cases unstopped.symm.trans (wary looked)
  | act deed station _ own _ step =>
    intro looked
    exact (step.stopping_eq own).trans (wary (Bool.and_eq_true_iff.mp looked).1)

theorem Desk.Step.obeys : (∀ outcome, motion ≠ .dialled outcome) ∧
    ∀ signal, motion = .did (.heard signal) → signal.isServed = false := by
  cases step with
  | dial _ _ looked unstopped => cases unstopped.symm.trans (wary looked)
  | act deed station _ _ ready step =>
    refine ⟨nofun, fun signal same => ?_⟩
    cases same
    cases step with
    | hear _ _ _ heard =>
      exact ReaderPhase.listen_stopped (fun selects => wary (ready signal rfl selects)) heard
  | deliver | wake | look | sleep | crash | finish => exact ⟨nofun, nofun⟩

end Reader

namespace Fleet

variable {answers : Answers} {history more : List Incident} {fleet next last : Fleet}
  {incident : Incident} {reader : ReaderId} {desk : Desk}

theorem Change.still_requested (change : Change answers fleet incident next)
    (accounted : Accounted history fleet) (sits : fleet.desks reader = some desk)
    (asked : fleet.stops.isRequested desk.handle = true) :
    next.stops.isRequested desk.handle = true := by
  obtain ⟨handle, above, requested⟩ := StopForest.isRequested_iff.mp asked
  have kept := (change.requested_iff handle).mpr (.inl requested)
  refine StopForest.isRequested_iff.mpr ⟨handle, ?_, kept⟩
  rwa [StopForest.lineage_of_prefix change.grows (accounted.desks reader desk sits).1]

theorem Change.moves {motion : Motion} (change : Change answers fleet incident next)
    (own : incident = .moved reader motion) :
    ∃ desk after, fleet.desks reader = some desk ∧ next.desks reader = some after ∧
      Desk.Step answers fleet.hall (fleet.stops.isRequested desk.handle) desk motion after
        next.hall := by
  obtain ⟨desk, sits⟩ := change.moved own
  rcases change.of_reader sits with ⟨-, unmoved⟩ | ⟨other, after, same, stays, step⟩
  · exact absurd own (unmoved _)
  · cases own.symm.trans same
    exact ⟨desk, after, sits, stays, step⟩

theorem Change.hears {signal : ReaderSignal} (change : Change answers fleet incident next)
    (own : incident = .moved reader (.did (.heard signal))) :
    ∃ desk, fleet.desks reader = some desk ∧ desk.station.agenda = [] ∧
      desk.station.pursuit = none ∧
        desk.station.phase.listen desk.station.view = some signal := by
  obtain ⟨desk, after, sits, -, step⟩ := change.moves own
  generalize next.hall = left at step
  cases step with
  | act deed station _ _ _ step =>
    cases step with
    | hear _ idle quiet heard => exact ⟨desk, sits, idle, quiet, heard⟩

/-- A reader that sees a stop is asked to stop. -/
def Seen (fleet : Fleet) : Prop :=
  ∀ reader desk, fleet.desks reader = some desk → desk.station.stopping = true →
    fleet.stops.isRequested desk.handle = true

theorem Change.seen (change : Change answers fleet incident next)
    (accounted : Accounted history fleet) (seen : Seen fleet) : Seen next := by
  intro reader desk sits stopping
  rcases change.origin sits with ⟨before, sat, same⟩ | ⟨-, -, rfl, -⟩
  · rw [← same]
    refine change.still_requested accounted sat ?_
    rcases change.of_reader sat with ⟨stays, -⟩ | ⟨motion, after, -, stays, step⟩
    · cases stays.symm.trans sits
      exact seen reader desk sat stopping
    · cases stays.symm.trans sits
      cases asked : fleet.stops.isRequested before.handle with
      | true => rfl
      | false =>
        rw [asked] at step
        exact asked.symm.trans (seen reader before sat (step.unseen stopping))
  · cases stopping

theorem Run.seen {hall : Hall} (run : Run answers (start hall) history fleet) : Seen fleet := by
  induction run with
  | nil => exact fun _ _ sits => nomatch sits
  | snoc run step ih => exact step.change.seen (Run.accounted run) ih

/-- A reader that heeds a stop: one is requested that counts for it, and it looks before it goes
on. -/
structure Heeds (fleet : Fleet) (reader : ReaderId) (desk : Desk) : Prop where
  sits : fleet.desks reader = some desk
  asked : fleet.stops.isRequested desk.handle = true
  wary : desk.Wary

/-- A reader has nothing to do with the server: it does not go on connecting, and takes up nothing
that comes from there. -/
def LeavesAlone (history : List Incident) (reader : ReaderId) : Prop :=
  (∀ outcome, .moved reader (.dialled outcome) ∉ history) ∧
    ∀ signal, .moved reader (.did (.heard signal)) ∈ history → signal.isServed = false

theorem LeavesAlone.append (first : LeavesAlone history reader) (second : LeavesAlone more reader) :
    LeavesAlone (history ++ more) reader := by
  refine ⟨fun outcome member => ?_, fun signal member => ?_⟩
  · exact (List.mem_append.mp member).elim (first.1 outcome) (second.1 outcome)
  · exact (List.mem_append.mp member).elim (first.2 signal) (second.2 signal)

/-- A reader that heeds a stop goes on to do so, and leaves the server alone. -/
theorem Change.heeds (change : Change answers fleet incident next)
    (accounted : Accounted history fleet) (heeds : Heeds fleet reader desk) :
    (∃ after, Heeds next reader after) ∧ LeavesAlone [incident] reader := by
  have still := change.still_requested accounted heeds.sits heeds.asked
  rcases change.of_reader heeds.sits with ⟨sits, unmoved⟩ | ⟨motion, after, rfl, sits, step⟩
  · refine ⟨⟨desk, sits, still, heeds.wary⟩, fun outcome member => ?_, fun signal member => ?_⟩
    · exact unmoved _ (List.mem_singleton.mp member).symm
    · exact absurd (List.mem_singleton.mp member).symm (unmoved _)
  · rw [heeds.asked] at step
    obtain ⟨undialled, unserved⟩ := step.obeys heeds.wary
    refine ⟨⟨after, sits, step.handle_eq.symm ▸ still, step.stays_wary heeds.wary⟩,
      fun outcome member => ?_, fun signal member => ?_⟩
    · cases List.mem_singleton.mp member
      exact undialled outcome rfl
    · cases List.mem_singleton.mp member
      exact unserved signal rfl

theorem Run.heeds {hall : Hall} (begun : Run answers (start hall) history fleet)
    (run : Run answers fleet more last) (heeds : Heeds fleet reader desk) :
    (∃ after, Heeds last reader after) ∧ LeavesAlone more reader := by
  induction run with
  | nil => exact ⟨⟨desk, heeds⟩, fun _ => List.not_mem_nil, fun _ member => nomatch member⟩
  | snoc run step ih =>
    obtain ⟨⟨after, heeds⟩, alone⟩ := ih
    obtain ⟨goes_on, leaves⟩ := step.change.heeds (Run.accounted (begun.append run)) heeds
    exact ⟨goes_on, alone.append leaves⟩

end Fleet
end Switchboard
