import Switchboard.Proofs.Stream.Multiplexer

set_option autoImplicit false

namespace Switchboard

open Hall (Answers filterMap_snoc)

namespace Deed

def heard? : Deed → Option ReaderSignal
  | .heard signal => some signal
  | _ => none

def action? : Deed → Option ReaderAction
  | .reopened => some .reopenQueue
  | .closing _ reason => some (.closeQueue reason)
  | .skipped frame _ | .offered frame _ _ => some (.dispatch frame)
  | .published state => some (.publish state)
  | .streamClosed _ => some .closeStream
  | .finished result => some (.finish result)
  | _ => none

def spawned? : Deed → Option EventKind
  | .spawned _ _ event => some event.kind
  | _ => none

/-- The kind of the event whose callback ends, one way or another. -/
def ended? : Deed → Option EventKind
  | .callbackEnded kind _ => some kind
  | _ => none

end Deed

/-- The ways to leave the reading of frames, and the outcomes. -/
inductive ReaderSignal.Leaves : ReaderSignal → Except TransportError Unit → Prop
  | stopRequested : Leaves .stopRequested (.ok ())
  | ended : Leaves .ended (.ok ())
  | failed (error : TransportError) : Leaves (.failed error) (.error error)

/-- Is this a signal that a reader takes up without leaving? -/
def ReaderSignal.proceeds : ReaderSignal → Bool
  | .begun | .connected | .frame _ => true
  | _ => false

theorem ReaderSignal.Leaves.not_proceeds {signal : ReaderSignal}
    {outcome : Except TransportError Unit} (leaves : signal.Leaves outcome) :
    signal.proceeds = false := by
  cases leaves <;> rfl

def ReaderAction.isFinal : ReaderAction → Bool
  | .closeStream | .publish .closed | .finish _ => true
  | _ => false

def ReaderPhase.isIdle : ReaderPhase → Bool
  | .starting | .connecting | .closed => true
  | .reading | .draining _ => false

/-- Has a reader done with its stream, as far as the waiters are concerned? -/
def ReaderPhase.isLeaving : ReaderPhase → Bool
  | .starting | .connecting | .reading => false
  | .draining _ | .closed => true

namespace Station

def heard (history : List Deed) : List ReaderSignal := history.filterMap Deed.heard?

def doings (history : List Deed) : List ReaderAction := history.filterMap Deed.action?

def spawned (history : List Deed) : List EventKind := history.filterMap Deed.spawned?

def ended (history : List Deed) : List EventKind := history.filterMap Deed.ended?

def readSignals (frames : List String) : List ReaderSignal :=
  [.begun, .connected] ++ frames.map .frame

def readActions (frames : List String) : List ReaderAction :=
  [.reopenQueue, .publish .reading] ++
    frames.flatMap fun frame => [.publish .dispatching, .dispatch frame, .publish .reading]

/-- Where a reader stands after the signals that it took up, and all that it does about them. The
signals come in one order only, so others decide when each step is taken and never which. -/
inductive Course : ReaderPhase → List ReaderSignal → List ReaderAction → Prop
  | starting : Course .starting [] []
  | connecting : Course .connecting [.begun] [.reopenQueue]
  | stopped : Course .closed [.begun, .stopRequested]
      [.reopenQueue, .closeQueue .streamClosed, .publish .closed, .finish (.ok ())]
  | refused (error : TransportError) : Course .closed [.begun, .refused error]
      [.reopenQueue, .closeQueue (.streamFailed error), .publish .closed,
        .finish (.error (.transport error))]
  | reading (frames : List String) : Course .reading (readSignals frames) (readActions frames)
  | draining (frames : List String) (signal : ReaderSignal)
      (outcome : Except TransportError Unit) (leaves : signal.Leaves outcome) :
      Course (.draining outcome) (readSignals frames ++ [signal])
        (readActions frames ++ [.publish .draining, .closeQueue (ReaderPhase.reason outcome)])
  | closed (frames : List String) (signal : ReaderSignal)
      (outcome : Except TransportError Unit) (leaves : signal.Leaves outcome) :
      Course .closed (readSignals frames ++ [signal, .drained])
        (readActions frames ++ [.publish .draining, .closeQueue (ReaderPhase.reason outcome),
          .closeStream, .publish .closed, .finish (outcome.mapError .transport)])

namespace Course

variable {phase : ReaderPhase} {signals : List ReaderSignal} {actions : List ReaderAction}

theorem readSignals_snoc (frames : List String) (frame : String) :
    readSignals (frames ++ [frame]) = readSignals frames ++ [.frame frame] := by
  simp [readSignals]

theorem readActions_snoc (frames : List String) (frame : String) :
    readActions (frames ++ [frame]) = readActions frames ++
      [.publish .dispatching, .dispatch frame, .publish .reading] := by
  simp [readActions]

theorem hear (course : Course phase signals actions) {view : ReaderView} {signal : ReaderSignal}
    (streamed : ∀ next, view.next = some next → next.isStreamed = true)
    (taken : phase.listen view = some signal) :
    Course (phase.react signal).1 (signals ++ [signal]) (actions ++ (phase.react signal).2) := by
  cases course with
  | starting =>
    cases taken
    exact .connecting
  | connecting =>
    simp only [ReaderPhase.listen] at taken
    split at taken
    · cases taken
      exact .stopped
    · split at taken
      · cases taken
      · cases taken
        exact .reading []
      · cases taken
        exact .refused _
  | stopped | refused | closed => cases taken
  | draining frames last outcome leaves =>
    simp only [ReaderPhase.listen] at taken
    split at taken <;> cases taken
    have whole := Course.closed frames last outcome leaves
    simpa [ReaderPhase.react] using whole
  | reading frames =>
    simp only [ReaderPhase.listen] at taken
    split at taken
    · cases taken
      exact .draining frames _ _ .stopRequested
    · -- The stream delivers frames, its end and its failure, and nothing else.
      have among := streamed signal taken
      cases signal with
      | frame text =>
        have longer := Course.reading (frames ++ [text])
        rw [readSignals_snoc, readActions_snoc] at longer
        exact longer
      | ended => exact .draining frames _ _ .ended
      | failed error => exact .draining frames _ _ (.failed error)
      | _ => cases among

@[simp] theorem mem_readSignals {frames : List String} {signal : ReaderSignal} :
    signal ∈ readSignals frames ↔
      signal = .begun ∨ signal = .connected ∨ ∃ frame ∈ frames, .frame frame = signal := by
  simp [readSignals]

theorem proceeds (course : Course .reading signals actions) :
    ∀ signal ∈ signals, signal.proceeds = true := by
  cases course with
  | reading frames =>
    intro signal member
    rcases mem_readSignals.mp member with rfl | rfl | ⟨frame, -, rfl⟩ <;> rfl

theorem left (course : Course .closed signals actions) :
    ∃ signal ∈ signals, signal.proceeds = false := by
  cases course with
  | stopped => exact ⟨.stopRequested, by simp, rfl⟩
  | refused error => exact ⟨.refused error, by simp, rfl⟩
  | closed frames signal outcome leaves => exact ⟨signal, by simp, leaves.not_proceeds⟩

end Course

/-- What has happened agrees with the course of a run, and its callbacks are accounted for. -/
structure Disciplined (history : List Deed) (station : Station) : Prop where
  course : Course station.phase (heard history) (doings history ++ station.agenda)
  streamed : ∀ signal ∈ station.stream, signal.isStreamed = true
  /-- What is to be done belongs to the signal that was taken up last. -/
  pending : ∃ phase signal, station.phase = (ReaderPhase.react phase signal).1 ∧
    station.agenda <:+ (ReaderPhase.react phase signal).2
  closing : ∀ errand reason, station.pursuit = some (.closing errand reason) →
    .closing errand reason ∈ history ∧ station.phase.isLeaving = true ∧
      ∀ other, .closeQueue other ∉ station.agenda
  offering : ∀ frame errand event,
    station.pursuit = some (.offering frame errand event) → station.phase = .reading
  idle : station.phase.isIdle = true → station.callbacks = []
  callbacks : (spawned history).Perm (ended history ++ station.callbacks)

variable {answers : Answers} {before : List Act} {history : List Deed} {station next : Station}
  {deed : Deed}

theorem start_disciplined (hall : Hall) : Disciplined [] (start hall) where
  course := .starting
  streamed := fun _ member => nomatch member
  pending := ⟨.starting, .ended, rfl, List.nil_suffix⟩
  closing := fun _ _ found => nomatch found
  offering := fun _ _ _ found => nomatch found
  idle := fun _ => rfl
  callbacks := .nil

theorem Step.course (step : Step answers station deed next)
    (disciplined : Disciplined history station) :
    Course next.phase (heard (history ++ [deed])) (doings (history ++ [deed]) ++ next.agenda) := by
  have course := disciplined.course
  have kept : deed.heard? = none → next.phase = station.phase →
      deed.action?.toList ++ next.agenda = station.agenda →
      Course next.phase (heard (history ++ [deed]))
        (doings (history ++ [deed]) ++ next.agenda) := by
    intro silent same moved
    rw [heard, doings, filterMap_snoc, filterMap_snoc, silent, List.append_assoc, moved, same,
      Option.toList_none, List.append_nil]
    exact course
  cases step with
  | hear signal idle quiet taken =>
    rw [idle, List.append_nil] at course
    have streamed : ∀ next, station.view.next = some next → next.isStreamed = true := by
      intro next first
      exact disciplined.streamed next (List.mem_of_head? first)
    have further := course.hear streamed taken
    rw [heard, doings, filterMap_snoc, filterMap_snoc]
    simp only [Deed.action?, Option.toList_none, List.append_nil]
    exact further
  | reopen rest hall quiet upcoming step => exact kept rfl rfl upcoming.symm
  | close reason rest errand hall quiet upcoming step => exact kept rfl rfl upcoming.symm
  | skip frame error rest quiet upcoming decoded => exact kept rfl rfl upcoming.symm
  | offer frame event rest errand hall quiet upcoming decoded step =>
    exact kept rfl rfl upcoming.symm
  | publish state rest quiet upcoming => exact kept rfl rfl upcoming.symm
  | closeStream outcome rest quiet upcoming => exact kept rfl rfl upcoming.symm
  | finish result rest quiet upcoming => exact kept rfl rfl upcoming.symm
  | _ => exact kept rfl rfl rfl

theorem Step.streamed (step : Step answers station deed next)
    (disciplined : Disciplined history station) :
    ∀ signal ∈ next.stream, signal.isStreamed = true := by
  intro signal member
  cases step with
  | deliver new streamed =>
    rcases List.mem_append.mp member with old | last
    · exact disciplined.streamed signal old
    · cases List.mem_singleton.mp last
      exact streamed
  | hear taken idle quiet heard =>
    refine disciplined.streamed signal ?_
    simp only [Station.hear] at member
    split at member
    · exact List.mem_of_mem_tail member
    · exact member
  | _ => exact disciplined.streamed signal member

theorem reading_of_dispatch {phase : ReaderPhase} {signal : ReaderSignal} {frame : String}
    (member : .dispatch frame ∈ (phase.react signal).2) : (phase.react signal).1 = .reading := by
  cases phase <;> cases signal <;> simp_all [ReaderPhase.react, ReaderPhase.leave]

/-- A reader that has to close the queue is leaving, and has to do it once. -/
theorem leaving_of_closeQueue {phase : ReaderPhase} {signal : ReaderSignal} {reason : WaitError}
    {rest : List ReaderAction} (upcoming : .closeQueue reason :: rest <:+ (phase.react signal).2) :
    (phase.react signal).1.isLeaving = true ∧ ∀ other, .closeQueue other ∉ rest := by
  cases phase <;> cases signal <;>
    simp_all [ReaderPhase.react, ReaderPhase.leave, List.suffix_cons_iff, ReaderPhase.isLeaving]

theorem agenda_of_connecting {phase : ReaderPhase} {signal : ReaderSignal}
    (connecting : (phase.react signal).1 = .connecting) :
    (phase.react signal).2 = [] ∨ (phase.react signal).2 = [.reopenQueue] := by
  cases phase <;> cases signal <;> simp_all [ReaderPhase.react, ReaderPhase.leave]

theorem connecting_of_reopenQueue {phase : ReaderPhase} {signal : ReaderSignal}
    {rest : List ReaderAction} (upcoming : .reopenQueue :: rest <:+ (phase.react signal).2) :
    (phase.react signal).1 = .connecting ∧ rest = [] := by
  cases phase <;> cases signal <;>
    simp_all [ReaderPhase.react, ReaderPhase.leave, List.suffix_cons_iff]

theorem Step.pending (step : Step answers station deed next)
    (disciplined : Disciplined history station) :
    ∃ phase signal, next.phase = (ReaderPhase.react phase signal).1 ∧
      next.agenda <:+ (ReaderPhase.react phase signal).2 := by
  obtain ⟨phase, signal, same, suffix⟩ := disciplined.pending
  have rest_of : ∀ {action : ReaderAction} {rest : List ReaderAction},
      station.agenda = action :: rest → rest <:+ (phase.react signal).2 := by
    intro action rest upcoming
    rw [upcoming] at suffix
    exact (List.suffix_cons action rest).trans suffix
  cases step with
  | hear taken idle quiet heard => exact ⟨station.phase, taken, rfl, List.suffix_refl _⟩
  | reopen rest hall quiet upcoming step => exact ⟨phase, signal, same, rest_of upcoming⟩
  | close reason rest errand hall quiet upcoming step =>
    exact ⟨phase, signal, same, rest_of upcoming⟩
  | skip frame error rest quiet upcoming decoded => exact ⟨phase, signal, same, rest_of upcoming⟩
  | offer frame event rest errand hall quiet upcoming decoded step =>
    exact ⟨phase, signal, same, rest_of upcoming⟩
  | publish state rest quiet upcoming => exact ⟨phase, signal, same, rest_of upcoming⟩
  | closeStream outcome rest quiet upcoming => exact ⟨phase, signal, same, rest_of upcoming⟩
  | finish result rest quiet upcoming => exact ⟨phase, signal, same, rest_of upcoming⟩
  | _ => exact ⟨phase, signal, same, suffix⟩

theorem Disciplined.dispatching (disciplined : Disciplined history station) {frame : String}
    (member : .dispatch frame ∈ station.agenda) : station.phase = .reading := by
  obtain ⟨phase, signal, same, suffix⟩ := disciplined.pending
  rw [same]
  exact reading_of_dispatch (suffix.subset member)

theorem Step.closing (step : Step answers station deed next)
    (disciplined : Disciplined history station) (errand : ErrandId) (reason : WaitError)
    (found : next.pursuit = some (.closing errand reason)) :
    .closing errand reason ∈ history ++ [deed] ∧ next.phase.isLeaving = true ∧
      ∀ other, .closeQueue other ∉ next.agenda := by
  have kept : station.pursuit = some (.closing errand reason) →
      .closing errand reason ∈ history ++ [deed] ∧ station.phase.isLeaving = true ∧
        ∀ other, .closeQueue other ∉ station.agenda := by
    intro pursued
    obtain ⟨begun, leaving, once⟩ := disciplined.closing errand reason pursued
    exact ⟨List.mem_append_left _ begun, leaving, once⟩
  cases step with
  | hear signal idle quiet heard => exact nomatch quiet.symm.trans found
  | reopen rest hall quiet upcoming step => exact nomatch quiet.symm.trans found
  | close cause rest owner hall quiet upcoming step =>
    cases found
    obtain ⟨phase, signal, same, suffix⟩ := disciplined.pending
    rw [upcoming] at suffix
    have leaving := leaving_of_closeQueue suffix
    rw [← same] at leaving
    exact ⟨List.mem_append_right _ (List.mem_singleton_self _), leaving⟩
  | skip frame error rest quiet upcoming decoded => exact nomatch quiet.symm.trans found
  | publish state rest quiet upcoming => exact nomatch quiet.symm.trans found
  | closeStream outcome rest quiet upcoming => exact nomatch quiet.symm.trans found
  | finish result rest quiet upcoming => exact nomatch quiet.symm.trans found
  | offer | closed | claimed | spawn => cases found
  | _ => exact kept found

theorem Step.offering (step : Step answers station deed next)
    (disciplined : Disciplined history station) (frame : String) (errand : ErrandId)
    (event : Event) (found : next.pursuit = some (.offering frame errand event)) :
    next.phase = .reading := by
  cases step with
  | hear signal idle quiet heard => exact nomatch quiet.symm.trans found
  | offer text told rest errand hall quiet upcoming decoded step =>
    have first : .dispatch text ∈ station.agenda := by
      rw [upcoming]
      exact List.mem_cons_self
    exact disciplined.dispatching first
  | close | closed | claimed | spawn => cases found
  | _ => exact disciplined.offering frame errand event found

/-- A reader that is idle after a signal was so before, or found that no callback is running. -/
theorem idle_of_listen {phase : ReaderPhase} {view : ReaderView} {signal : ReaderSignal}
    (heard : phase.listen view = some signal) (idle : (phase.react signal).1.isIdle = true) :
    phase.isIdle = true ∨ view.inFlight = 0 := by
  cases phase with
  | starting | connecting | closed => exact .inl rfl
  | reading => cases signal <;> cases idle
  | draining outcome =>
    simp only [ReaderPhase.listen] at heard
    split at heard
    · exact .inr ‹_›
    · cases heard

theorem Step.idle (step : Step answers station deed next)
    (disciplined : Disciplined history station) (idle : next.phase.isIdle = true) :
    next.callbacks = [] := by
  cases step with
  | hear signal empty quiet heard =>
    rcases idle_of_listen heard idle with still | none_running
    · exact disciplined.idle still
    · exact List.length_eq_zero_iff.mp none_running
  | spawn frame errand event back request pursued answered =>
    have reading := disciplined.offering frame errand event pursued
    rw [show station.phase = .reading from reading] at idle
    cases idle
  | endCallback kind ending running =>
    rw [disciplined.idle idle] at running
    cases running
  | _ => exact disciplined.idle idle

theorem Step.callbacks (step : Step answers station deed next)
    (disciplined : Disciplined history station) :
    (spawned (history ++ [deed])).Perm (ended (history ++ [deed]) ++ next.callbacks) := by
  have tally := disciplined.callbacks
  rw [spawned, ended, filterMap_snoc, filterMap_snoc, List.append_assoc]
  cases step with
  | spawn frame errand event back request pursued answered =>
    have longer := tally.append_right [back.kind]
    rw [List.append_assoc] at longer
    exact longer
  | endCallback kind ending running =>
    have split : station.callbacks.Perm (kind :: station.callbacks.erase kind) :=
      List.perm_cons_erase running
    have moved := tally.trans (split.append_left _)
    simp only [Deed.spawned?, Option.toList_none, List.append_nil]
    exact moved
  | _ =>
    simp only [Deed.spawned?, Deed.ended?, Option.toList_none, List.append_nil, List.nil_append]
    exact tally

theorem Step.disciplined (step : Step answers station deed next)
    (disciplined : Disciplined history station) : Disciplined (history ++ [deed]) next where
  course := step.course disciplined
  streamed := step.streamed disciplined
  pending := step.pending disciplined
  closing := step.closing disciplined
  offering := step.offering disciplined
  idle := step.idle disciplined
  callbacks := step.callbacks disciplined

theorem Reached.disciplined (reached : Reached answers before history station) :
    Disciplined history station := by
  induction reached with
  | start reached => exact start_disciplined _
  | snoc run step ih => exact step.disciplined ih

/-- The step before the last of a history, and what was reached until then. -/
theorem Reached.last (reached : Reached answers before (history ++ [deed]) next) :
    ∃ station, Reached answers before history station ∧ Step answers station deed next := by
  generalize whole : history ++ [deed] = all at reached
  cases reached with
  | start => exact absurd whole (List.concat_ne_nil _ _)
  | snoc run step =>
    obtain ⟨rfl, same⟩ := List.append_inj' whole rfl
    cases same
    exact ⟨_, run, step⟩

theorem Reached.early {later : List Deed}
    (reached : Reached answers before (history ++ later) next) :
    ∃ station, Reached answers before history station := by
  induction later using List.reverseRecOn generalizing next with
  | nil =>
    rw [List.append_nil] at reached
    exact ⟨next, reached⟩
  | append_singleton later deed ih =>
    rw [← List.append_assoc] at reached
    obtain ⟨station, reached, -⟩ := reached.last
    exact ih reached

theorem Reached.at_step {later : List Deed}
    (reached : Reached answers before (history ++ deed :: later) next) :
    ∃ station after, Reached answers before history station ∧
      Step answers station deed after := by
  rw [List.append_cons] at reached
  obtain ⟨after, reached⟩ := reached.early
  obtain ⟨station, reached, step⟩ := reached.last
  exact ⟨station, after, reached, step⟩

theorem Reached.spawned_of_closed {later : List Deed}
    (reached : Reached answers before (history ++ later) next)
    (disciplined : Disciplined history station) (closed : station.phase = .closed) :
    spawned later = [] := by
  have finale := disciplined.course
  rw [closed] at finale
  obtain ⟨signal, taken, leaves⟩ := finale.left
  rw [spawned, List.filterMap_eq_nil_iff]
  intro deed member
  obtain ⟨during, rest, rfl⟩ := List.append_of_mem member
  rw [← List.append_assoc] at reached
  obtain ⟨moment, after, run, step⟩ := reached.at_step
  cases step with
  | spawn frame errand event back request pursued answered =>
    have course := run.disciplined.course
    rw [run.disciplined.offering frame errand event pursued] at course
    have again : signal ∈ heard (history ++ during) := by
      rw [heard, List.filterMap_append]
      exact List.mem_append_left _ taken
    exact nomatch leaves.symm.trans (course.proceeds signal again)
  | _ => rfl

end Station
end Switchboard
