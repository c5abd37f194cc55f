import Switchboard.Proofs.Stream.Reconnect

set_option autoImplicit false

/- What comes of a stop that a callback asks for. The stop is one of the reader that the callback
belongs to. If the reader has not failed by then, it takes up no failure any more: it ends well, and
the monitor with it. If it has failed, it only waits for its callbacks and ends with the failure.
The monitor looks at this result and at the stop of the bot, which nobody asked for. So it goes on
as it would if the callback had not asked for anything. -/

namespace Switchboard

open Hall (Answers evaluated)
open Monitor (Goes Next Point)

namespace Station

/-- The reader took up a failure. -/
def Faulted (signals : List ReaderSignal) (error : TransportError) : Prop :=
  .refused error ∈ signals ∨ .failed error ∈ signals

section Stop

variable {answers : Answers} {before : List Act} {history : List Deed} {station next : Station}
  {deed : Deed} {signals : List ReaderSignal} {error : TransportError}

theorem Faulted.mono (faulted : Faulted signals error) {more : List ReaderSignal}
    (within : signals ⊆ more) : Faulted more error :=
  faulted.imp (fun member => within member) fun member => within member

theorem not_faulted_of_listen {phase : ReaderPhase} {view : ReaderView} {signal : ReaderSignal}
    (asked : view.stopRequested = true) (heard : phase.listen view = some signal) :
    ¬ Faulted [signal] error := by
  cases phase with
  | starting =>
    cases heard
    simp [Faulted]
  | connecting | reading =>
    rw [ReaderPhase.listen, if_pos asked] at heard
    cases heard
    simp [Faulted]
  | draining outcome =>
    simp only [ReaderPhase.listen] at heard
    split at heard
    · cases heard
      simp [Faulted]
    · cases heard
  | closed => cases heard

theorem Step.keeps_asked (step : Step answers station deed next)
    (asked : station.stopping = true) :
    next.stopping = true ∧ ∀ error, ¬ Faulted deed.heard?.toList error := by
  have silent : ∀ error, ¬ Faulted [] error := by simp [Faulted]
  cases step with
  | requestStop => exact ⟨rfl, silent⟩
  | endCallback kind ending running =>
    refine ⟨?_, silent⟩
    simp only [asked, Bool.true_or]
  | hear signal idle quiet heard => exact ⟨asked, fun error => not_faulted_of_listen asked heard⟩
  | _ => exact ⟨asked, silent⟩

theorem Course.leaving_of_faulted {phase : ReaderPhase} {actions : List ReaderAction}
    (course : Course phase signals actions) (faulted : Faulted signals error) :
    phase.isLeaving = true := by
  cases course with
  | starting | connecting => simp [Faulted] at faulted
  | reading frames => simp [Faulted] at faulted
  | _ => rfl

theorem Reached.truthful (reached : Reached answers before history station)
    {result : StreamResult} (sent : .finished result ∈ history) :
    Truthful (heard history) result := by
  obtain ⟨earlier, later, rfl⟩ := List.append_of_mem sent
  obtain ⟨-, -, -, whole⟩ := reached.at_final rfl rfl
  exact whole.at_finish.2.2.1

theorem listen_of_leaving {phase : ReaderPhase} {view other : ReaderView}
    (leaving : phase.isLeaving = true) (same : view.inFlight = other.inFlight) :
    phase.listen view = phase.listen other := by
  cases phase with
  | draining outcome => simp only [ReaderPhase.listen, same]
  | closed => rfl
  | _ => cases leaving

theorem leaving_of_react {phase : ReaderPhase} (leaving : phase.isLeaving = true)
    (signal : ReaderSignal) : (phase.react signal).1.isLeaving = true := by
  cases phase with
  | draining outcome | closed => cases signal <;> rfl
  | _ => cases leaving

theorem Step.unmarked (step : Step answers station deed next)
    (leaving : station.phase.isLeaving = true) (mark : Bool) :
    next.phase.isLeaving = true ∧
      ∃ other, Step answers { station with stopping := mark } deed
        { next with stopping := other } := by
  cases step with
  | party act hall step => exact ⟨leaving, mark, .party act hall step⟩
  | deliver signal streamed => exact ⟨leaving, mark, .deliver signal streamed⟩
  | requestStop => exact ⟨leaving, true, .requestStop⟩
  | connect outcome pending => exact ⟨leaving, mark, .connect outcome pending⟩
  | hear signal idle quiet heard =>
    have unmarked : station.phase.listen { station with stopping := mark }.view = some signal := by
      rw [← heard]
      exact listen_of_leaving leaving rfl
    exact ⟨leaving_of_react leaving signal, mark, .hear signal idle quiet unmarked⟩
  | reopen rest hall quiet upcoming step =>
    exact ⟨leaving, mark, .reopen rest hall quiet upcoming step⟩
  | close reason rest errand hall quiet upcoming step =>
    exact ⟨leaving, mark, .close reason rest errand hall quiet upcoming step⟩
  | closed reason errand request reply pursued answered =>
    exact ⟨leaving, mark, .closed reason errand request reply pursued answered⟩
  | skip frame error rest quiet upcoming decoded =>
    exact ⟨leaving, mark, .skip frame error rest quiet upcoming decoded⟩
  | offer frame event rest errand hall quiet upcoming decoded step =>
    exact ⟨leaving, mark, .offer frame event rest errand hall quiet upcoming decoded step⟩
  | claimed frame errand event request pursued answered =>
    exact ⟨leaving, mark, .claimed frame errand event request pursued answered⟩
  | spawn frame errand event back request pursued answered =>
    exact ⟨leaving, mark, .spawn frame errand event back request pursued answered⟩
  | publish state rest quiet upcoming =>
    exact ⟨leaving, mark, .publish state rest quiet upcoming⟩
  | closeStream outcome rest quiet upcoming =>
    exact ⟨leaving, mark, .closeStream outcome rest quiet upcoming⟩
  | finish result rest quiet upcoming =>
    exact ⟨leaving, mark, .finish result rest quiet upcoming⟩
  | endCallback kind ending running =>
    exact ⟨leaving, mark || ending.stops, .endCallback kind ending running⟩

end Stop

end Station

namespace Monitor

/-- Does the monitor wait for its reader, or has it ended with what it was told of no failure? -/
def Point.heeds : Point → Bool
  | .watching _ _ | .awaiting _ _ | .settled (.ended (.ok ())) => true
  | .settled (.ended (.error (.stream (.aborted _)))) => true
  | _ => false

theorem Point.heeds_settled {next : Next} (heeds : (Point.settled next).heeds = true) :
    next = .ended (.ok ()) ∨ ∃ reason, next = .ended (.error (.stream (.aborted reason))) := by
  unfold Point.heeds at heeds
  split at heeds <;> simp_all

end Monitor

def Happening.isDeed : Happening → Bool
  | .did _ => true
  | _ => false

def Happening.starts : Happening → Bool
  | .answered (.startReader _) _ => true
  | _ => false

namespace Vigil

open Station (Faulted Truthful heard)

def taken (history : List Happening) : List ReaderSignal :=
  match connections history with
  | [] => []
  | connection :: _ => heard connection.deeds

section Taken

variable {answers : Answers} {history : List Happening} {vigil : Vigil} {happening : Happening}
  {connection : Connection} {rest : List Connection} {error : TransportError}

theorem taken_eq (last : connections history = connection :: rest) :
    taken history = heard connection.deeds := by
  rw [taken, last]

theorem taken_nil (none_yet : connections history = []) : taken history = [] := by
  rw [taken, none_yet]

theorem taken_did (last : connections history = connection :: rest) (deed : Deed) :
    taken (history ++ [.did deed]) = taken history ++ deed.heard?.toList := by
  rw [taken_eq last, taken_eq (connections_did last deed)]
  exact Hall.filterMap_snoc ..

theorem taken_subset_did (history : List Happening) (deed : Deed) :
    taken history ⊆ taken (history ++ [.did deed]) := by
  cases former : connections history with
  | nil =>
    rw [taken_nil former]
    exact List.nil_subset _
  | cons connection rest =>
    rw [taken_did former]
    exact List.subset_append_left _ _

theorem faulted_did {deed : Deed} (faulted : Faulted (taken (history ++ [.did deed])) error) :
    Faulted (taken history) error ∨ Faulted deed.heard?.toList error := by
  cases former : connections history with
  | nil =>
    rw [taken_nil (connections_did_nil former deed)] at faulted
    simp [Faulted] at faulted
  | cons connection rest =>
    rw [taken_did former] at faulted
    rcases faulted with refused | failed
    · exact (List.mem_append.mp refused).imp .inl .inl
    · exact (List.mem_append.mp failed).imp .inr .inr

theorem taken_kept (history : List Happening) (idle : happening.isDeed = false)
    (unstarted : happening.starts = false) : taken (history ++ [happening]) = taken history := by
  rw [taken, taken, connections_snoc]
  cases happening with
  | did deed => cases idle
  | crashed | passed | resumed => rfl
  | answered op answer =>
    cases op with
    | startReader key => cases unstarted
    | awaitReading reader =>
      cases answer with
      | false => rfl
      | true => cases connections history <;> rfl
    | _ => rfl

/-- A result that the monitor can get tells of the failure that the reader took up, or of a
crash. -/
theorem Sound.truthful (sound : Sound answers history vigil) {result : StreamResult}
    (sent : vigil.result = some result) :
    Truthful (taken history) result ∨
      result = .error .dropped ∧ .crashed ∈ history := by
  rcases sound.result result sent with crashed | ⟨-, -, connection, rest, last, done⟩
  · exact .inr crashed
  · obtain ⟨before, deeds, run, within, same⟩ := sound.last_run last
    have truthful := run.truthful (within done)
    rw [heard, same _ rfl] at truthful
    rw [taken_eq last]
    exact .inl truthful

theorem Sound.result_of_faulted (sound : Sound answers history vigil)
    (faulted : Faulted (taken history) error) {result : StreamResult}
    (sent : vigil.result = some result) :
    result = .error (.transport error) ∨
      result = .error .dropped ∧ .crashed ∈ history :=
  (sound.truthful sent).imp_left fun truthful => (truthful.1 error).mpr faulted

theorem Sound.result_of_unfaulted (sound : Sound answers history vigil)
    (unfaulted : ∀ error, ¬ Faulted (taken history) error) {result : StreamResult}
    (sent : vigil.result = some result) :
    result = .ok () ∨ result = .error .dropped ∧ .crashed ∈ history := by
  refine (sound.truthful sent).imp_left fun truthful => ?_
  rcases truthful.2 with ok | ⟨error, rfl⟩
  · exact ok
  · exact absurd ((truthful.1 error).mp rfl) (unfaulted error)

end Taken

/-- The reader was asked to stop before it took up a failure, and the monitor waits for it or has
ended. -/
structure Heeding (history : List Happening) (vigil : Vigil) (point : Point) : Prop where
  asked : vigil.station.stopping = true
  unfaulted : ∀ error, ¬ Faulted (taken history) error
  heeds : point.heeds = true

section Heeding

variable {answers : Answers} {retry : Retry} {before : List Act}
  {history earlier later : List Happening} {vigil moment next : Vigil} {happening : Happening}
  {point after : Point}

theorem Heeding.frame (heeding : Heeding history vigil point) (idle : happening.isDeed = false)
    (unstarted : happening.starts = false) (station : next.station = vigil.station)
    (heeds : after.heeds = true) : Heeding (history ++ [happening]) next after := by
  refine ⟨?_, ?_, heeds⟩
  · rw [station]
    exact heeding.asked
  · rw [taken_kept history idle unstarted]
    exact heeding.unfaulted

theorem Heeding.moves (heeding : Heeding history vigil point) (sound : Sound answers history vigil)
    (step : Step answers retry vigil happening next) (moves : Moves retry point happening after) :
    Heeding (history ++ [happening]) next after ∧ happening.starts = false := by
  have heeds := heeding.heeds
  cases moves with
  | resumed count => cases heeds
  | answered op answer goes =>
    cases step with
    | answer op answer rest middle asks answered =>
      cases goes with
      | seen | unseen | finished | aborted =>
        cases answered
        exact ⟨heeding.frame rfl rfl rfl rfl, rfl⟩
      | failed count reader error =>
        -- a reader that took up no failure sends none
        cases answered with
        | result reader result sent =>
          rcases sound.truthful sent with truthful | ⟨dropped, -⟩
          · exact absurd ((truthful.1 error).mp rfl) (heeding.unfaulted error)
          · cases dropped
      | _ => cases heeds

theorem Heeding.step (heeding : Heeding history vigil point) (sound : Sound answers history vigil)
    (step : Step answers retry vigil happening next)
    (moves : Moves retry point happening after ∨ happening.byMonitor = false ∧ after = point) :
    Heeding (history ++ [happening]) next after ∧ happening.starts = false := by
  rcases moves with moves | ⟨other, rfl⟩
  · exact heeding.moves sound step moves
  · cases step with
    | did deed station manned step =>
      obtain ⟨asked, calm⟩ := step.keeps_asked heeding.asked
      refine ⟨⟨asked, fun error faulted => ?_, heeding.heeds⟩, rfl⟩
      rcases faulted_did faulted with old | new
      · exact heeding.unfaulted error old
      · exact calm error new
    | crash manned unfinished => exact ⟨heeding.frame rfl rfl rfl heeding.heeds, rfl⟩
    | pass span => exact ⟨heeding.frame rfl rfl rfl heeding.heeds, rfl⟩
    | answer | resume => cases other

theorem Heeding.run (heeding : Heeding history moment point)
    (run : Run answers retry moment later vigil) (sound : Sound answers history moment)
    (stands : moment.work = point.work retry) (fits : Fits history moment point) :
    (∀ happening ∈ later, happening.starts = false) ∧
      ∃ after : Point, vigil.work = after.work retry ∧ Fits (history ++ later) vigil after ∧
        Heeding (history ++ later) vigil after := by
  induction run generalizing history point with
  | nil =>
    rw [List.append_nil]
    exact ⟨fun _ member => (nomatch member), point, stands, fits, heeding⟩
  | cons step run ih =>
    obtain ⟨middle, stands, known, moves⟩ := step.point sound stands fits
    obtain ⟨kept, first⟩ := heeding.step sound step moves
    obtain ⟨others, after, ends, fits, heeds⟩ := ih kept (sound.step step) stands known
    rw [← List.append_cons] at fits heeds
    refine ⟨?_, after, ends, fits, heeds⟩
    intro happening member
    rcases List.mem_cons.mp member with rfl | later
    · exact first
    · exact others happening later

/-- The monitor ended well, or with a crash of its reader. -/
def EndsWell (history : List Happening) (vigil : Vigil) : Prop :=
  vigil.work = .done (.ended (.ok ())) ∨
    .crashed ∈ history ∧ vigil.work = .done (.ended (.error (.stream .dropped)))

theorem Heeding.endsWell (heeding : Heeding history vigil point)
    (stands : vigil.work = point.work retry) (fits : Fits history vigil point) {next : Next}
    (ends : vigil.work = .done next) : EndsWell history vigil := by
  obtain rfl := Point.settled_of_work (stands.symm.trans ends)
  rcases Point.heeds_settled heeding.heeds with rfl | ⟨reason, rfl⟩
  · exact .inl ends
  · rcases fits with ⟨-, unbroken⟩ | ⟨dropped, crashed⟩
    · exact absurd rfl (unbroken reason)
    · cases dropped
      exact .inr ⟨crashed, ends⟩

theorem Heeding.ends (heeding : Heeding history vigil point)
    (reached : Reached answers retry before history vigil)
    (stands : vigil.work = point.work retry) (fits : Fits history vigil point)
    (sent : vigil.result ≠ none) :
    ∃ more after, Undisturbed more ∧ Reached answers retry before (history ++ more) after ∧
      EndsWell (history ++ more) after := by
  obtain ⟨more, after, run, undisturbed, decided⟩ := reached.getsOn stands fits fun _ => sent
  obtain ⟨unstarted, point, stands, fits, heeding⟩ := heeding.run run reached.sound stands fits
  refine ⟨more, after, undisturbed, reached.append run, ?_⟩
  rcases decided with ⟨key, reader, started⟩ | ⟨next, ends, -⟩
  · cases unstarted _ started
  · exact heeding.endsWell stands fits ends

end Heeding

/-- The reader took up a failure, and the monitor has not ended well. -/
structure Belated (error : TransportError) (history : List Happening) (point : Point) : Prop where
  faulted : Faulted (taken history) error
  unended : point ≠ .settled (.ended (.ok ()))

/-- The same vigil, but its reader keeps another mark of whether it is asked to stop. -/
def remarked (vigil : Vigil) (mark : Bool) : Vigil :=
  { vigil with station := { vigil.station with stopping := mark } }

section Belated

variable {answers : Answers} {retry : Retry} {before : List Act}
  {history earlier later : List Happening} {vigil moment next : Vigil} {happening : Happening}
  {point after : Point} {error : TransportError}

theorem faulted_kept (faulted : Faulted (taken history) error)
    (unstarted : happening.starts = false) : Faulted (taken (history ++ [happening])) error := by
  cases happening with
  | did deed => exact faulted.mono (taken_subset_did history deed)
  | _ =>
    rw [taken_kept history rfl unstarted]
    exact faulted

/-- Whatever happens leaves it so, unless the bot is asked to stop or another reader is started. -/
theorem Belated.step (belated : Belated error history point) (sound : Sound answers history vigil)
    (step : Step answers retry vigil happening next)
    (moves : Moves retry point happening after ∨ happening.byMonitor = false ∧ after = point)
    (unstarted : happening.starts = false) (unasked : vigil.stopping ≠ true) :
    Belated error (history ++ [happening]) after := by
  refine ⟨faulted_kept belated.faulted unstarted, ?_⟩
  rintro rfl
  -- three ways lead to a good end: the reader's result, and a stop of the bot before the pause or
  -- during it
  rcases moves with moves | ⟨-, same⟩
  · cases moves with
    | answered op answer goes =>
      cases step with
      | answer op answer rest middle asks answered =>
        cases goes with
        | finished count reader =>
          cases answered with
          | result reader result sent =>
            rcases sound.truthful sent with truthful | ⟨dropped, -⟩
            · cases (truthful.1 error).mpr belated.faulted
            · cases dropped
        | stopped count error =>
          generalize told : (true : Op.Answer .stopRequested) = answer at answered
          cases answered
          exact unasked told.symm
        | roused count time =>
          cases answered with
          | roused time asked => exact unasked asked
  · exact belated.unended same.symm

theorem Belated.run (belated : Belated error history point)
    (run : Run answers retry moment later vigil) (sound : Sound answers history moment)
    (stands : moment.work = point.work retry) (fits : Fits history moment point)
    (unstarted : ∀ happening ∈ later, happening.starts = false)
    (unasked : .did .stopRequested ∉ history ++ later) :
    ∃ after : Point, vigil.work = after.work retry ∧ Belated error (history ++ later) after := by
  induction run generalizing history point with
  | nil =>
    rw [List.append_nil]
    exact ⟨point, stands, belated⟩
  | cons step run ih =>
    obtain ⟨middle, stands, known, moves⟩ := step.point sound stands fits
    have calm := fun asked => unasked (List.mem_append_left _ (sound.stopping asked))
    have kept := belated.step sound step moves (unstarted _ List.mem_cons_self) calm
    rw [List.append_cons] at unasked ⊢
    exact ih kept (sound.step step) stands known
      (fun happening member => unstarted happening (List.mem_cons_of_mem _ member)) unasked

theorem faulted_after (run : Run answers retry moment later vigil)
    (faulted : Faulted (taken history) error)
    (unstarted : ∀ happening ∈ later, happening.starts = false) :
    Faulted (taken (history ++ later)) error := by
  induction run generalizing history with
  | nil =>
    rw [List.append_nil]
    exact faulted
  | cons step run ih =>
    rw [List.append_cons]
    exact ih (faulted_kept faulted (unstarted _ List.mem_cons_self))
      fun happening member => unstarted happening (List.mem_cons_of_mem _ member)

/-- The monitor gets its answers without regard to the mark, and another reader gets a new one. -/
theorem Answered.remarked {op : Op} {answer : op.Answer} (answered : Answered vigil op answer next)
    (mark : Bool) :
    Answered (vigil.remarked mark) op answer next ∨
      next = vigil ∧ Answered (vigil.remarked mark) op answer (vigil.remarked mark) := by
  cases answered with
  | startReader key => exact .inl (.startReader key)
  | session session => exact .inr ⟨rfl, .session session⟩
  | reading reader shown => exact .inr ⟨rfl, .reading reader shown⟩
  | closed reader unread ceased => exact .inr ⟨rfl, .closed reader unread ceased⟩
  | result reader result sent => exact .inr ⟨rfl, .result reader result sent⟩
  | stopRequested => exact .inr ⟨rfl, .stopRequested⟩
  | now => exact .inr ⟨rfl, .now⟩
  | rested time late => exact .inr ⟨rfl, .rested time late⟩
  | roused time asked => exact .inr ⟨rfl, .roused time asked⟩

theorem Step.remarked (step : Step answers retry vigil happening next)
    (leaving : vigil.station.phase.isLeaving = true) (mark : Bool) :
    Step answers retry (vigil.remarked mark) happening next ∨
      next.station.phase.isLeaving = true ∧
        ∃ other, Step answers retry (vigil.remarked mark) happening (next.remarked other) := by
  cases step with
  | did deed station manned step =>
    obtain ⟨still, other, step⟩ := step.unmarked leaving mark
    exact .inr ⟨still, other, .did deed _ manned step⟩
  | crash manned unfinished => exact .inr ⟨leaving, mark, .crash manned unfinished⟩
  | pass span => exact .inr ⟨leaving, mark, .pass span⟩
  | resume count goes_on => exact .inr ⟨leaving, mark, .resume count goes_on⟩
  | answer op answer rest after asks answered =>
    rcases answered.remarked mark with same | ⟨rfl, still⟩
    · exact .inl (.answer op answer rest after asks same)
    · have step : Step answers retry (after.remarked mark) (.answered op answer)
          { after.remarked mark with work := rest answer } :=
        .answer op answer rest _ asks still
      exact .inr ⟨leaving, mark, step⟩

theorem Run.remarked (run : Run answers retry moment later vigil)
    (leaving : moment.station.phase.isLeaving = true) (mark : Bool) :
    ∃ other, Run answers retry (moment.remarked mark) later (vigil.remarked other) := by
  induction run generalizing mark with
  | nil => exact ⟨mark, .nil⟩
  | @cons first middle last happening rest step run ih =>
    rcases step.remarked leaving mark with same | ⟨still, other, step⟩
    · -- another reader was started, and the mark went with the last one
      exact ⟨last.station.stopping, .cons same run⟩
    · obtain ⟨final, run⟩ := ih still other
      exact ⟨final, .cons step run⟩

end Belated

section Law

variable {answers : Answers} {retry : Retry} {before : List Act}
  {history earlier later : List Happening} {vigil moment next : Vigil} {point : Point}
  {kind : EventKind} {ending : CallbackEnd} {error : TransportError}

theorem Sound.busy (sound : Sound answers history vigil)
    (running : kind ∈ vigil.station.callbacks) : ¬ vigil.Unmanned := by
  rintro (nobody | ⟨closed, -, -⟩)
  · rw [(sound.idle nobody).1] at running
    cases running
  · obtain ⟨before, deeds, run, -⟩ := sound.run
    rw [run.disciplined.idle (by rw [closed]; rfl)] at running
    cases running

/-- While a reader is busy the monitor waits for it, unless it has crashed. -/
theorem Fits.waits (fits : Fits history vigil point) (busy : ¬ vigil.Unmanned) :
    point.withReader = true ∨
      ∃ reason, point = .settled (.ended (.error (.stream (.aborted reason)))) := by
  cases point with
  | watching | awaiting => exact .inl rfl
  | beginning | opening => exact absurd fits.2.2 busy
  | judging count error =>
    obtain ⟨-, -, -, -, -, -, ceased⟩ := fits
    exact absurd (.inr ceased) busy
  | timing | pausing => exact absurd (.inr fits.2.2) busy
  | settled next =>
    cases next with
    | again count => exact absurd fits.2.2 busy
    | crashed => exact absurd fits busy
    | ended result =>
      rcases fits with ⟨unmanned, -⟩ | ⟨rfl, -⟩
      · exact absurd unmanned busy
      · exact .inr ⟨_, rfl⟩

theorem Sound.leaving_of_faulted (sound : Sound answers history vigil)
    (faulted : Faulted (taken history) error) : vigil.station.phase.isLeaving = true := by
  cases former : connections history with
  | nil =>
    rw [taken_nil former] at faulted
    simp [Faulted] at faulted
  | cons connection rest =>
    obtain ⟨before, deeds, run, -, same⟩ := sound.last_run former
    rw [taken_eq former, heard, ← same _ rfl] at faulted
    exact run.disciplined.course.leaving_of_faulted faulted

/-- When a callback ends the monitor waits for its reader, unless that has crashed. -/
theorem Reached.at_callback
    (reached : Reached answers retry before
      (earlier ++ .did (.callbackEnded kind ending) :: later) vigil) :
    ∃ moment station, Reached answers retry before earlier moment ∧
      Station.Step answers moment.station (.callbackEnded kind ending) station ∧
      kind ∈ moment.station.callbacks ∧
      Run answers retry (moment.after (.callbackEnded kind ending) station) later vigil ∧
      ∃ point : Point, moment.work = point.work retry ∧ Fits earlier moment point ∧
        (point.withReader = true ∨
          ∃ reason, point = .settled (.ended (.error (.stream (.aborted reason))))) := by
  obtain ⟨moment, begun, run⟩ := reached.split
  obtain ⟨point, stands, fits⟩ := begun.stands
  cases run with
  | cons step run =>
    cases step with
    | did deed station manned step =>
      have running : kind ∈ moment.station.callbacks := by
        cases step with
        | endCallback kind ending running => exact running
      exact ⟨moment, station, begun, step, running, run, point, stands, fits,
        fits.waits (begun.sound.busy running)⟩

theorem Reached.ending_unnoticed
    (reached : Reached answers retry before
      (earlier ++ .did (.callbackEnded kind ending) :: later) vigil)
    (faulted : Faulted (taken earlier) error) (other : CallbackEnd) :
    ∃ mark, Reached answers retry before
      (earlier ++ .did (.callbackEnded kind other) :: later) (vigil.remarked mark) := by
  obtain ⟨moment, station, begun, step, running, run, -⟩ := reached.at_callback
  have leaving := begun.sound.leaving_of_faulted faulted
  have still := (step.unmarked leaving true).1
  obtain ⟨mark, run⟩ := run.remarked still (moment.station.stopping || other.stops)
  cases step with
  | endCallback kind ending running =>
    have ends := begun.snoc
      (.did (.callbackEnded kind other) _ nofun (.endCallback kind other running))
    refine ⟨mark, ?_⟩
    rw [List.append_cons]
    exact ends.append run

theorem heeding_of_stop {station : Station}
    (step : Station.Step answers vigil.station (.callbackEnded kind (.returned .stop)) station)
    (unfaulted : ∀ error, ¬ Faulted (taken history) error)
    (waits : point.withReader = true ∨
      ∃ reason, point = .settled (.ended (.error (.stream (.aborted reason))))) :
    Heeding (history ++ [.did (.callbackEnded kind (.returned .stop))])
      (vigil.after (.callbackEnded kind (.returned .stop)) station) point where
  asked := by
    cases step with
    | endCallback kind ending running => exact Bool.or_true _
  unfaulted := by
    intro error faulted
    rcases faulted_did faulted with old | new
    · exact unfaulted error old
    · simp [Faulted, Deed.heard?] at new
  heeds := by
    rcases waits with withReader | ⟨reason, rfl⟩
    · cases point with
      | watching | awaiting => rfl
      | _ => cases withReader
    · rfl

/-- A callback that asks for a stop before its reader took up a failure is heeded: no other reader
is started, no failure is sent, and the monitor ends well, unless the reader crashes. Once the
result is there nobody needs to help it.

A callback that asks for a stop after a failure is not: all goes on as if it had not asked. The
result is the failure, and the monitor does not end well before it starts another reader, unless the
bot is asked to stop, too. -/
theorem stop_heeded_until_failure (reached : Reached answers retry before history vigil)
    (stopped : history = earlier ++ .did (.callbackEnded kind (.returned .stop)) :: later) :
    ((∀ error, ¬ Faulted (taken earlier) error) →
      (∀ happening ∈ later, happening.starts = false) ∧
      (∀ next, vigil.work = .done next → EndsWell history vigil) ∧
      (∀ result, vigil.result = some result →
        result = .ok () ∨ result = .error .dropped ∧ .crashed ∈ history) ∧
      (vigil.result ≠ none →
        ∃ more after, Undisturbed more ∧ Reached answers retry before (history ++ more) after ∧
          EndsWell (history ++ more) after)) ∧
    ∀ error, Faulted (taken earlier) error →
      (∃ mark, Reached answers retry before
        (earlier ++ .did (.callbackEnded kind (.returned .proceed)) :: later)
        (vigil.remarked mark)) ∧
      ((∀ happening ∈ later, happening.starts = false) →
        (∀ result, vigil.result = some result → result = .error (.transport error) ∨
          result = .error .dropped ∧ .crashed ∈ history) ∧
        (.did .stopRequested ∉ history → vigil.work ≠ .done (.ended (.ok ())))) := by
  subst stopped
  obtain ⟨moment, station, begun, step, running, run, point, stands, fits, waits⟩ :=
    reached.at_callback
  have now := begun.snoc (.did (.callbackEnded kind (.returned .stop)) station nofun step)
  have known := fits.did step
  refine ⟨fun unfaulted => ?_, fun error faulted => ?_⟩
  · have heeding := heeding_of_stop step unfaulted waits
    obtain ⟨unstarted, after, ends, fits, heeding⟩ := heeding.run run now.sound stands known
    rw [← List.append_cons] at fits heeding
    exact ⟨unstarted, fun next => heeding.endsWell ends fits,
      fun result => reached.sound.result_of_unfaulted heeding.unfaulted,
      heeding.ends reached ends fits⟩
  · refine ⟨reached.ending_unnoticed faulted (.returned .proceed), fun unstarted => ?_⟩
    have still :
        Faulted (taken (earlier ++ [.did (.callbackEnded kind (.returned .stop))])) error :=
      faulted_kept faulted rfl
    have unended : point ≠ .settled (.ended (.ok ())) := by
      rintro rfl
      rcases waits with withReader | ⟨reason, aborted⟩
      · cases withReader
      · cases aborted
    have lasting := faulted_after run still unstarted
    rw [← List.append_cons] at lasting
    refine ⟨fun result => reached.sound.result_of_faulted lasting, fun unasked ended => ?_⟩
    rw [List.append_cons] at unasked
    have belated : Belated error _ point := ⟨still, unended⟩
    obtain ⟨after, ends, belated⟩ := belated.run run now.sound stands known unstarted unasked
    exact belated.unended (Point.settled_of_work (ends.symm.trans ended))

end Law

end Vigil

namespace Station

/-- The stream has failed already when a callback asks for a stop, but the reader has not taken up
the failure. It takes up the stop first. -/
def prompt : List Deed :=
  overtime.take 15 ++ [.callbackEnded .botOnline (.returned .stop), .heard .stopRequested,
    .published .draining] ++ vacating 1 .streamClosed ++
    [.heard .drained, .streamClosed (.ok ()), .published .closed, .finished (.ok ())]

theorem prompt_run : ∃ station, Run evaluated (start Hall.start) prompt station := by
  obtain ⟨hall, free, empty, unasked, busy⟩ := busy_run
  have d1 := busy.snoc (.endCallback .botOnline (.returned .stop) List.mem_cons_self)
  have d2 := d1.snoc (.hear .stopRequested rfl rfl rfl)
  have d3 := d2.snoc (.publish .draining _ rfl rfl)
  have d4 := d3.vacates 1 rfl rfl free empty unasked
  have d5 := d4.snoc (.hear .drained rfl rfl rfl)
  have d6 := d5.snoc (.closeStream (.ok ()) _ rfl rfl)
  have d7 := d6.snoc (.publish .closed _ rfl rfl)
  exact ⟨_, d7.snoc (.finish (.ok ()) _ rfl rfl)⟩

end Station

namespace Vigil

open Station (broken prompt overtime onlineFrame Faulted)

def heeded : List Happening := missed 0 prompt (.ok ())

theorem heeded_reached :
    ∃ vigil, Reached evaluated hasty [] heeded vigil ∧ vigil.work = .done (.ended (.ok ())) := by
  obtain ⟨station, run⟩ := Station.prompt_run
  have h0 : Reached evaluated hasty [] [] (start hasty Hall.start 0) := .start 0 .nil
  have h1 := h0.misses rfl run (by simp [prompt, overtime, Station.vacating]) rfl rfl
    (.finished 0 0)
  exact ⟨_, h1, rfl⟩

/-- The monitor opens another connection, though a callback has asked for a stop. -/
def unheeded : List Happening :=
  missed 0 overtime (.error (.transport broken)) ++ pause ++
    [.answered .session (some session), .answered (.startReader session.key) 1]

theorem unheeded_reached : ∃ vigil, Reached evaluated hasty [] unheeded vigil := by
  obtain ⟨station, run⟩ := Station.overtime_run
  have h0 : Reached evaluated hasty [] [] (start hasty Hall.start 0) := .start 0 .nil
  have h1 := h0.misses rfl run (by simp [overtime]) rfl rfl (.failed 0 0 broken)
  have h2 := h1.rests rfl rfl rfl
  have h3 := h2.goes (.authorized 1 session) rfl (.session _)
  exact ⟨_, h3.goes (.opened 1 session.key 1) rfl (.startReader _)⟩

/-- The stop as it was asked for, once in time and once too late. -/
def asked : Happening := .did (.callbackEnded .botOnline (.returned .stop))

/-- The first stop is heeded, and nobody would tell that the second was asked for. -/
theorem heeded_and_unheeded :
    (∃ vigil, Reached evaluated hasty [] heeded vigil ∧
      heeded = heeded.take 17 ++ asked :: heeded.drop 18 ∧
      (∀ error, ¬ Faulted (taken (heeded.take 17)) error) ∧ EndsWell heeded vigil) ∧
    ∃ vigil mark, Reached evaluated hasty [] unheeded vigil ∧
      unheeded = unheeded.take 24 ++ asked :: unheeded.drop 25 ∧
      Faulted (taken (unheeded.take 24)) broken ∧
      Reached evaluated hasty []
        (unheeded.take 24 ++ .did (.callbackEnded .botOnline (.returned .proceed)) ::
          unheeded.drop 25) (vigil.remarked mark) := by
  refine ⟨?_, ?_⟩
  · obtain ⟨vigil, reached, ended⟩ := heeded_reached
    have whole : heeded = heeded.take 17 ++ asked :: heeded.drop 18 := rfl
    have signals : taken (heeded.take 17) = [.begun, .connected, .frame onlineFrame] := rfl
    have unfaulted : ∀ error, ¬ Faulted (taken (heeded.take 17)) error := by
      rw [signals]
      simp [Faulted]
    obtain ⟨-, ends, -⟩ := (stop_heeded_until_failure reached whole).1 unfaulted
    exact ⟨vigil, reached, whole, unfaulted, ends _ ended⟩
  · obtain ⟨vigil, reached⟩ := unheeded_reached
    have whole : unheeded = unheeded.take 24 ++ asked :: unheeded.drop 25 := rfl
    have signals : taken (unheeded.take 24) =
        [.begun, .connected, .frame onlineFrame, .failed broken] := rfl
    have faulted : Faulted (taken (unheeded.take 24)) broken := by
      rw [signals]
      simp [Faulted]
    obtain ⟨⟨mark, other⟩, -⟩ := (stop_heeded_until_failure reached whole).2 broken faulted
    exact ⟨vigil, mark, reached, whole, faulted, other⟩

/-- A callback has asked for a stop, and the monitor opens another connection nevertheless. -/
theorem reconnects_after_stop :
    ∃ vigil earlier later, Reached evaluated hasty [] unheeded vigil ∧
      unheeded = earlier ++ asked :: later ∧
      .answered (.startReader session.key) 1 ∈ later ∧ .did .stopRequested ∉ unheeded := by
  obtain ⟨vigil, reached⟩ := unheeded_reached
  refine ⟨vigil, unheeded.take 24, unheeded.drop 25, reached, rfl, ?_, ?_⟩
  · exact List.mem_of_getLast? rfl
  · simp [unheeded, missed, pause, overtime]

end Vigil
end Switchboard
