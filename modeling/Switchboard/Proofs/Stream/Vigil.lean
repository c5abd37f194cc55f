import Switchboard.Proofs.Stream.Relay
import Switchboard.Proofs.Stream.Round
import Switchboard.Proofs.Stream.Shutdown

set_option autoImplicit false

namespace Switchboard

open Hall (Answers)

def Deed.byReader : Deed → Bool
  | .party _ | .delivered _ | .stopRequested | .connected _ | .callbackEnded _ _ => false
  | _ => true

def Deed.asksStop : Deed → Bool
  | .stopRequested => true
  | _ => false

/-- What happens while a bot keeps its event stream up. -/
inductive Happening where
  | did (deed : Deed)
  /-- The reader crashes. -/
  | crashed
  /-- The clock goes on. -/
  | passed (span : Nat)
  /-- The monitor gets an answer. -/
  | answered (op : Op) (answer : op.Answer)
  /-- The monitor goes on with another round. -/
  | resumed (count : Nat)

def Happening.byMonitor : Happening → Bool
  | .answered _ _ | .resumed _ => true
  | _ => false

/-- A bot (`Bot`) that keeps its event stream up, by `monitor_events_with_retry`. The monitor starts
one reader after the other and looks at each from outside: at the state that it told last, and at
the result once it is sent. The reader, its callbacks, the clock and everybody else go on between
its steps, so a state that does not last may never be seen. -/
structure Vigil where
  /-- The hall with the last reader. -/
  station : Station
  /-- The state that the last reader told last. -/
  state : StreamState
  /-- The result of the last reader. -/
  result : Option StreamResult
  /-- The number of readers that were started. -/
  opened : Nat
  /-- The bot was asked to stop. -/
  stopping : Bool
  clock : Instant
  work : Activity Monitor.Next

namespace Vigil

open Monitor (Goes Point)

def start (retry : Retry) (hall : Hall) (clock : Instant) : Vigil :=
  ⟨Station.start hall, .closed, none, 0, false, clock, Monitor.round retry 0⟩

/-- There is a reader, and it has not crashed. -/
def Manned (vigil : Vigil) : Prop :=
  vigil.opened ≠ 0 ∧ ∀ reason, vigil.result ≠ some (.error (.aborted reason))

/-- There is no reader, or it has nothing more to do. -/
def Unmanned (vigil : Vigil) : Prop := vigil.opened = 0 ∨ vigil.station.Over

def after (vigil : Vigil) (deed : Deed) (station : Station) : Vigil :=
  { vigil with
    station := station
    state := deed.published?.getD vigil.state
    result := deed.finished?.or vigil.result
    stopping := deed.asksStop || vigil.stopping }

def relieve (vigil : Vigil) : Vigil :=
  { vigil with
    station := { Station.start vigil.station.hall with stopping := vigil.stopping }
    state := .connecting
    result := none
    opened := vigil.opened + 1 }

/-- What the monitor can be answered, and what comes of its asking. -/
inductive Answered (vigil : Vigil) : (op : Op) → op.Answer → Vigil → Prop
  | session (session : Option Session) : Answered vigil .session session vigil
  | startReader (key : String) : Answered vigil (.startReader key) vigil.opened vigil.relieve
  | reading (reader : ReaderId) (shown : vigil.state = .reading) :
      Answered vigil (.awaitReading reader) true vigil
  | closed (reader : ReaderId) (unread : vigil.state ≠ .reading)
      (ceased : vigil.state = .closed ∨ vigil.result = some (.error .dropped)) :
      Answered vigil (.awaitReading reader) false vigil
  | result (reader : ReaderId) (result : StreamResult) (sent : vigil.result = some result) :
      Answered vigil (.awaitResult reader) result vigil
  | stopRequested : Answered vigil .stopRequested vigil.stopping vigil
  | now : Answered vigil .now vigil.clock vigil
  | rested (time : Instant) (late : time ≤ vigil.clock) :
      Answered vigil (.pause time) false vigil
  | roused (time : Instant) (asked : vigil.stopping = true) :
      Answered vigil (.pause time) true vigil

/-- A step of anybody. -/
inductive Step (answers : Answers) (retry : Retry) (vigil : Vigil) : Happening → Vigil → Prop
  | did (deed : Deed) (station : Station) (manned : deed.byReader = true → vigil.Manned)
      (step : Station.Step answers vigil.station deed station) :
      Step answers retry vigil (.did deed) (vigil.after deed station)
  | crash (manned : vigil.opened ≠ 0) (unfinished : vigil.result = none) :
      Step answers retry vigil .crashed { vigil with result := some (.error .dropped) }
  | pass (span : Nat) :
      Step answers retry vigil (.passed span) { vigil with clock := vigil.clock + span }
  | answer (op : Op) (answer : op.Answer) (next : op.Answer → Activity Monitor.Next)
      (after : Vigil) (asks : vigil.work = .step op next)
      (answered : Answered vigil op answer after) :
      Step answers retry vigil (.answered op answer) { after with work := next answer }
  | resume (count : Nat) (goes_on : vigil.work = .done (.again count)) :
      Step answers retry vigil (.resumed count)
        { vigil with work := Monitor.round retry count }

/-- What happens from when a monitor is made: the hall has a history of its own by then. -/
inductive Reached (answers : Answers) (retry : Retry) (before : List Act) :
    List Happening → Vigil → Prop
  | start {hall : Hall} (clock : Instant) (reached : Hall.Reached answers before hall) :
      Reached answers retry before [] (start retry hall clock)
  | snoc {history : List Happening} {vigil next : Vigil} {happening : Happening}
      (reached : Reached answers retry before history vigil)
      (step : Step answers retry vigil happening next) :
      Reached answers retry before (history ++ [happening]) next

/-- A connection: what happened at it, and whether the monitor saw its reader reading. -/
structure Connection where
  deeds : List Deed
  seen : Bool

namespace Connection

def entered (connection : Connection) : Bool :=
  (Station.published connection.deeds).contains .reading

/-- The connection ended with an error of the transport. -/
def Failed (connection : Connection) : Prop :=
  ∃ error, .finished (.error (.transport error)) ∈ connection.deeds

end Connection

/-- What a happening means for the connections, the last one first. -/
def observe (connections : List Connection) : Happening → List Connection
  | .answered (.startReader _) _ => ⟨[], false⟩ :: connections
  | .answered (.awaitReading _) true =>
    connections.modifyHead fun connection => { connection with seen := true }
  | .did deed =>
    connections.modifyHead fun connection =>
      { connection with deeds := connection.deeds ++ [deed] }
  | _ => connections

def connections (history : List Happening) : List Connection := history.foldl observe []

def conduct (history : List Happening) : List Happening := history.filter Happening.byMonitor

/-- The number of flags before the first that is up, or of all but one. -/
def streak (flags : List Bool) : Nat :=
  min (flags.takeWhile fun flag => !flag).length (flags.length - 1)

/-- The number of connections after the last that was seen reading, or of all but the first. -/
def misses (connections : List Connection) : Nat := streak (connections.map Connection.seen)

/-- The number of connections after the last that entered the reading of frames, or of all but the
first. -/
def lapses (connections : List Connection) : Nat := streak (connections.map Connection.entered)

section Connections

variable {history : List Happening} {connection : Connection} {rest : List Connection}

theorem connections_snoc (history : List Happening) (happening : Happening) :
    connections (history ++ [happening]) = observe (connections history) happening := by
  simp [connections]

theorem connections_did (last : connections history = connection :: rest) (deed : Deed) :
    connections (history ++ [.did deed]) =
      { connection with deeds := connection.deeds ++ [deed] } :: rest := by
  rw [connections_snoc, last]
  rfl

theorem connections_seen (last : connections history = connection :: rest) (reader : ReaderId) :
    connections (history ++ [.answered (.awaitReading reader) true]) =
      { connection with seen := true } :: rest := by
  rw [connections_snoc, last]
  rfl

theorem connections_did_nil (none_yet : connections history = []) (deed : Deed) :
    connections (history ++ [.did deed]) = [] := by
  rw [connections_snoc, none_yet]
  rfl

theorem before_did {deed : Deed}
    (last : connections (history ++ [.did deed]) = connection :: rest) :
    ∃ old, connections history = old :: rest ∧
      connection = { old with deeds := old.deeds ++ [deed] } := by
  cases former : connections history with
  | nil => exact nomatch (connections_did_nil former deed).symm.trans last
  | cons old others =>
    cases (connections_did former deed).symm.trans last
    exact ⟨old, rfl, rfl⟩

theorem length_connections_did (deed : Deed) :
    (connections (history ++ [.did deed])).length = (connections history).length := by
  rw [connections_snoc]
  exact List.length_modifyHead

/-- A reader that entered the reading of frames has done so whatever else is done. -/
theorem Connection.entered_append (entered : connection.entered = true) (more : List Deed) :
    (Connection.mk (connection.deeds ++ more) connection.seen).entered = true := by
  simp only [Connection.entered, List.contains_iff_mem, Station.published, List.filterMap_append,
    ← List.cons_append] at entered ⊢
  exact List.mem_append_left _ entered

end Connections

/-- What the vigil shows agrees with what happened. -/
structure Sound (answers : Answers) (history : List Happening) (vigil : Vigil) : Prop where
  /-- The last connection is a run of a reader, which may have been asked to stop from the start. -/
  run : ∃ before deeds, Station.Reached answers before deeds vigil.station ∧
    ∀ connection rest, connections history = connection :: rest →
      deeds = connection.deeds ∨ deeds = .stopRequested :: connection.deeds
  opened : vigil.opened = (connections history).length
  idle : vigil.opened = 0 → vigil.station.callbacks = [] ∧ vigil.state = .closed
  stopping : vigil.stopping = true → .did .stopRequested ∈ history
  shown : ∀ connection rest, connections history = connection :: rest →
    (Station.published connection.deeds).getLast? = some vigil.state
  seen : ∀ connection ∈ connections history,
    connection.seen = true → connection.entered = true
  result : ∀ result, vigil.result = some result →
    (result = .error .dropped ∧ .crashed ∈ history) ∨
      vigil.station.Over ∧ (∀ reason, result ≠ .error (.aborted reason)) ∧
        ∃ connection rest, connections history = connection :: rest ∧
          .finished result ∈ connection.deeds

section Step

variable {answers : Answers} {retry : Retry} {before : List Act} {history : List Happening}
  {vigil next : Vigil} {happening : Happening} {deed : Deed} {station : Station}

theorem over_kept {first : Station} (step : Station.Step answers first deed station)
    (ceased : first.Over) : station.Over ∧ deed.byReader = false := by
  obtain ⟨closed, idle, quiet⟩ := ceased
  cases step with
  | party | deliver | requestStop | connect | endCallback => exact ⟨⟨closed, idle, quiet⟩, rfl⟩
  | hear signal still calm heard =>
    rw [closed] at heard
    cases heard
  | closed cause errand request reply pursued answered => exact nomatch quiet.symm.trans pursued
  | claimed frame errand event request pursued answered => exact nomatch quiet.symm.trans pursued
  | spawn frame errand event back request pursued answered =>
    exact nomatch quiet.symm.trans pursued
  | reopen rest hall calm upcoming step => exact nomatch idle.symm.trans upcoming
  | close cause rest errand hall calm upcoming step => exact nomatch idle.symm.trans upcoming
  | skip frame error rest calm upcoming decoded => exact nomatch idle.symm.trans upcoming
  | offer frame event rest errand hall calm upcoming decoded step =>
    exact nomatch idle.symm.trans upcoming
  | publish state rest calm upcoming => exact nomatch idle.symm.trans upcoming
  | closeStream outcome rest calm upcoming => exact nomatch idle.symm.trans upcoming
  | finish result rest calm upcoming => exact nomatch idle.symm.trans upcoming

/-- Once the result is sent the reader has nothing more to do. It is no crash. -/
theorem over_of_finish {first : Station} {deeds : List Deed} {acts : List Act}
    {result : StreamResult} (run : Station.Reached answers acts deeds first)
    (step : Station.Step answers first (.finished result) station) :
    station.Over ∧ ∀ reason, result ≠ .error (.aborted reason) := by
  cases step with
  | finish result rest quiet upcoming =>
    have course := run.disciplined.course
    rw [upcoming] at course
    obtain ⟨closed, rfl, truthful, -⟩ := course.at_finish
    refine ⟨⟨closed, rfl, quiet⟩, ?_⟩
    rintro reason rfl
    rcases truthful.2 with ok | ⟨error, transport⟩
    · cases ok
    · cases transport

theorem getLast?_published (deeds : List Deed) (deed : Deed) :
    (Station.published (deeds ++ [deed])).getLast? =
      deed.published?.or (Station.published deeds).getLast? := by
  rw [Station.published, List.filterMap_append, ← List.cons_append, List.getLast?_append]
  cases told : deed.published? <;> simp [told, Station.published]

theorem start_sound {hall : Hall} {clock : Instant} (reached : Hall.Reached answers before hall) :
    Sound answers [] (start retry hall clock) where
  run := ⟨before, [], .start reached, fun _ _ none_yet => nomatch none_yet⟩
  opened := rfl
  idle := fun _ => ⟨rfl, rfl⟩
  stopping := fun asked => nomatch asked
  shown := fun _ _ none_yet => nomatch none_yet
  seen := fun _ member => nomatch member
  result := fun _ sent => nomatch sent

namespace Sound

theorem deeds_snoc (sound : Sound answers history vigil)
    (step : Station.Step answers vigil.station deed station) :
    ∃ before deeds, Station.Reached answers before deeds station ∧
      ∀ connection rest, connections (history ++ [.did deed]) = connection :: rest →
        deeds = connection.deeds ∨ deeds = .stopRequested :: connection.deeds := by
  obtain ⟨before, deeds, run, same⟩ := sound.run
  refine ⟨before, deeds ++ [deed], run.snoc step, ?_⟩
  intro connection rest last
  obtain ⟨old, former, rfl⟩ := before_did last
  rcases same old rest former with rfl | rfl
  · exact .inl rfl
  · exact .inr rfl

theorem connection_of_manned (sound : Sound answers history vigil) (manned : vigil.opened ≠ 0) :
    ∃ connection rest, connections history = connection :: rest := by
  rw [sound.opened] at manned
  exact List.exists_cons_of_ne_nil fun none_yet => manned (by rw [none_yet, List.length_nil])

theorem did (sound : Sound answers history vigil)
    (manned : deed.byReader = true → vigil.Manned)
    (step : Station.Step answers vigil.station deed station) :
    Sound answers (history ++ [.did deed]) (vigil.after deed station) where
  run := sound.deeds_snoc step
  opened := by
    rw [length_connections_did]
    exact sound.opened
  idle := by
    intro nobody
    cases step with
    | spawn => exact absurd nobody (manned rfl).1
    | publish => exact absurd nobody (manned rfl).1
    | endCallback kind ending running =>
      rw [(sound.idle nobody).1] at running
      cases running
    | _ => exact sound.idle nobody
  stopping := by
    intro asked
    rcases Bool.or_eq_true_iff.mp asked with new | old
    · cases deed with
      | stopRequested => exact List.mem_append_right _ (List.mem_singleton_self _)
      | _ => cases new
    · exact List.mem_append_left _ (sound.stopping old)
  shown := by
    intro connection rest last
    obtain ⟨old, former, rfl⟩ := before_did last
    rw [getLast?_published, sound.shown old rest former, after]
    cases deed.published? <;> rfl
  seen := by
    intro connection member seen
    cases former : connections history with
    | nil =>
      rw [connections_did_nil former] at member
      cases member
    | cons old rest =>
      rw [connections_did former] at member
      rcases List.mem_cons.mp member with rfl | other
      · have entered := sound.seen old (by rw [former]; exact List.mem_cons_self) seen
        exact Connection.entered_append entered [deed]
      · exact sound.seen connection (by rw [former]; exact List.mem_cons_of_mem _ other) seen
  result := by
    intro result sent
    cases told : deed.finished? with
    | none =>
      rw [after, told] at sent
      rcases sound.result result sent with
        ⟨rfl, crashed⟩ | ⟨ceased, unbroken, connection, rest, last, done⟩
      · exact .inl ⟨rfl, List.mem_append_left _ crashed⟩
      · exact .inr ⟨(over_kept step ceased).1, unbroken, _, rest, connections_did last deed,
          List.mem_append_left _ done⟩
    | some value =>
      cases deed with
      | finished value =>
        cases told
        cases sent
        obtain ⟨connection, rest, last⟩ := sound.connection_of_manned (manned rfl).1
        obtain ⟨acts, deeds, run, -⟩ := sound.run
        obtain ⟨ceased, unbroken⟩ := over_of_finish run step
        exact .inr ⟨ceased, unbroken, _, rest, connections_did last _,
          List.mem_append_right _ (List.mem_singleton_self _)⟩
      | _ => cases told

theorem frame (sound : Sound answers history vigil)
    (same : connections (history ++ [happening]) = connections history)
    (station : next.station = vigil.station) (state : next.state = vigil.state)
    (result : next.result = vigil.result) (opened : next.opened = vigil.opened)
    (stopping : next.stopping = vigil.stopping) :
    Sound answers (history ++ [happening]) next where
  run := by
    rw [station, same]
    exact sound.run
  opened := by
    rw [opened, same]
    exact sound.opened
  idle := by
    rw [opened, station, state]
    exact sound.idle
  stopping := by
    rw [stopping]
    exact fun asked => List.mem_append_left _ (sound.stopping asked)
  shown := by
    rw [state, same]
    exact sound.shown
  seen := by
    rw [same]
    exact sound.seen
  result := by
    rw [result, station, same]
    intro result sent
    exact (sound.result result sent).imp_left fun ⟨dropped, crashed⟩ =>
      ⟨dropped, List.mem_append_left _ crashed⟩

theorem crash (sound : Sound answers history vigil) :
    Sound answers (history ++ [.crashed]) { vigil with result := some (.error .dropped) } := by
  have same : connections (history ++ [.crashed]) = connections history := connections_snoc _ _
  have framed : Sound answers (history ++ [.crashed]) vigil :=
    sound.frame same rfl rfl rfl rfl rfl
  refine ⟨framed.run, framed.opened, framed.idle, framed.stopping, framed.shown, framed.seen, ?_⟩
  intro result sent
  cases sent
  exact .inl ⟨rfl, List.mem_append_right _ (List.mem_singleton_self _)⟩

theorem relieve (sound : Sound answers history vigil) (key : String) (reader : ReaderId) :
    Sound answers (history ++ [.answered (.startReader key) reader]) vigil.relieve := by
  have last : connections (history ++ [.answered (.startReader key) reader]) =
      ⟨[], false⟩ :: connections history := connections_snoc _ _
  obtain ⟨before, deeds, run, -⟩ := sound.run
  have begun := Station.Reached.start run.faithful.hall
  refine ⟨?_, ?_, nofun, ?_, ?_, ?_, nofun⟩
  · rw [last]
    cases asked : vigil.stopping with
    | false =>
      refine ⟨before ++ Station.acts deeds, [], ?_, ?_⟩
      · rw [Vigil.relieve, asked]
        exact begun
      · intro connection rest same
        cases same
        exact .inl rfl
    | true =>
      -- a reader whose bot was stopped before is one that is asked to stop at once
      refine ⟨before ++ Station.acts deeds, [.stopRequested], ?_, ?_⟩
      · rw [Vigil.relieve, asked]
        exact begun.snoc .requestStop
      · intro connection rest same
        cases same
        exact .inr rfl
  · rw [last, List.length_cons, ← sound.opened]
    rfl
  · exact fun asked => List.mem_append_left _ (sound.stopping asked)
  · rw [last]
    intro connection rest same
    cases same
    rfl
  · rw [last]
    intro connection member seen
    rcases List.mem_cons.mp member with rfl | old
    · cases seen
    · exact sound.seen connection old seen

theorem sight (sound : Sound answers history vigil) (reader : ReaderId)
    (shown : vigil.state = .reading) :
    Sound answers (history ++ [.answered (.awaitReading reader) true]) vigil := by
  have manned : vigil.opened ≠ 0 := fun nobody =>
    nomatch shown.symm.trans (sound.idle nobody).2
  obtain ⟨connection, rest, last⟩ := sound.connection_of_manned manned
  have entered : connection.entered = true := by
    have told := sound.shown connection rest last
    rw [shown] at told
    exact List.contains_iff_mem.mpr (List.mem_of_getLast? told)
  have now := connections_seen last reader
  refine ⟨?_, ?_, sound.idle, ?_, ?_, ?_, ?_⟩
  · obtain ⟨before, deeds, run, same⟩ := sound.run
    refine ⟨before, deeds, run, ?_⟩
    rw [now]
    intro other others eq
    cases eq
    exact same connection rest last
  · rw [now, sound.opened, last]
    rfl
  · exact fun asked => List.mem_append_left _ (sound.stopping asked)
  · rw [now]
    intro other others eq
    cases eq
    exact sound.shown connection rest last
  · rw [now]
    intro other member seen
    rcases List.mem_cons.mp member with rfl | old
    · exact entered
    · exact sound.seen other (by rw [last]; exact List.mem_cons_of_mem _ old) seen
  · intro result sent
    rcases sound.result result sent with
      ⟨dropped, crashed⟩ | ⟨ceased, unbroken, other, others, was, done⟩
    · exact .inl ⟨dropped, List.mem_append_left _ crashed⟩
    · cases last.symm.trans was
      exact .inr ⟨ceased, unbroken, _, rest, now, done⟩

theorem answered (sound : Sound answers history vigil) {op : Op} {answer : op.Answer}
    (answered : Answered vigil op answer next) :
    Sound answers (history ++ [.answered op answer]) next := by
  cases answered with
  | startReader key => exact sound.relieve key vigil.opened
  | reading reader shown => exact sound.sight reader shown
  | _ => exact sound.frame (connections_snoc _ _) rfl rfl rfl rfl rfl

theorem step (sound : Sound answers history vigil)
    (step : Step answers retry vigil happening next) :
    Sound answers (history ++ [happening]) next := by
  cases step with
  | did deed station manned step => exact sound.did manned step
  | crash manned unfinished => exact sound.crash
  | pass span => exact sound.frame (connections_snoc _ _) rfl rfl rfl rfl rfl
  | answer op answer rest after asks answered =>
    obtain ⟨run, opened, idle, stopping, shown, seen, result⟩ := sound.answered answered
    exact ⟨run, opened, idle, stopping, shown, seen, result⟩
  | resume count goes_on => exact sound.frame (connections_snoc _ _) rfl rfl rfl rfl rfl

end Sound

/-- The deeds of the last connection are those of a run, up to a stop at its start. -/
theorem Sound.last_run {connection : Connection} {rest : List Connection}
    (sound : Sound answers history vigil) (last : connections history = connection :: rest) :
    ∃ before deeds, Station.Reached answers before deeds vigil.station ∧
      connection.deeds ⊆ deeds ∧ ∀ {α : Type} (read : Deed → Option α),
        read .stopRequested = none → deeds.filterMap read = connection.deeds.filterMap read := by
  obtain ⟨before, deeds, run, same⟩ := sound.run
  refine ⟨before, deeds, run, ?_⟩
  rcases same connection rest last with rfl | rfl
  · exact ⟨List.Subset.refl _, fun _ _ => rfl⟩
  · exact ⟨List.subset_cons_self _ _, fun read silent => List.filterMap_cons_none silent⟩

theorem Sound.closed_of_over (sound : Sound answers history vigil) (manned : vigil.opened ≠ 0)
    (ceased : vigil.station.Over) : vigil.state = .closed := by
  obtain ⟨connection, rest, last⟩ := sound.connection_of_manned manned
  obtain ⟨before, deeds, run, -, same⟩ := sound.last_run last
  have course := run.disciplined.course
  rw [ceased.1, ceased.2.1, List.append_nil] at course
  obtain ⟨prelude, result, whole, -, -, -⟩ := course.finale
  have told : (Station.published deeds).getLast? = some .closed := by
    rw [Station.published_eq, whole, List.filterMap_append, ← List.cons_append]
    exact List.getLast?_concat
  rw [Station.published, same _ rfl, ← Station.published, sound.shown connection rest last] at told
  exact Option.some.inj told

theorem Reached.sound (reached : Reached answers retry before history vigil) :
    Sound answers history vigil := by
  induction reached with
  | start clock reached => exact start_sound reached
  | snoc reached step ih => exact ih.step step

end Step

end Vigil
end Switchboard
