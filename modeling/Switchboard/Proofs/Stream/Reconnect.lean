import Switchboard.Proofs.Stream.Standing

set_option autoImplicit false

/- How often the stream is opened again. At a failure the monitor counts the connections after the
last one that it saw reading. If they are as many as the policy allows, it gives up; otherwise it
pauses for a delay that depends on the count, and opens the next connection. What it saw is not all
that was there. A reader that leaves at once may have read, and dealt with frames, before the
monitor looked at its state, and then counts as one that never read. -/

namespace Switchboard

open Hall (Answers evaluated)
open Monitor (Goes Next Point)

namespace Vigil

/-- The monitor ends with the failure, once it found that the bot was not asked to stop. -/
def GivesUp (error : TransportError) (later : List Happening) (vigil : Vigil) : Prop :=
  conduct later = [] ∨
    conduct later = [.answered .stopRequested false] ∧
      vigil.work = .done (.ended (.error (.stream (.transport error))))

def starting (session : Option Session) (reader : ReaderId) (rest : List Happening) :
    List Happening :=
  match session with
  | none => []
  | some session => .answered (.startReader session.key) reader :: rest

/-- A pause for the delay after so many failures, as far as the clock reaches, and then the start of
another reader. -/
def reopening (retry : Retry) (count : Nat) (now : Instant) (session : Option Session)
    (reader : ReaderId) (rest : List Happening) : List Happening :=
  .answered .stopRequested false :: .answered .now now ::
    match Instant.after? now (retry.delay count) with
    | none => []
    | some time =>
      .answered (.pause time) false :: .resumed (count + 1) :: .answered .session session ::
        starting session reader rest

/-- The monitor is about to open the next connection, after a pause. -/
def GoesOn (retry : Retry) (count : Nat) (later : List Happening) : Prop :=
  ∃ now session reader rest, conduct later <+: reopening retry count now session reader rest

/-- The monitor never found that the bot was asked to stop. -/
def Unasked (history : List Happening) : Prop :=
  .answered .stopRequested true ∉ history ∧ ∀ time, .answered (.pause time) true ∉ history

section Path

variable {retry : Retry} {point after : Point} {later : List Happening} {count : Nat}

theorem Unasked.mono {part : List Happening} (unasked : Unasked later) (within : part ⊆ later) :
    Unasked part :=
  ⟨fun member => unasked.1 (within member), fun time member => unasked.2 time (within member)⟩

theorem Moves.byMonitor {happening : Happening} (moves : Moves retry point happening after) :
    happening.byMonitor = true := by
  cases moves <;> rfl

theorem Path.next (path : Path retry point later after) :
    (conduct later = [] ∧ after = point) ∨
      ∃ happening middle rest, conduct later = happening :: conduct rest ∧ happening ∈ later ∧
        rest ⊆ later ∧ Moves retry point happening middle ∧ Path retry middle rest after := by
  induction path with
  | nil => exact .inl ⟨rfl, rfl⟩
  | @cons point middle after happening rest moves path ih =>
    refine .inr ⟨happening, middle, rest, ?_, List.mem_cons_self, List.subset_cons_self _ _, moves,
      path⟩
    rw [conduct, List.filter_cons_of_pos moves.byMonitor, conduct]
  | @still point after happening rest other path ih =>
    have same : conduct (happening :: rest) = conduct rest := by
      rw [conduct, List.filter_cons_of_neg (by rw [other]; exact Bool.false_ne_true), conduct]
    rw [same]
    refine ih.imp_right ?_
    rintro ⟨first, next, last, whole, member, within, moves, path⟩
    exact ⟨first, next, last, whole, List.mem_cons_of_mem _ member,
      List.subset_cons_of_subset _ within, moves, path⟩

theorem path_of_final {next : Next} (path : Path retry (.settled next) later after)
    (final : next.isFinal = true) : conduct later = [] ∧ after = .settled next := by
  rcases path.next with stays | ⟨happening, middle, rest, -, -, -, moves, -⟩
  · exact stays
  · cases moves with
    | answered op answer goes => cases goes
    | resumed count => cases final

theorem path_of_opening {key : String} (path : Path retry (.opening count key) later after) :
    ∃ reader rest, conduct later <+: .answered (.startReader key) reader :: rest := by
  rcases path.next with ⟨idle, -⟩ | ⟨happening, middle, rest, whole, -, -, moves, -⟩
  · rw [idle]
    exact ⟨0, [], List.nil_prefix⟩
  · obtain ⟨op, answer, goes⟩ := moves
    cases goes
    rw [whole]
    exact ⟨_, conduct rest, List.prefix_refl _⟩

theorem path_of_beginning (path : Path retry (.beginning count) later after) :
    ∃ session reader rest,
      conduct later <+: .answered .session session :: starting session reader rest := by
  rcases path.next with ⟨idle, -⟩ | ⟨happening, middle, others, whole, -, -, moves, path⟩
  · rw [idle]
    exact ⟨none, 0, [], List.nil_prefix⟩
  obtain ⟨op, answer, goes⟩ := moves
  rw [whole]
  cases goes with
  | unauthorized count =>
    rw [(path_of_final path rfl).1]
    exact ⟨none, 0, [], List.prefix_refl _⟩
  | authorized count session =>
    obtain ⟨reader, rest, follows⟩ := path_of_opening path
    exact ⟨some session, reader, rest, (List.prefix_cons_inj _).mpr follows⟩

theorem path_of_resuming (path : Path retry (.settled (.again count)) later after) :
    ∃ session reader rest,
      conduct later <+:
        .resumed count :: .answered .session session :: starting session reader rest := by
  rcases path.next with ⟨idle, -⟩ | ⟨happening, middle, others, whole, -, -, moves, path⟩
  · rw [idle]
    exact ⟨none, 0, [], List.nil_prefix⟩
  cases moves with
  | answered op answer goes => cases goes
  | resumed count =>
    obtain ⟨session, reader, rest, follows⟩ := path_of_beginning path
    rw [whole]
    exact ⟨session, reader, rest, (List.prefix_cons_inj _).mpr follows⟩

theorem path_of_pausing {time : Instant} (path : Path retry (.pausing count time) later after)
    (unasked : Unasked later) :
    ∃ session reader rest,
      conduct later <+: .answered (.pause time) false :: .resumed (count + 1) ::
        .answered .session session :: starting session reader rest := by
  rcases path.next with ⟨idle, -⟩ | ⟨happening, middle, others, whole, member, -, moves, path⟩
  · rw [idle]
    exact ⟨none, 0, [], List.nil_prefix⟩
  obtain ⟨op, answer, goes⟩ := moves
  cases goes with
  | roused count time => exact absurd member (unasked.2 time)
  | rested count time =>
    obtain ⟨session, reader, rest, follows⟩ := path_of_resuming path
    rw [whole]
    exact ⟨session, reader, rest, (List.prefix_cons_inj _).mpr follows⟩

theorem path_of_timing (path : Path retry (.timing count) later after)
    (unasked : Unasked later) :
    ∃ now session reader rest,
      .answered .stopRequested false :: conduct later <+:
        reopening retry count now session reader rest := by
  rcases path.next with ⟨idle, -⟩ | ⟨happening, middle, others, whole, -, within, moves, path⟩
  · rw [idle]
    exact ⟨0, none, 0, [], (List.prefix_cons_inj _).mpr List.nil_prefix⟩
  obtain ⟨op, answer, goes⟩ := moves
  rw [whole]
  cases goes with
  | stranded count now unreached =>
    rw [(path_of_final path rfl).1]
    refine ⟨now, none, 0, [], ?_⟩
    simp [reopening, unreached]
  | pauses count now time reached =>
    obtain ⟨session, reader, rest, follows⟩ := path_of_pausing path (unasked.mono within)
    refine ⟨now, session, reader, rest, ?_⟩
    rw [reopening, reached]
    exact (List.prefix_cons_inj _).mpr ((List.prefix_cons_inj _).mpr follows)

/-- Without a stop a failure that is not the last is followed by a pause and another connection. -/
theorem goesOn_of_judging {error : TransportError}
    (path : Path retry (.judging count error) later after) (unasked : Unasked later)
    (few : count < retry.maxRetries) : GoesOn retry count later := by
  rcases path.next with ⟨idle, -⟩ | ⟨happening, middle, others, whole, member, within, moves, path⟩
  · rw [GoesOn, idle]
    exact ⟨0, none, 0, [], List.nil_prefix⟩
  obtain ⟨op, answer, goes⟩ := moves
  cases goes with
  | stopped count error => exact absurd member unasked.1
  | gaveUp count error enough => exact absurd enough (Nat.not_le.mpr few)
  | retries count error few =>
    rw [GoesOn, whole]
    exact path_of_timing path (unasked.mono within)

theorem givesUp_of_judging {error : TransportError} {vigil : Vigil}
    (path : Path retry (.judging count error) later after) (unasked : Unasked later)
    (enough : retry.maxRetries ≤ count) (ends : vigil.work = after.work retry) :
    GivesUp error later vigil := by
  rcases path.next with ⟨idle, -⟩ | ⟨happening, middle, others, whole, member, -, moves, path⟩
  · exact .inl idle
  obtain ⟨op, answer, goes⟩ := moves
  cases goes with
  | stopped count error => exact absurd member unasked.1
  | retries count error few => exact absurd enough (Nat.not_le.mpr few)
  | gaveUp count error enough =>
    obtain ⟨idle, rfl⟩ := path_of_final path rfl
    rw [idle] at whole
    exact .inr ⟨whole, ends⟩

theorem Path.withoutReader (path : Path retry point later after)
    (unstarted : ∀ key reader, .answered (.startReader key) reader ∉ later)
    (without : point.withReader = false) : after.withReader = false := by
  induction path with
  | nil => exact without
  | still other path ih =>
    exact ih (fun key reader member => unstarted key reader (List.mem_cons_of_mem _ member)) without
  | cons moves path ih =>
    refine ih (fun key reader member => unstarted key reader (List.mem_cons_of_mem _ member)) ?_
    cases moves with
    | resumed count => rfl
    | answered op answer goes =>
      cases goes with
      | opened count key reader => exact absurd List.mem_cons_self (unstarted key reader)
      | seen | unseen => cases without
      | _ => rfl

end Path

section Law

variable {answers : Answers} {retry : Retry} {before : List Act} {history : List Happening}
  {vigil next : Vigil}

theorem Reached.unasked (reached : Reached answers retry before history vigil)
    (unstopped : .did .stopRequested ∉ history) : Unasked history := by
  induction reached with
  | start => exact ⟨nofun, nofun⟩
  | @snoc history vigil next happening reached step ih =>
    have so_far := ih fun member => unstopped (List.mem_append_left _ member)
    have calm : vigil.stopping ≠ true := fun asked =>
      unstopped (List.mem_append_left _ (reached.sound.stopping asked))
    refine ⟨fun member => ?_, fun time member => ?_⟩
    · rcases List.mem_append.mp member with old | new
      · exact so_far.1 old
      · cases List.mem_singleton.mp new
        cases step with
        | answer op answer rest after asks answered =>
          generalize told : (true : Op.Answer .stopRequested) = answer at answered
          cases answered
          exact calm told.symm
    · rcases List.mem_append.mp member with old | new
      · exact so_far.2 time old
      · cases List.mem_singleton.mp new
        cases step with
        | answer op answer rest after asks answered =>
          cases answered with
          | roused time asked => exact calm asked

theorem lapses_le_misses {connections : List Connection}
    (seen : ∀ connection ∈ connections, connection.seen = true → connection.entered = true) :
    lapses connections ≤ misses connections := by
  -- what was seen did read, so what did not read was not seen
  have fewer : ((connections.map Connection.entered).takeWhile fun flag => !flag).length ≤
      ((connections.map Connection.seen).takeWhile fun flag => !flag).length := by
    induction connections with
    | nil => exact Nat.le_refl _
    | cons connection rest ih =>
      have others := ih fun other member => seen other (List.mem_cons_of_mem _ member)
      simp only [List.map_cons, List.takeWhile_cons]
      cases entered : connection.entered with
      | true => exact Nat.zero_le _
      | false =>
        cases saw : connection.seen with
        | true => exact nomatch entered.symm.trans (seen connection List.mem_cons_self saw)
        | false => exact Nat.succ_le_succ others
  rw [lapses, misses, streak, streak, List.length_map, List.length_map]
  omega

/-- If the monitor looked in time, it counts the connections that did not come to reading. -/
theorem lapses_eq_misses {connections : List Connection}
    (same : ∀ connection ∈ connections, connection.seen = true ↔ connection.entered = true) :
    lapses connections = misses connections := by
  rw [lapses, misses]
  refine congrArg streak (List.map_congr_left fun connection member => ?_)
  exact Bool.eq_iff_iff.mpr (same connection member).symm

/-- At a failure all connections have failed, and the monitor judges by how many it missed. -/
theorem Reached.at_failure {earlier later : List Happening} {reader : ReaderId}
    {error : TransportError}
    (reached : Reached answers retry before
      (earlier ++ .answered (.awaitResult reader) (.error (.transport error)) :: later) vigil) :
    (∃ connection rest, connections earlier = connection :: rest ∧ reader = rest.length ∧
      .finished (.error (.transport error)) ∈ connection.deeds ∧ AllFailed rest) ∧
    (∀ connection ∈ connections earlier,
      connection.seen = true → connection.entered = true) ∧
    ∃ after : Point, vigil.work = after.work retry ∧
      Fits (earlier ++ .answered (.awaitResult reader) (.error (.transport error)) :: later) vigil
        after ∧
      Path retry (.judging (misses (connections earlier)) error) later after := by
  obtain ⟨moment, begun, run⟩ := reached.split
  obtain ⟨point, stands, fits⟩ := begun.stands
  cases run with
  | cons step run =>
    obtain ⟨middle, begins, known, ⟨op, answer, goes⟩ | ⟨other, -⟩⟩ :=
      step.point begun.sound stands fits
    · obtain ⟨after, ends, fit, path⟩ := run.path (begun.sound.step step) begins known
      rw [← List.append_cons] at fit
      cases goes
      obtain ⟨connection, rest, last, rfl, failed, rfl⟩ := fits
      obtain ⟨same, others, again, -, done, -, -⟩ := known
      rw [connections_snoc] at again
      cases last.symm.trans again
      rw [last]
      exact ⟨⟨connection, rest, rfl, rfl, done, failed⟩, last ▸ begun.sound.seen,
        after, ends, fit, path⟩
    · cases other

/-- Whatever the order of things, if the bot is not asked to stop, then at a failure the monitor has
counted the connections after the last that it saw reading, or all before this one. It ends with the
failure if they are as many as is allowed. Otherwise it pauses for the delay that belongs to this
number and opens the next connection. Nobody needs to help it to either.

A connection that it saw reading did read; so it counts no fewer than those after the last that
read, and as many if it looked in time. -/
theorem reconnects_by_sight (reached : Reached answers retry before history vigil)
    (unstopped : .did .stopRequested ∉ history) {earlier later : List Happening}
    {reader : ReaderId} {error : TransportError}
    (failed : history =
      earlier ++ .answered (.awaitResult reader) (.error (.transport error)) :: later) :
    (∃ connection rest, connections earlier = connection :: rest ∧ reader = rest.length ∧
      .finished (.error (.transport error)) ∈ connection.deeds ∧ AllFailed rest) ∧
    (retry.maxRetries ≤ misses (connections earlier) → GivesUp error later vigil) ∧
    (misses (connections earlier) < retry.maxRetries →
      GoesOn retry (misses (connections earlier)) later) ∧
    (∃ more after, Undisturbed more ∧ Reached answers retry before (history ++ more) after ∧
      Decided (later ++ more) after) ∧
    (∀ connection ∈ connections earlier,
      connection.seen = true → connection.entered = true) ∧
    lapses (connections earlier) ≤ misses (connections earlier) ∧
    ((∀ connection ∈ connections earlier, connection.entered = true → connection.seen = true) →
      lapses (connections earlier) = misses (connections earlier)) := by
  subst failed
  have unasked : Unasked later := by
    refine (reached.unasked unstopped).mono fun happening member => ?_
    exact List.mem_append_right _ (List.mem_cons_of_mem _ member)
  obtain ⟨last, seen, after, ends, fits, path⟩ := reached.at_failure
  refine ⟨last, fun enough => givesUp_of_judging path unasked enough ends,
    goesOn_of_judging path unasked, ?_, seen, lapses_le_misses seen, ?_⟩
  · by_cases started : ∃ key reader, .answered (.startReader key) reader ∈ later
    · refine ⟨[], vigil, undisturbed_nil, ?_, .inl ?_⟩
      · rw [List.append_nil]
        exact reached
      · rw [List.append_nil]
        exact started
    · have alone : after.withReader = false :=
        path.withoutReader (fun key reader member => started ⟨key, reader, member⟩) rfl
      obtain ⟨more, last, run, undisturbed, decided⟩ := reached.getsOn ends fits
        (fun waits => nomatch alone.symm.trans waits)
      refine ⟨more, last, undisturbed, reached.append run, ?_⟩
      exact decided.imp_left fun ⟨key, reader, opened⟩ =>
        ⟨key, reader, List.mem_append_right _ opened⟩
  · intro looked
    exact lapses_eq_misses fun connection member =>
      ⟨seen connection member, looked connection member⟩

end Law

end Vigil

namespace Station

/-- A reader fails at once after it has begun to read, and nobody waits in the queue. -/
def cut (errand : ErrandId) : List Deed :=
  [.heard .begun, .reopened, .connected (.ok ()), .heard .connected, .published .reading,
    .delivered (.failed broken), .heard (.failed broken), .published .draining] ++
  vacating errand (.streamFailed broken) ++
  [.heard .drained, .streamClosed (.ok ()), .published .closed,
    .finished (.error (.transport broken))]

theorem cut_run {answers : Answers} {hall : Hall} (errand : ErrandId)
    (free : hall.lock = .free) (empty : hall.queue.slots = [])
    (unasked : hall.errands errand = .unasked) :
    Run answers (start hall) (cut errand)
      ⟨{ hall with queue := hall.queue.reopen }.vacated errand (.streamFailed broken), .closed, [],
        none, [], some (.ok ()), false, []⟩ := by
  have d0 : Run answers (start hall) [] _ := .nil
  have d1 := d0.snoc (.hear .begun rfl rfl rfl)
  have d2 := d1.snoc (.reopen _ _ rfl rfl (.reopen free))
  have d3 := d2.snoc (.connect (.ok ()) rfl)
  have d4 := d3.snoc (.hear .connected rfl rfl rfl)
  have d5 := d4.snoc (.publish .reading _ rfl rfl)
  have d6 := d5.snoc (.deliver (.failed broken) rfl)
  have d7 := d6.snoc (.hear (.failed broken) rfl rfl rfl)
  have d8 := d7.snoc (.publish .draining _ rfl rfl)
  have d9 := d8.vacates errand rfl rfl free empty unasked
  have d10 := d9.snoc (.hear .drained rfl rfl rfl)
  have d11 := d10.snoc (.closeStream (.ok ()) _ rfl rfl)
  have d12 := d11.snoc (.publish .closed _ rfl rfl)
  exact d12.snoc (.finish (.error (.transport broken)) _ rfl rfl)

end Station

namespace Vigil

open Station (broken cut)

/-- A policy that allows one failure. -/
def hasty : Retry := ⟨1, .ofMillis 100, .ofSeconds 1, 2⟩

theorem hasty_delay : Instant.after? 0 (hasty.delay 0) = some 100 := by decide

def session : Session := ⟨"key", ⟨10⟩⟩

/-- A connection of which the monitor learns nothing but the result. -/
def missed (reader : ReaderId) (deeds : List Deed) (result : StreamResult) : List Happening :=
  [.answered .session (some session), .answered (.startReader session.key) reader] ++
    deeds.map .did ++
    [.answered (.awaitReading reader) false, .answered (.awaitResult reader) result]

/-- The monitor may look at its reader no earlier than when that is closed. -/
theorem Reached.misses {answers : Answers} {retry : Retry} {before : List Act}
    {history : List Happening} {vigil : Vigil} {count : Nat} {deeds : List Deed}
    {station : Station} {result : StreamResult} {after : Point}
    (reached : Reached answers retry before history vigil)
    (stands : vigil.work = (Point.beginning count).work retry)
    (run : Station.Run answers vigil.relieve.station deeds station)
    (unbroken : ∀ reason, .finished (.error (.aborted reason)) ∉ deeds)
    (closed : (vigil.relieve.having deeds station).state = .closed)
    (sent : (vigil.relieve.having deeds station).result = some result)
    (goes : Goes retry (.awaiting count vigil.opened) (.awaitResult vigil.opened) result after) :
    Reached answers retry before (history ++ missed vigil.opened deeds result)
      { vigil.relieve.having deeds station with work := after.work retry } := by
  have h1 := reached.goes (.authorized count session) stands (.session _)
  have h2 := h1.goes (.opened count session.key vigil.opened) rfl (.startReader _)
  have h3 := h2.works (Nat.succ_ne_zero _) rfl run unbroken
  have unread : (vigil.relieve.having deeds station).state ≠ .reading := by
    rw [closed]
    exact StreamState.noConfusion
  have h4 := h3.goes (.unseen count vigil.opened) rfl (.closed _ unread (.inl closed))
  have h5 := h4.goes goes rfl (.result _ _ sent)
  simp only [List.append_assoc, List.cons_append, List.nil_append] at h5
  rw [missed, List.append_assoc]
  exact h5

def pause : List Happening :=
  [.answered .stopRequested false, .answered .now 0, .passed 100, .answered (.pause 100) false,
    .resumed 1]

theorem Reached.rests {answers : Answers} {before : List Act} {history : List Happening}
    {vigil : Vigil} {error : TransportError}
    (reached : Reached answers hasty before history vigil)
    (stands : vigil.work = (Point.judging 0 error).work hasty) (early : vigil.clock = 0)
    (unasked : vigil.stopping = false) :
    Reached answers hasty before (history ++ pause)
      { vigil with clock := 100, work := (Point.beginning 1).work hasty } := by
  obtain ⟨station, state, result, opened, stopping, clock, work⟩ := vigil
  subst early unasked
  have h1 := reached.goes (.retries 0 error (by decide)) stands .stopRequested
  have h2 := h1.goes (.pauses 0 0 100 hasty_delay) rfl .now
  have h3 := h2.snoc (.pass 100)
  have h4 := h3.goes (.rested 0 100) rfl (.rested 100 (Nat.le_refl 100))
  have h5 := h4.snoc (.resume 1 rfl)
  simp only [List.append_assoc, List.cons_append, List.nil_append] at h5
  exact h5

/-- The monitor misses one reader, and then another one. -/
def flicker : List Happening :=
  missed 0 (cut 0) (.error (.transport broken)) ++ pause ++
    missed 1 (cut 1) (.error (.transport broken)) ++ [.answered .stopRequested false]

theorem flicker_reached :
    ∃ vigil, Reached evaluated hasty [] flicker vigil ∧
      vigil.work = .done (.ended (.error (.stream (.transport broken)))) := by
  have unbroken : ∀ errand reason, .finished (.error (.aborted reason)) ∉ cut errand := by
    simp [cut, Station.vacating]
  have h0 : Reached evaluated hasty [] [] (start hasty Hall.start 0) := .start 0 .nil
  have h1 := h0.misses rfl (Station.cut_run 0 rfl rfl rfl) (unbroken 0) rfl rfl
    (.failed 0 0 broken)
  have h2 := h1.rests rfl rfl rfl
  have h3 := h2.misses rfl (Station.cut_run 1 rfl rfl rfl) (unbroken 1) rfl rfl
    (.failed 1 1 broken)
  have h4 := h3.goes (.gaveUp 1 broken (by decide)) rfl .stopRequested
  exact ⟨_, h4, rfl⟩

theorem flicker_unstopped : .did .stopRequested ∉ flicker := by
  simp [flicker, missed, pause, cut, Station.vacating]

/-- At the first failure the monitor goes on, and at the second it gives up. -/
theorem flicker_reconnects :
    ∃ vigil, Reached evaluated hasty [] flicker vigil ∧ .did .stopRequested ∉ flicker ∧
      misses (connections (flicker.take 20)) = 0 ∧ GoesOn hasty 0 (flicker.drop 21) ∧
      misses (connections (flicker.take 46)) = 1 ∧ GivesUp broken (flicker.drop 47) vigil := by
  obtain ⟨vigil, reached, -⟩ := flicker_reached
  have first : flicker = flicker.take 20 ++
      .answered (.awaitResult 0) (.error (.transport broken)) :: flicker.drop 21 := rfl
  have second : flicker = flicker.take 46 ++
      .answered (.awaitResult 1) (.error (.transport broken)) :: flicker.drop 47 := rfl
  obtain ⟨-, -, goes_on, -⟩ := reconnects_by_sight reached flicker_unstopped first
  obtain ⟨-, gives_up, -⟩ := reconnects_by_sight reached flicker_unstopped second
  exact ⟨vigil, reached, flicker_unstopped, rfl, goes_on Nat.one_pos, rfl,
    gives_up (Nat.le_refl 1)⟩

/-- Both readers read, so no failure came before the last that read; yet the monitor gives up,
though its policy allows one. -/
theorem gives_up_after_reading :
    ∃ vigil, Reached evaluated hasty [] flicker vigil ∧ .did .stopRequested ∉ flicker ∧
      (∀ connection ∈ connections flicker, connection.Failed ∧ connection.entered = true) ∧
      lapses (connections flicker) < hasty.maxRetries ∧
      vigil.work = .done (.ended (.error (.stream (.transport broken)))) := by
  obtain ⟨vigil, reached, ends⟩ := flicker_reached
  refine ⟨vigil, reached, flicker_unstopped, ?_, Nat.one_pos, ends⟩
  intro connection member
  have both : connections flicker = [⟨cut 1, false⟩, ⟨cut 0, false⟩] := rfl
  rw [both] at member
  simp only [List.mem_cons, List.not_mem_nil, or_false] at member
  rcases member with rfl | rfl <;>
    exact ⟨⟨broken, by simp [cut, Station.vacating]⟩, rfl⟩

end Vigil
end Switchboard
