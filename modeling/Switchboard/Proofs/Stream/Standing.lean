import Switchboard.Proofs.Stream.Vigil

set_option autoImplicit false

namespace Switchboard

open Hall (Answers)
open Monitor (Goes Next Point)

namespace Vigil

def upcoming : List Connection → Nat
  | [] => 0
  | connection :: rest => misses (connection :: rest) + 1

section Streak

theorem streak_up (flags : List Bool) : streak (true :: flags) = 0 := by
  simp [streak]

theorem streak_down (flags : List Bool) :
    streak (false :: flags) = if flags = [] then 0 else streak flags + 1 := by
  cases flags with
  | nil => rfl
  | cons flag rest =>
    simp only [streak, Bool.not_false, List.takeWhile_cons_of_pos, List.length_cons,
      Nat.add_sub_cancel, reduceCtorEq, if_false, Nat.add_min_add_right]

variable {connection : Connection} {rest : List Connection}

theorem misses_seen (seen : connection.seen = true) : misses (connection :: rest) = 0 := by
  rw [misses, List.map_cons, seen, streak_up]

theorem misses_unseen (unseen : connection.seen = false) :
    misses (connection :: rest) = upcoming rest := by
  rw [misses, List.map_cons, unseen, streak_down]
  cases rest with
  | nil => rfl
  | cons other rest => rw [if_neg (by simp), upcoming, misses]

theorem misses_did (history : List Happening) (deed : Deed) :
    misses (connections (history ++ [.did deed])) = misses (connections history) := by
  rw [misses, misses, connections_snoc]
  cases connections history <;> rfl

theorem upcoming_did (history : List Happening) (deed : Deed) :
    upcoming (connections (history ++ [.did deed])) = upcoming (connections history) := by
  have same := misses_did history deed
  cases former : connections history with
  | nil => rw [connections_did_nil former]
  | cons connection rest =>
    rw [connections_did former, former] at same
    rw [connections_did former, upcoming, upcoming, same]

end Streak

/-- Every connection ended with an error of the transport. -/
def AllFailed (connections : List Connection) : Prop :=
  ∀ connection ∈ connections, connection.Failed

/-- What is known at a point of a round. -/
def Fits (history : List Happening) (vigil : Vigil) : Point → Prop
  | .beginning count | .opening count _ | .settled (.again count) =>
    count = upcoming (connections history) ∧ AllFailed (connections history) ∧ vigil.Unmanned
  | .watching count reader => ∃ connection rest, connections history = connection :: rest ∧
    reader = rest.length ∧ AllFailed rest ∧ connection.seen = false ∧ count = upcoming rest
  | .awaiting count reader => ∃ connection rest, connections history = connection :: rest ∧
    reader = rest.length ∧ AllFailed rest ∧ count = misses (connection :: rest)
  | .judging count error => ∃ connection rest, connections history = connection :: rest ∧
    AllFailed rest ∧ .finished (.error (.transport error)) ∈ connection.deeds ∧
      count = misses (connection :: rest) ∧ vigil.station.Over
  | .timing count | .pausing count _ =>
    count + 1 = upcoming (connections history) ∧ AllFailed (connections history) ∧
      vigil.station.Over
  | .settled .crashed => vigil.Unmanned
  | .settled (.ended result) =>
    (vigil.Unmanned ∧ ∀ reason, result ≠ .error (.stream (.aborted reason))) ∨
      result = .error (.stream .dropped) ∧ .crashed ∈ history

/-- What the monitor does leads from one point to another. -/
inductive Moves (retry : Retry) : Point → Happening → Point → Prop
  | answered {point after : Point} (op : Op) (answer : op.Answer)
      (goes : Goes retry point op answer after) :
      Moves retry point (.answered op answer) after
  | resumed (count : Nat) :
      Moves retry (.settled (.again count)) (.resumed count) (.beginning count)

section Point

variable {answers : Answers} {retry : Retry} {before : List Act} {history : List Happening}
  {vigil next : Vigil} {happening : Happening} {deed : Deed} {station : Station}

theorem unmanned_did (step : Station.Step answers vigil.station deed station)
    (unmanned : vigil.Unmanned) : (vigil.after deed station).Unmanned :=
  unmanned.imp_right fun ceased => (over_kept step ceased).1

theorem failed_append {connection : Connection} (failed : connection.Failed) (more : List Deed) :
    (Connection.mk (connection.deeds ++ more) connection.seen).Failed := by
  obtain ⟨error, done⟩ := failed
  exact ⟨error, List.mem_append_left _ done⟩

theorem allFailed_did (failed : AllFailed (connections history)) (deed : Deed) :
    AllFailed (connections (history ++ [.did deed])) := by
  cases former : connections history with
  | nil =>
    rw [connections_did_nil former]
    exact fun _ member => nomatch member
  | cons connection rest =>
    rw [former] at failed
    rw [connections_did former]
    intro other member
    rcases List.mem_cons.mp member with rfl | old
    · exact failed_append (failed connection List.mem_cons_self) [deed]
    · exact failed other (List.mem_cons_of_mem _ old)

theorem Fits.did {point : Point} (fits : Fits history vigil point)
    (step : Station.Step answers vigil.station deed station) :
    Fits (history ++ [.did deed]) (vigil.after deed station) point := by
  cases point with
  | beginning count | opening count =>
    obtain ⟨rfl, failed, unmanned⟩ := fits
    exact ⟨(upcoming_did history deed).symm, allFailed_did failed deed, unmanned_did step unmanned⟩
  | watching count reader =>
    obtain ⟨connection, rest, last, number, failed, unseen, rfl⟩ := fits
    exact ⟨_, rest, connections_did last deed, number, failed, unseen, rfl⟩
  | awaiting count reader =>
    obtain ⟨connection, rest, last, number, failed, rfl⟩ := fits
    exact ⟨_, rest, connections_did last deed, number, failed, rfl⟩
  | judging count error =>
    obtain ⟨connection, rest, last, failed, done, rfl, ceased⟩ := fits
    exact ⟨_, rest, connections_did last deed, failed, List.mem_append_left _ done, rfl,
      (over_kept step ceased).1⟩
  | timing count | pausing count =>
    obtain ⟨same, failed, ceased⟩ := fits
    rw [← upcoming_did history deed] at same
    exact ⟨same, allFailed_did failed deed, (over_kept step ceased).1⟩
  | settled what =>
    cases what with
    | again count =>
      obtain ⟨rfl, failed, unmanned⟩ := fits
      exact ⟨(upcoming_did history deed).symm, allFailed_did failed deed,
        unmanned_did step unmanned⟩
    | crashed => exact unmanned_did step fits
    | ended result =>
      exact fits.imp (And.imp_left (unmanned_did step)) fun ⟨dropped, crashed⟩ =>
        ⟨dropped, List.mem_append_left _ crashed⟩

theorem Fits.frame {point : Point} (fits : Fits history vigil point)
    (same : connections (history ++ [happening]) = connections history)
    (station : next.station = vigil.station) (opened : next.opened = vigil.opened) :
    Fits (history ++ [happening]) next point := by
  have unmanned : next.Unmanned ↔ vigil.Unmanned := by
    rw [Unmanned, Unmanned, station, opened]
  cases point with
  | settled what =>
    cases what with
    | ended result =>
      exact fits.imp (And.imp_left unmanned.mpr) fun ⟨dropped, crashed⟩ =>
        ⟨dropped, List.mem_append_left _ crashed⟩
    | _ => simpa only [Fits, same, unmanned] using fits
  | _ => simpa only [Fits, same, unmanned, station] using fits

theorem Answered.same {op : Op} {answer : op.Answer} (answered : Answered vigil op answer next)
    (other : ∀ key, op ≠ .startReader key) : next = vigil := by
  cases answered with
  | startReader key => exact absurd rfl (other key)
  | _ => rfl

theorem Fits.goes {point after : Point} {op : Op} {answer : op.Answer}
    (fits : Fits history vigil point) (sound : Sound answers history vigil)
    (goes : Goes retry point op answer after) (answered : Answered vigil op answer next) :
    Fits (history ++ [.answered op answer]) next after := by
  cases goes with
  | unauthorized count =>
    cases answered
    exact .inl ⟨fits.2.2, nofun⟩
  | authorized count session =>
    cases answered
    exact fits.frame (connections_snoc _ _) rfl rfl
  | opened count key =>
    cases answered
    exact ⟨_, _, connections_snoc _ _, sound.opened, fits.2.1, rfl, fits.1⟩
  | seen count reader =>
    cases answered
    obtain ⟨connection, rest, last, number, failed, -, -⟩ := fits
    exact ⟨_, rest, connections_seen last reader, number, failed, (misses_seen rfl).symm⟩
  | unseen count reader =>
    cases answered
    obtain ⟨connection, rest, last, number, failed, unseen, rfl⟩ := fits
    exact ⟨connection, rest, (connections_snoc _ _).trans last, number, failed,
      (misses_unseen unseen).symm⟩
  | finished count reader =>
    cases answered with
    | result reader result sent =>
      rcases sound.result _ sent with ⟨dropped, -⟩ | ⟨ceased, -⟩
      · cases dropped
      · exact .inl ⟨.inr ceased, nofun⟩
  | failed count reader error =>
    cases answered with
    | result reader result sent =>
      obtain ⟨connection, rest, last, -, failed, rfl⟩ := fits
      rcases sound.result _ sent with ⟨dropped, -⟩ | ⟨ceased, -, other, others, was, done⟩
      · cases dropped
      · cases last.symm.trans was
        exact ⟨connection, rest, (connections_snoc _ _).trans last, failed, done, rfl, ceased⟩
  | aborted count reader reason =>
    cases answered with
    | result reader result sent =>
      rcases sound.result _ sent with ⟨dropped, crashed⟩ | ⟨-, unbroken, -⟩
      · cases dropped
        exact .inr ⟨rfl, List.mem_append_left _ crashed⟩
      · exact absurd rfl (unbroken reason)
  | stopped count error =>
    cases answered.same nofun
    obtain ⟨-, -, -, -, -, -, ceased⟩ := fits
    exact .inl ⟨.inr ceased, nofun⟩
  | gaveUp count error enough =>
    cases answered.same nofun
    obtain ⟨-, -, -, -, -, -, ceased⟩ := fits
    exact .inl ⟨.inr ceased, nofun⟩
  | retries count error few =>
    -- from here on the last connection is one of those that failed
    cases answered.same nofun
    obtain ⟨connection, rest, last, failed, done, rfl, ceased⟩ := fits
    refine ⟨?_, ?_, ceased⟩
    · rw [connections_snoc]
      simp only [observe, last, upcoming]
    · rw [connections_snoc]
      simp only [observe, last]
      intro other member
      rcases List.mem_cons.mp member with rfl | old
      · exact ⟨error, done⟩
      · exact failed other old
  | stranded count now unreached =>
    cases answered.same nofun
    exact .inr fits.2.2
  | pauses count now time within =>
    cases answered.same nofun
    exact fits.frame (connections_snoc _ _) rfl rfl
  | roused count time =>
    cases answered.same nofun
    exact .inl ⟨.inr fits.2.2, nofun⟩
  | rested count time =>
    cases answered.same nofun
    rw [Fits, connections_snoc]
    exact ⟨fits.1, fits.2.1, .inr fits.2.2⟩

/-- A step leads the monitor from a point to the next, or leaves it where it stands. -/
theorem Step.point {point : Point} (step : Step answers retry vigil happening next)
    (sound : Sound answers history vigil) (stands : vigil.work = point.work retry)
    (fits : Fits history vigil point) :
    ∃ after : Point, next.work = after.work retry ∧ Fits (history ++ [happening]) next after ∧
      (Moves retry point happening after ∨ happening.byMonitor = false ∧ after = point) := by
  cases step with
  | did deed station manned step => exact ⟨point, stands, fits.did step, .inr ⟨rfl, rfl⟩⟩
  | crash manned unfinished =>
    exact ⟨point, stands, fits.frame (connections_snoc _ _) rfl rfl, .inr ⟨rfl, rfl⟩⟩
  | pass span => exact ⟨point, stands, fits.frame (connections_snoc _ _) rfl rfl, .inr ⟨rfl, rfl⟩⟩
  | answer op answer rest middle asks answered =>
    obtain ⟨after, goes, leads⟩ := point.goes (stands.symm.trans asks) answer
    have known := fits.goes sound goes answered
    refine ⟨after, leads, ?_, .inl (.answered op answer goes)⟩
    cases after with
    | settled what => cases what <;> exact known
    | _ => exact known
  | resume count goes_on =>
    obtain rfl := Point.settled_of_work (stands.symm.trans goes_on)
    exact ⟨.beginning count, rfl, fits.frame (connections_snoc _ _) rfl rfl, .inl (.resumed count)⟩

/-- A way from one point to another. -/
inductive Path (retry : Retry) : Point → List Happening → Point → Prop
  | nil {point : Point} : Path retry point [] point
  | still {point after : Point} {happening : Happening} {rest : List Happening}
      (other : happening.byMonitor = false) (path : Path retry point rest after) :
      Path retry point (happening :: rest) after
  | cons {point middle after : Point} {happening : Happening} {rest : List Happening}
      (moves : Moves retry point happening middle) (path : Path retry middle rest after) :
      Path retry point (happening :: rest) after

end Point

section Run

variable {answers : Answers} {retry : Retry} {before : List Act}
  {history earlier later more : List Happening} {vigil moment next : Vigil}
  {happening : Happening} {point after : Point}

/-- What happens from a moment on. -/
inductive Run (answers : Answers) (retry : Retry) : Vigil → List Happening → Vigil → Prop
  | nil {vigil : Vigil} : Run answers retry vigil [] vigil
  | cons {vigil middle last : Vigil} {happening : Happening} {rest : List Happening}
      (step : Step answers retry vigil happening middle)
      (run : Run answers retry middle rest last) :
      Run answers retry vigil (happening :: rest) last

theorem Run.snoc (run : Run answers retry moment later vigil)
    (step : Step answers retry vigil happening next) :
    Run answers retry moment (later ++ [happening]) next := by
  induction run with
  | nil => exact .cons step .nil
  | cons first run ih => exact .cons first (ih step)

theorem Reached.append (reached : Reached answers retry before earlier moment)
    (run : Run answers retry moment later vigil) :
    Reached answers retry before (earlier ++ later) vigil := by
  induction run generalizing earlier with
  | nil =>
    rw [List.append_nil]
    exact reached
  | cons step run ih =>
    rw [List.append_cons]
    exact ih (reached.snoc step)

theorem Reached.split (reached : Reached answers retry before (earlier ++ later) vigil) :
    ∃ moment, Reached answers retry before earlier moment ∧
      Run answers retry moment later vigil := by
  induction later using List.reverseRecOn generalizing vigil with
  | nil =>
    rw [List.append_nil] at reached
    exact ⟨vigil, reached, .nil⟩
  | append_singleton later happening ih =>
    rw [← List.append_assoc] at reached
    generalize whole : earlier ++ later ++ [happening] = all at reached
    cases reached with
    | start => exact absurd whole (List.concat_ne_nil _ _)
    | snoc reached step =>
      obtain ⟨rfl, same⟩ := List.append_inj' whole rfl
      cases same
      obtain ⟨moment, begun, run⟩ := ih reached
      exact ⟨moment, begun, run.snoc step⟩

theorem Reached.stands (reached : Reached answers retry before history vigil) :
    ∃ point : Point, vigil.work = point.work retry ∧ Fits history vigil point := by
  induction reached with
  | start clock reached =>
    exact ⟨.beginning 0, rfl, rfl, fun _ member => (nomatch member), .inl rfl⟩
  | snoc reached step ih =>
    obtain ⟨point, stands, fits⟩ := ih
    obtain ⟨after, stands, fits, -⟩ := step.point reached.sound stands fits
    exact ⟨after, stands, fits⟩

theorem Run.path (run : Run answers retry moment later vigil)
    (sound : Sound answers history moment) (stands : moment.work = point.work retry)
    (fits : Fits history moment point) :
    ∃ after : Point, vigil.work = after.work retry ∧ Fits (history ++ later) vigil after ∧
      Path retry point later after := by
  induction run generalizing history point with
  | nil =>
    rw [List.append_nil]
    exact ⟨point, stands, fits, .nil⟩
  | cons step run ih =>
    obtain ⟨middle, stands, fits, moves⟩ := step.point sound stands fits
    obtain ⟨after, ends, known, path⟩ := ih (sound.step step) stands fits
    rw [← List.append_cons] at known
    rcases moves with moves | ⟨other, rfl⟩
    · exact ⟨after, ends, known, .cons moves path⟩
    · exact ⟨after, ends, known, .still other path⟩

end Run

section Works

variable {answers : Answers} {retry : Retry} {before : List Act} {history : List Happening}
  {vigil : Vigil} {deeds : List Deed} {station : Station}

def having (vigil : Vigil) (deeds : List Deed) (station : Station) : Vigil :=
  { vigil with
    station := station
    state := (deeds.filterMap Deed.published?).getLast?.getD vigil.state
    result := (deeds.filterMap Deed.finished?).getLast?.or vigil.result
    stopping := deeds.any Deed.asksStop || vigil.stopping }

theorem having_after (vigil : Vigil) (deeds : List Deed) (deed : Deed) (first last : Station) :
    (vigil.having deeds first).after deed last = vigil.having (deeds ++ [deed]) last := by
  rw [after, having, having, List.filterMap_append, List.filterMap_append, List.any_append]
  cases deed <;> simp [Deed.published?, Deed.finished?, Deed.asksStop]

theorem Reached.works (reached : Reached answers retry before history vigil)
    (there : vigil.opened ≠ 0) (unfinished : vigil.result = none)
    (run : Station.Run answers vigil.station deeds station)
    (unbroken : ∀ reason, .finished (.error (.aborted reason)) ∉ deeds) :
    Reached answers retry before (history ++ deeds.map .did) (vigil.having deeds station) := by
  induction run with
  | nil =>
    have same : vigil.having [] vigil.station = vigil := rfl
    rw [same, List.map_nil, List.append_nil]
    exact reached
  | @snoc deeds station next deed run step ih =>
    have healthy : ∀ reason, .finished (.error (.aborted reason)) ∉ deeds :=
      fun reason member => unbroken reason (List.mem_append_left _ member)
    -- no reader sends that it crashed, so it has not crashed as long as it runs
    have manned : (vigil.having deeds station).Manned := by
      refine ⟨there, fun reason crashed => healthy reason ?_⟩
      simp only [having, unfinished, Option.or_none] at crashed
      obtain ⟨deed, member, told⟩ := List.mem_filterMap.mp (List.mem_of_getLast? crashed)
      cases deed with
      | finished result =>
        cases told
        exact member
      | _ => cases told
    rw [List.map_append, ← List.append_assoc, ← having_after]
    exact (ih healthy).snoc (.did deed next (fun _ => manned) step)

end Works

/-- Only the monitor and the clock go on, and the bot has its session. -/
def Undisturbed (more : List Happening) : Prop :=
  ∀ happening ∈ more,
    ((∃ span, happening = .passed span) ∨ happening.byMonitor = true) ∧
      happening ≠ .answered .session none

theorem undisturbed_nil : Undisturbed [] := fun _ member => nomatch member

/-- The monitor started a reader, or it has ended. -/
def Decided (doings : List Happening) (vigil : Vigil) : Prop :=
  (∃ key reader, .answered (.startReader key) reader ∈ doings) ∨
    ∃ next, vigil.work = .done next ∧ next.isFinal = true

/-- Left to itself the monitor starts a reader or ends. -/
def GetsOn (answers : Answers) (retry : Retry) (vigil : Vigil) : Prop :=
  ∃ more after, Run answers retry vigil more after ∧ Undisturbed more ∧ Decided more after

section GetsOn

variable {answers : Answers} {retry : Retry} {history : List Happening} {vigil middle : Vigil}
  {happening : Happening} {point after : Point}

theorem GetsOn.cons (rest : GetsOn answers retry middle)
    (step : Step answers retry vigil happening middle)
    (own : (∃ span, happening = .passed span) ∨ happening.byMonitor = true)
    (bound : happening ≠ .answered .session none) : GetsOn answers retry vigil := by
  obtain ⟨more, last, run, undisturbed, decided⟩ := rest
  refine ⟨happening :: more, last, .cons step run, ?_, ?_⟩
  · intro other member
    rcases List.mem_cons.mp member with rfl | later
    · exact ⟨own, bound⟩
    · exact undisturbed other later
  · exact decided.imp_left fun ⟨key, reader, started⟩ =>
      ⟨key, reader, List.mem_cons_of_mem _ started⟩

theorem Step.of_goes {op : Op} {answer : op.Answer} (goes : Goes retry point op answer after)
    (stands : vigil.work = point.work retry) (answered : Answered vigil op answer middle) :
    Step answers retry vigil (.answered op answer) { middle with work := after.work retry } := by
  obtain ⟨next, asks, leads⟩ := goes.asks
  rw [← leads]
  exact .answer op answer next middle (stands.trans asks) answered

theorem Reached.goes {before : List Act} (reached : Reached answers retry before history vigil)
    {op : Op} {answer : op.Answer} (goes : Goes retry point op answer after)
    (stands : vigil.work = point.work retry) (answered : Answered vigil op answer middle) :
    Reached answers retry before (history ++ [.answered op answer])
      { middle with work := after.work retry } :=
  reached.snoc (.of_goes goes stands answered)

theorem getsOn_of_goes {op : Op} {answer : op.Answer} (goes : Goes retry point op answer after)
    (stands : vigil.work = point.work retry) (answered : Answered vigil op answer middle)
    (bound : Happening.answered op answer ≠ .answered .session none)
    (rest : GetsOn answers retry { middle with work := after.work retry }) :
    GetsOn answers retry vigil :=
  rest.cons (.of_goes goes stands answered) (.inr rfl) bound

theorem getsOn_final {next : Next} (ends : vigil.work = .done next)
    (final : next.isFinal = true) : GetsOn answers retry vigil :=
  ⟨[], vigil, .nil, undisturbed_nil, .inr ⟨next, ends, final⟩⟩

theorem getsOn_opening {count : Nat} {key : String}
    (stands : vigil.work = (Point.opening count key).work retry) :
    GetsOn answers retry vigil :=
  ⟨_, _, .cons (.of_goes (.opened count key vigil.opened) stands (.startReader key)) .nil,
    by simp [Undisturbed, Happening.byMonitor],
    .inl ⟨key, vigil.opened, List.mem_singleton_self _⟩⟩

theorem getsOn_beginning {count : Nat}
    (stands : vigil.work = (Point.beginning count).work retry) : GetsOn answers retry vigil :=
  getsOn_of_goes (.authorized count ⟨"", ⟨0⟩⟩) stands (.session _) (by simp)
    (getsOn_opening rfl)

theorem getsOn_settled {next : Next} (stands : vigil.work = (Point.settled next).work retry) :
    GetsOn answers retry vigil := by
  cases next with
  | again count => exact (getsOn_beginning rfl).cons (.resume count stands) (.inr rfl) nofun
  | _ => exact getsOn_final stands rfl

theorem getsOn_pausing {count : Nat} {time : Instant}
    (stands : vigil.work = (Point.pausing count time).work retry) : GetsOn answers retry vigil := by
  let late : Vigil := { vigil with clock := vigil.clock + (time - vigil.clock) }
  have passed : time ≤ late.clock := Nat.sub_le_iff_le_add'.mp (Nat.le_refl _)
  have rests : GetsOn answers retry late :=
    getsOn_of_goes (.rested count time) stands (.rested time passed) (by simp) (getsOn_settled rfl)
  exact rests.cons (.pass _) (.inl ⟨_, rfl⟩) nofun

theorem getsOn_timing {count : Nat}
    (stands : vigil.work = (Point.timing count).work retry) : GetsOn answers retry vigil := by
  cases within : Instant.after? vigil.clock (retry.delay count) with
  | none =>
    exact getsOn_of_goes (.stranded count vigil.clock within) stands .now (by simp)
      (getsOn_settled rfl)
  | some time =>
    exact getsOn_of_goes (.pauses count vigil.clock time within) stands .now (by simp)
      (getsOn_pausing rfl)

theorem getsOn_judging {count : Nat} {error : TransportError}
    (stands : vigil.work = (Point.judging count error).work retry) :
    GetsOn answers retry vigil := by
  have answered : Answered vigil .stopRequested vigil.stopping vigil := .stopRequested
  cases asked : vigil.stopping with
  | true =>
    rw [asked] at answered
    exact getsOn_of_goes (.stopped count error) stands answered (by simp) (getsOn_settled rfl)
  | false =>
    rw [asked] at answered
    by_cases enough : retry.maxRetries ≤ count
    · exact getsOn_of_goes (.gaveUp count error enough) stands answered (by simp)
        (getsOn_settled rfl)
    · exact getsOn_of_goes (.retries count error (Nat.lt_of_not_le enough)) stands answered
        (by simp) (getsOn_timing rfl)

theorem getsOn_awaiting {count : Nat} {reader : ReaderId} {result : StreamResult}
    (stands : vigil.work = (Point.awaiting count reader).work retry)
    (sent : vigil.result = some result) : GetsOn answers retry vigil := by
  rcases result with (error | reason) | ⟨⟨⟩⟩
  · exact getsOn_of_goes (.failed count reader error) stands (.result reader _ sent) (by simp)
      (getsOn_judging rfl)
  · exact getsOn_of_goes (.aborted count reader reason) stands (.result reader _ sent) (by simp)
      (getsOn_settled rfl)
  · exact getsOn_of_goes (.finished count reader) stands (.result reader _ sent) (by simp)
      (getsOn_settled rfl)

/-- A monitor gets on by itself unless it waits for a reader that is still at work. -/
theorem Reached.getsOn {before : List Act} (reached : Reached answers retry before history vigil)
    (stands : vigil.work = point.work retry) (fits : Fits history vigil point)
    (told : point.withReader = true → vigil.result ≠ none) : GetsOn answers retry vigil := by
  have sound := reached.sound
  cases point with
  | beginning count => exact getsOn_beginning stands
  | opening count key => exact getsOn_opening stands
  | judging count error => exact getsOn_judging stands
  | timing count => exact getsOn_timing stands
  | pausing count time => exact getsOn_pausing stands
  | settled next => exact getsOn_settled stands
  | awaiting count reader =>
    obtain ⟨result, sent⟩ := Option.ne_none_iff_exists'.mp (told rfl)
    exact getsOn_awaiting stands sent
  | watching count reader =>
    obtain ⟨result, sent⟩ := Option.ne_none_iff_exists'.mp (told rfl)
    obtain ⟨connection, rest, last, -⟩ := fits
    have manned : vigil.opened ≠ 0 := by
      rw [sound.opened, last]
      exact Nat.succ_ne_zero _
    have gone : vigil.state = .closed ∨ vigil.result = some (.error .dropped) := by
      rcases sound.result result sent with ⟨rfl, -⟩ | ⟨ceased, -⟩
      · exact .inr sent
      · exact .inl (sound.closed_of_over manned ceased)
    by_cases shown : vigil.state = .reading
    · exact getsOn_of_goes (.seen count reader) stands (.reading reader shown) (by simp)
        (getsOn_awaiting rfl sent)
    · exact getsOn_of_goes (.unseen count reader) stands (.closed reader shown gone) (by simp)
        (getsOn_awaiting rfl sent)

end GetsOn

end Vigil
end Switchboard
