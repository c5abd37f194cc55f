import Switchboard.Proofs.Stream.Crew
import Switchboard.Proofs.Stream.Discipline

set_option autoImplicit false

namespace Switchboard

open Hall (Answers Shut Deserted Welcoming requests evaluated)

namespace Station

variable {answers : Answers} {before : List Act} {history : List Deed} {station : Station}

/-- The reader waits for an errand that it made, or the errand is answered. -/
theorem Reached.made_cases (reached : Reached answers before history station) {errand : ErrandId}
    (made : errand ∈ history.filterMap Deed.made?) :
    (∃ pursuit, station.pursuit = some pursuit ∧ pursuit.own = errand) ∨
      ∃ request reply, station.hall.errands errand = .answered request reply := by
  induction reached with
  | start => cases made
  | @snoc history station next deed reached step ih =>
    rw [Hall.filterMap_snoc] at made
    rcases List.mem_append.mp made with old | new
    · have orderly := reached.faithful.hall.orderly
      rcases ih old with ⟨pursuit, pursued, own⟩ | ⟨request, reply, answered⟩
      · cases step with
        | closed cause owner request reply found answered =>
          cases pursued.symm.trans found
          cases own
          exact .inr ⟨request, reply, answered⟩
        | claimed frame owner event request found answered =>
          cases pursued.symm.trans found
          cases own
          exact .inr ⟨request, _, answered⟩
        | spawn frame owner event back request found answered =>
          cases pursued.symm.trans found
          cases own
          exact .inr ⟨request, _, answered⟩
        | party | deliver | requestStop | connect | endCallback =>
          exact .inl ⟨pursuit, pursued, own⟩
        | hear _ _ quiet | reopen _ _ quiet | close _ _ _ _ quiet | skip _ _ _ quiet
        | offer _ _ _ _ _ quiet | publish _ _ quiet | closeStream _ _ quiet | finish _ _ quiet =>
          cases pursued.symm.trans quiet
      · rcases Relay.hall_cases step with ⟨-, same⟩ | ⟨act, -, step⟩
        · rw [same]
          exact .inr ⟨request, reply, answered⟩
        · exact .inr ⟨request, reply, answered_kept step orderly answered⟩
    · cases step with
      | close reason rest owner | offer frame event rest owner =>
        cases List.mem_singleton.mp new
        exact .inl ⟨_, rfl, rfl⟩
      | _ => cases new

/-- A reader that has nothing more to do has asked for the closing of the queue. -/
theorem Reached.closing_of_over (reached : Reached answers before history station)
    (ceased : station.Over) : ∃ errand reason, .closing errand reason ∈ history := by
  have course := reached.disciplined.course
  obtain ⟨closed, idle, -⟩ := ceased
  rw [closed, idle, List.append_nil] at course
  have closes : ∃ reason, .closeQueue reason ∈ doings history := by
    generalize doings history = actions at course
    generalize heard history = signals at course
    cases course with
    | stopped | refused => exact ⟨_, List.mem_cons_of_mem _ List.mem_cons_self⟩
    | closed frames signal outcome leaves =>
      exact ⟨_, List.mem_append_right _ (List.mem_cons_of_mem _ List.mem_cons_self)⟩
  obtain ⟨reason, member⟩ := closes
  obtain ⟨deed, done, does⟩ := List.mem_filterMap.mp member
  cases deed with
  | closing errand cause =>
    cases does
    exact ⟨errand, reason, done⟩
  | _ => cases does

end Station

namespace Crew

/-- The errands that the reader made. -/
def made (history : List Turn) : List ErrandId := (deeds history).filterMap Deed.made?

variable {answers : Answers} {before : List Act} {history earlier later : List Turn}
  {crew next : Crew} {turn : Turn} {errand : ErrandId} {reason : WaitError}

theorem made_snoc :
    made (history ++ [turn]) = made history ++ (turn.deed?.bind Deed.made?).toList := by
  rw [made, deeds_snoc, List.filterMap_append]
  cases turn.deed? with
  | none => rfl
  | some deed => cases found : deed.made? <;> simp [made, found]

theorem acts_snoc :
    acts (history ++ [turn]) = acts history ++ (turn.deed?.bind Deed.act?).toList := by
  rw [acts, deeds_snoc, Station.acts, List.filterMap_append]
  cases turn.deed? with
  | none => rfl
  | some deed => cases found : deed.act? <;> simp [acts, Station.acts, found]

theorem Reached.last (reached : Reached answers before (history ++ [turn]) next) :
    ∃ crew, Reached answers before history crew ∧ Step answers crew turn next := by
  generalize whole : history ++ [turn] = turns at reached
  cases reached with
  | start => exact absurd whole (List.concat_ne_nil _ _)
  | snoc reached step =>
    obtain ⟨rfl, same⟩ := List.append_inj' whole rfl
    cases same
    exact ⟨_, reached, step⟩

/-- What happened by a step, once the reader is done or has crashed: the reader did nothing, and
nobody followed up the errand that it had left. -/
theorem Step.of_resolved (step : Step answers crew turn next) (resolved : crew.result ≠ none) :
    next.result = crew.result ∧ next.station.pursuit = crew.station.pursuit ∧
      turn.deed?.bind Deed.made? = none ∧
      ((turn.deed?.bind Deed.act? = none ∧ next.station.hall = crew.station.hall) ∨
        ∃ act, turn.deed?.bind Deed.act? = some act ∧
          Hall.Step answers crew.station.hall act next.station.hall ∧
          ∀ errand, act.errand? = some errand → ¬ crew.Forsaken errand) := by
  cases step with
  | did deed station other manned followed step =>
    have idle : deed.byReader = false := by
      cases byReader : deed.byReader with
      | false => rfl
      | true => exact absurd (manned byReader) resolved
    cases step with
    | party act hall step =>
      exact ⟨rfl, rfl, rfl, .inr ⟨act, rfl, step, fun errand => followed act errand rfl⟩⟩
    | deliver | requestStop | connect => exact ⟨rfl, rfl, rfl, .inl ⟨rfl, rfl⟩⟩
    | endCallback => cases other
    | _ => cases idle
  | call => exact ⟨rfl, rfl, rfl, .inl ⟨rfl, rfl⟩⟩
  | finish errand event upshot station ripe step =>
    cases step
    exact ⟨rfl, rfl, rfl, .inl ⟨rfl, rfl⟩⟩
  | crash unfinished rests => exact absurd unfinished resolved

/-- An errand of the reader that is over: it is answered, or nobody follows it up. -/
def Settled (crew : Crew) (errand : ErrandId) : Prop :=
  (∃ request reply, crew.station.hall.errands errand = .answered request reply) ∨
    (∃ request, crew.station.hall.errands errand = .asked request) ∧
      crew.station.hall.lock.errand? ≠ some errand ∧ crew.Forsaken errand

theorem Settled.rests (settled : crew.Settled errand) : crew.station.hall.Rests errand := by
  rcases settled with answered | ⟨asked, unlocked, -⟩
  · exact .inr answered
  · exact .inl ⟨asked, unlocked⟩

theorem Settled.kept (settled : crew.Settled errand)
    (reached : Reached answers before history crew) (step : Step answers crew turn next)
    (resolved : crew.result ≠ none) : next.Settled errand := by
  obtain ⟨result, pursuit, -, calm⟩ := step.of_resolved resolved
  have forsaken : crew.Forsaken errand → next.Forsaken errand := by
    rintro ⟨-, mine⟩
    rw [Forsaken, result, pursuit]
    exact ⟨resolved, mine⟩
  rcases calm with ⟨-, same⟩ | ⟨act, -, step, unfollowed⟩
  · rw [Settled, same]
    exact settled.imp_right fun ⟨asked, unlocked, left⟩ => ⟨asked, unlocked, forsaken left⟩
  · rcases settled with ⟨request, reply, answered⟩ | ⟨⟨request, asked⟩, unlocked, left⟩
    · exact .inl ⟨request, reply, Station.answered_kept step reached.hall.orderly answered⟩
    · have bystander : act.errand? ≠ some errand := fun own => unfollowed errand own left
      refine .inr ⟨⟨request, (step.errand_frame bystander).1.trans asked⟩, ?_, forsaken left⟩
      intro held
      rw [step.entered_of_held unlocked held] at bystander
      exact bystander rfl

theorem Step.result_cases (step : Step answers crew turn next) (resolved : next.result ≠ none) :
    crew.result ≠ none ∨
      (turn = .crashed ∧ next.result = some (.error .dropped) ∧
        next.station = crew.station ∧ crew.station.AtRest) ∨
      ∃ result, turn = .did (.finished result) ∧ next.result = some result ∧
        Station.Step answers crew.station (.finished result) next.station := by
  cases step with
  | did deed station other manned followed step =>
    cases told : deed.finished? with
    | none =>
      rw [after_result, told, Option.none_or] at resolved
      exact .inl resolved
    | some result =>
      cases deed <;> cases told
      exact .inr (.inr ⟨result, rfl, rfl, step⟩)
  | call => exact .inl resolved
  | finish => exact .inl resolved
  | crash unfinished rests => exact .inr (.inl ⟨rfl, rfl, rfl, rests⟩)

theorem Reached.settled (reached : Reached answers before history crew)
    (resolved : crew.result ≠ none) (mine : errand ∈ made history) : crew.Settled errand := by
  induction reached with
  | start => exact absurd rfl resolved
  | @snoc history crew next turn reached step ih =>
    have whole := reached.snoc step
    rcases step.result_cases resolved with
      before | ⟨rfl, told, same, rests⟩ | ⟨result, rfl, told, finishes⟩
    · refine (ih before ?_).kept reached step before
      rw [made_snoc, (step.of_resolved before).2.2.1] at mine
      simpa using mine
    · rcases whole.station.made_cases mine with ⟨pursuit, pursued, rfl⟩ | answered
      · rw [same] at pursued
        rcases rests pursuit pursued with ⟨asked, unlocked⟩ | answered
        · refine .inr ⟨same ▸ asked, same ▸ unlocked, resolved, pursuit, ?_, rfl⟩
          rw [same]
          exact pursued
        · exact .inl (same ▸ answered)
      · exact .inl answered
    · rcases whole.station.made_cases mine with ⟨pursuit, pursued, -⟩ | answered
      · have quiet := (Vigil.over_of_finish reached.station finishes).1.2.2
        cases quiet.symm.trans pursued
      · exact .inl answered

/-- A result is told of a crash, or by a reader that has nothing more to do. -/
theorem Reached.over_of_result (reached : Reached answers before history crew)
    {result : StreamResult} (resolved : crew.result = some result) :
    result = .error .dropped ∨ crew.station.Over := by
  induction reached with
  | start => cases resolved
  | @snoc history crew next turn reached step ih =>
    rcases step.result_cases (by rw [resolved]; exact nofun) with
      before | ⟨rfl, told, -⟩ | ⟨result, rfl, told, finishes⟩
    · obtain ⟨same, -⟩ := step.of_resolved before
      rcases ih (same.symm.trans resolved) with aborted | ceased
      · exact .inl aborted
      · refine .inr ?_
        rcases step.station with ⟨-, still⟩ | ⟨deed, -, step⟩
        · rw [still]
          exact ceased
        · exact (Vigil.over_kept step ceased).1
    · cases told.symm.trans resolved
      exact .inl rfl
    · exact .inr (Vigil.over_of_finish reached.station finishes).1

theorem Settled.unlocked (settled : crew.Settled errand)
    (orderly : Hall.Orderly crew.station.hall) :
    crew.station.hall.lock.errand? ≠ some errand := by
  rcases settled with ⟨request, reply, answered⟩ | ⟨-, unlocked, -⟩
  · intro held
    obtain ⟨request, asked⟩ := orderly.lock.asked held
    cases answered.symm.trans asked
  · exact unlocked

theorem Settled.act_ne (settled : crew.Settled errand) {act : Act} {hall : Hall}
    (step : Hall.Step answers crew.station.hall act hall)
    (unfollowed : ∀ errand, act.errand? = some errand → ¬ crew.Forsaken errand) :
    act ≠ .entered errand := by
  rintro rfl
  rcases settled with ⟨request, reply, answered⟩ | ⟨-, -, left⟩
  · cases step with
    | enterSearch _ _ _ asked | enterSweep _ _ _ _ asked => cases answered.symm.trans asked
  · exact unfollowed errand rfl left

/-- The reader has closed the queue, and this happened in the hall since. -/
def ClosedSince (before : List Act) (history : List Turn) (since : List Act) : Prop :=
  ∃ errand reason earlier, before ++ acts history = earlier ++ .entered errand :: since ∧
    .closing errand reason ∈ deeds history

theorem made_of_closing (asked : .closing errand reason ∈ deeds history) :
    errand ∈ made history :=
  List.mem_filterMap.mpr ⟨_, asked, rfl⟩

theorem Reached.closed_of_over (reached : Reached answers before history crew)
    (ceased : crew.station.Over) : ∃ since, ClosedSince before history since := by
  obtain ⟨errand, reason, asked⟩ := reached.station.closing_of_over ceased
  rcases reached.station.made_cases (made_of_closing asked) with
    ⟨pursuit, pursued, -⟩ | ⟨request, reply, answered⟩
  · cases ceased.2.2.symm.trans pursued
  · have entered := reached.hall.entered_of_told (by rw [answered]; trivial)
    obtain ⟨earlier, since, split⟩ := List.append_of_mem entered
    exact ⟨since, errand, reason, earlier, split, asked⟩

theorem Reached.deserted (reached : Reached answers before history crew)
    (resolved : crew.result ≠ none) {since : List Act} (closed : ClosedSince before history since)
    (unopened : .reopened ∉ since) :
    Deserted answers (before ++ acts history) crew.station.hall (· ∈ made history) := by
  obtain ⟨errand, reason, earlier, split, asked⟩ := closed
  have whole := reached.hall
  have requested : .sweep reason true ∈ requests (before ++ acts history) errand := by
    have act : .asked errand (.sweep reason true) ∈ acts history :=
      List.mem_filterMap.mpr ⟨_, asked, rfl⟩
    exact List.mem_filterMap.mpr
      ⟨_, List.mem_append_right _ act, by simp only [Act.request?, ↓reduceIte]⟩
  have shut : Shut (before ++ acts history) errand reason := by
    rw [split] at whole requested ⊢
    exact whole.shut_of_entered requested unopened
  have unlocked := (reached.settled resolved (made_of_closing asked)).unlocked whole.orderly
  exact whole.deserted shut unlocked fun _ mine => (reached.settled resolved mine).rests

/-- Once there is a result the reader asks for no closing, and no errand of its takes the lock. -/
theorem Reached.nothing_since (reached : Reached answers before (earlier ++ later) crew)
    (resolved : ∀ moment, Reached answers before earlier moment → moment.result ≠ none) :
    crew.result ≠ none ∧
      (∀ errand reason, .closing errand reason ∈ deeds (earlier ++ later) →
        .closing errand reason ∈ deeds earlier) ∧
      ∀ errand ∈ made (earlier ++ later), .entered errand ∈ before ++ acts (earlier ++ later) →
        .entered errand ∈ before ++ acts earlier := by
  induction later using List.reverseRecOn generalizing crew with
  | nil =>
    simp only [List.append_nil] at reached ⊢
    exact ⟨resolved crew reached, fun _ _ => id, fun _ _ => id⟩
  | append_singleton later turn ih =>
    rw [← List.append_assoc] at reached ⊢
    obtain ⟨moment, reached, step⟩ := reached.last
    obtain ⟨done, asked, entered⟩ := ih reached
    obtain ⟨result, -, unmade, calm⟩ := step.of_resolved done
    have same : made (earlier ++ later ++ [turn]) = made (earlier ++ later) := by
      rw [made_snoc, unmade, Option.toList_none, List.append_nil]
    refine ⟨by rw [result]; exact done, ?_, ?_⟩
    · intro errand reason member
      rw [deeds_snoc] at member
      rcases List.mem_append.mp member with old | new
      · exact asked errand reason old
      · rw [Option.mem_toList.mp new] at unmade
        cases unmade
    · intro errand mine member
      rw [same] at mine
      rw [acts_snoc, ← List.append_assoc] at member
      rcases List.mem_append.mp member with old | new
      · exact entered errand mine old
      · rcases calm with ⟨alone, -⟩ | ⟨act, does, step, unfollowed⟩
        · rw [alone] at new
          cases new
        · rw [does, Option.toList_some, List.mem_singleton] at new
          exact absurd new.symm
            ((reached.settled done mine).act_ne step unfollowed)

theorem Reached.closed_before (reached : Reached answers before (earlier ++ later) crew)
    (resolved : ∀ moment, Reached answers before earlier moment → moment.result ≠ none)
    {since : List Act} (closed : ClosedSince before (earlier ++ later) since) :
    ∃ since, ClosedSince before earlier since := by
  obtain ⟨-, closings, entries⟩ := reached.nothing_since resolved
  obtain ⟨errand, reason, front, split, asked⟩ := closed
  have entered : .entered errand ∈ before ++ acts (earlier ++ later) := by
    rw [split]
    exact List.mem_append_right _ List.mem_cons_self
  obtain ⟨front, since, split⟩ :=
    List.append_of_mem (entries errand (made_of_closing asked) entered)
  exact ⟨since, errand, reason, front, split, closings errand reason asked⟩

/-- When the handle has told a result that is no crash, the reader has closed the queue. As long as
it is not opened again, nobody is left in the queue, and whoever comes is refused. A reader that has
crashed closes the queue no more: if it had not before and nobody else did, then whoever waits and
is not won can still be found, and whoever comes is let in. -/
theorem closed_unless_crashed (reached : Reached answers before history crew)
    {result : StreamResult} (resolved : crew.result = some result) :
    ((∀ reason, result ≠ .error (.aborted reason)) → ∃ since, ClosedSince before history since) ∧
    (∀ since, ClosedSince before history since → .reopened ∉ since →
      Deserted answers (before ++ acts history) crew.station.hall (· ∈ made history)) ∧
    (∀ earlier later, history = earlier ++ .crashed :: later →
      (∃ since, ClosedSince before history since) → ∃ since, ClosedSince before earlier since) ∧
    ((∀ since, ¬ ClosedSince before history since) →
      (∀ errand reason, Shut (before ++ acts history) errand reason →
        .closing errand reason ∈ deeds history) →
      result = .error .dropped ∧ Welcoming answers crew.station.hall) := by
  have done : crew.result ≠ none := by
    rw [resolved]
    exact nofun
  refine ⟨?_, fun since => reached.deserted done, ?_, ?_⟩
  · intro own
    rcases reached.over_of_result resolved with dropped | ceased
    · exact absurd dropped (own _)
    · exact reached.closed_of_over ceased
  · rintro earlier later rfl ⟨since, closed⟩
    have unchanged : acts (earlier ++ [.crashed]) = acts earlier ∧
        deeds (earlier ++ [.crashed]) = deeds earlier :=
      ⟨acts_snoc.trans (List.append_nil _), deeds_snoc.trans (List.append_nil _)⟩
    rw [List.append_cons] at reached closed
    have crashed : ∀ moment, Reached answers before (earlier ++ [.crashed]) moment →
        moment.result ≠ none := by
      intro moment begun
      obtain ⟨crew, -, step⟩ := begun.last
      cases step
      exact nofun
    obtain ⟨since, closed⟩ := reached.closed_before crashed closed
    rw [ClosedSince, unchanged.1, unchanged.2] at closed
    exact ⟨since, closed⟩
  · intro unclosed others
    constructor
    · rcases reached.over_of_result resolved with aborted | ceased
      · exact aborted
      · obtain ⟨since, closed⟩ := reached.closed_of_over ceased
        exact absurd closed (unclosed since)
    · refine reached.hall.welcoming fun errand reason shut => ?_
      have mine := others errand reason shut
      obtain ⟨earlier, since, split, -⟩ := shut
      exact unclosed since ⟨errand, reason, earlier, split, mine⟩

/-- A waiter is registered, and the reader cannot connect. -/
def departure : List Turn :=
  [.did (.party (.registered 0 .botOnline .keeping none)), .did (.heard .begun), .did .reopened,
    .did (.connected (.error Station.broken)), .did (.heard (.refused Station.broken)),
    .did (.closing 0 (.streamFailed Station.broken)), .did (.party (.entered 0)),
    .did (.party (.swept 0 (.streamFailed Station.broken) 0 true)), .did (.party (.left 0)),
    .did (.party (.sent 0 0 (.error (.streamFailed Station.broken)))),
    .did (.party (.answered 0 (.resolved 1))), .did (.closed 0 (.streamFailed Station.broken)),
    .did (.published .closed), .did (.finished (.error (.transport Station.broken)))]

/-- A waiter is registered, the reader crashes while it connects, and another waiter comes. -/
def collapse : List Turn :=
  [.did (.party (.registered 0 .botOnline .keeping none)), .did (.heard .begun), .did .reopened,
    .crashed, .did (.party (.registered 1 .botOnline .keeping none))]

theorem departure_reached : ∃ crew, Reached evaluated [] departure crew ∧
    crew.result = some (.error (.transport Station.broken)) := by
  have h0 : Reached evaluated [] [] (start Hall.start) := .start .nil
  have h1 := h0.goes_on rfl rfl (.party _ _ (.register .botOnline .any .keeping rfl))
  have h2 := h1.goes_on rfl rfl (.hear .begun rfl rfl rfl)
  have h3 := h2.goes_on rfl rfl (.reopen _ _ rfl rfl (.reopen rfl))
  have h4 := h3.goes_on rfl rfl (.connect (.error Station.broken) rfl)
  have h5 := h4.goes_on rfl rfl (.hear (.refused Station.broken) rfl rfl rfl)
  have h6 := h5.goes_on rfl rfl
    (.close (.streamFailed Station.broken) _ 0 _ rfl rfl (.ask 0 _ rfl))
  have h7 := h6.goes_on rfl rfl
    (.party _ _ (.enterSweep 0 (.streamFailed Station.broken) true rfl rfl))
  have h8 := h7.goes_on rfl rfl
    (.party _ _ (.sweep 0 (.streamFailed Station.broken) true 0 _ _ true _ rfl rfl))
  have h9 := h8.goes_on rfl rfl
    (.party _ _ (.leaveSweep 0 (.streamFailed Station.broken) true _ rfl))
  have h10 := h9.goes_on rfl rfl (.party _ _ (.send 0 _ _ _ _ _ rfl))
  have h11 := h10.goes_on rfl rfl (.party _ _ (.answer 0 _ _ rfl))
  have h12 := h11.goes_on rfl rfl (.closed (.streamFailed Station.broken) 0 _ _ rfl rfl)
  have h13 := h12.goes_on rfl rfl (.publish .closed _ rfl rfl)
  exact ⟨_, h13.goes_on rfl rfl (.finish _ _ rfl rfl), rfl⟩

theorem collapse_reached : ∃ crew, Reached evaluated [] collapse crew ∧
    crew.result = some (.error .dropped) ∧
    crew.station.hall.queue.slots.map Slot.id = [0, 1] ∧ crew.station.hall.queue.won = [] ∧
    crew.station.hall.queue.closed = none ∧ crew.station.hall.queue.sent = [] ∧
    crew.station.hall.holders 0 = .holding .botOnline false .keeping ∧
    crew.station.hall.holders 1 = .holding .botOnline false .keeping := by
  have h0 : Reached evaluated [] [] (start Hall.start) := .start .nil
  have h1 := h0.goes_on rfl rfl (.party _ _ (.register .botOnline .any .keeping rfl))
  have h2 := h1.goes_on rfl rfl (.hear .begun rfl rfl rfl)
  have h3 := h2.goes_on rfl rfl (.reopen _ _ rfl rfl (.reopen rfl))
  have h4 := h3.snoc (.crash rfl fun _ pursued => nomatch pursued)
  have h5 := h4.snoc (.did (.party (.registered 1 .botOnline .keeping none)) _ rfl
    (fun own => by cases own) (fun _ _ does own => by cases does; cases own)
    (.party _ _ (.register .botOnline .any .keeping rfl)))
  exact ⟨_, h5, rfl, rfl, rfl, rfl, rfl, rfl, rfl⟩

/-- The reader that could not connect leaves nobody behind, and the one that crashed leaves the
queue open. -/
theorem departure_and_collapse :
    (∃ crew, Reached evaluated [] departure crew ∧
      crew.result = some (.error (.transport Station.broken)) ∧
      Deserted evaluated (acts departure) crew.station.hall (· ∈ made departure)) ∧
    ∃ crew, Reached evaluated [] collapse crew ∧
      crew.result = some (.error .dropped) ∧ Welcoming evaluated crew.station.hall := by
  constructor
  · obtain ⟨crew, reached, resolved⟩ := departure_reached
    obtain ⟨-, closed, -⟩ := closed_unless_crashed reached resolved
    refine ⟨crew, reached, resolved, closed (acts (departure.drop 7)) ?_ ?_⟩
    · refine ⟨0, .streamFailed Station.broken, acts (departure.take 6), rfl, ?_⟩
      simp [deeds, departure, Turn.deed?]
    · simp [acts, deeds, departure, Station.acts, Turn.deed?, Deed.act?]
  · obtain ⟨crew, reached, resolved, -⟩ := collapse_reached
    obtain ⟨-, -, -, unclosed⟩ := closed_unless_crashed reached resolved
    refine ⟨crew, reached, resolved, (unclosed ?_ ?_).2⟩
    · rintro since ⟨errand, reason, earlier, -, asked⟩
      simp [deeds, collapse, Turn.deed?] at asked
    · rintro errand reason ⟨earlier, later, split, -⟩
      have entered : .entered errand ∈ acts collapse := by
        rw [← List.nil_append (acts collapse), split]
        exact List.mem_append_right _ List.mem_cons_self
      simp [acts, deeds, collapse, Station.acts, Turn.deed?, Deed.act?] at entered

/-- A reader that crashes leaves its waiters pending, and others are still let in. -/
theorem waiters_outlive_crash :
    ∃ crew, Reached evaluated [] collapse crew ∧
      crew.result = some (.error .dropped) ∧ crew.station.hall.queue.size = 2 ∧
      crew.station.hall.queue.closed = none ∧
      ∀ id ∈ [0, 1], (crew.station.hall.holders id).waits ∧
        ∀ resolution, (id, resolution) ∉ crew.station.hall.queue.sent := by
  obtain ⟨crew, reached, resolved, slots, won, open_, sent, first, second⟩ := collapse_reached
  refine ⟨crew, reached, resolved, ?_, open_, ?_⟩
  · have all := congrArg List.length slots
    rw [List.length_map] at all
    simpa [Queue.size, Queue.isWon, won] using all
  · intro id member
    rw [sent]
    refine ⟨?_, fun _ => List.not_mem_nil⟩
    rcases List.mem_cons.mp member with rfl | last
    · rw [first]
      trivial
    · rw [List.mem_singleton.mp last, second]
      trivial

end Crew
end Switchboard
