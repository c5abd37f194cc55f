import Switchboard.Proofs.Stream.Script
import Switchboard.Proofs.Waiter.Closing

set_option autoImplicit false

namespace Switchboard

/-- A step while readers (`StreamReader`) relieve each other at one queue. The next reader is made
when the last has nothing more to do; everybody else who is busy with the queue goes on
meanwhile. -/
inductive Move where
  | did (deed : Deed)
  /-- The next reader is made. -/
  | relieved

def Move.deed? : Move → Option Deed
  | .did deed => some deed
  | .relieved => none

/-- Does an act concern all waiters of the queue at once? -/
def Act.governs : Act → Bool
  | .asked _ (.sweep _ _) | .reopened => true
  | _ => false

namespace Station

/-- The reader has nothing more to do. -/
def Over (station : Station) : Prop :=
  station.phase = .closed ∧ station.agenda = [] ∧ station.pursuit = none

/-- The reader has opened the queue, and has not closed it. -/
def Serving (station : Station) : Prop :=
  match station.phase with
  | .starting => False
  | .connecting => station.agenda = []
  | .reading => True
  | .draining _ | .closed =>
    (∃ reason, .closeQueue reason ∈ station.agenda) ∨
      ∃ errand reason, station.pursuit = some (.closing errand reason) ∧
        station.hall.errands errand = .asked (.sweep reason true) ∧
          station.hall.lock.errand? ≠ some errand

/-- The reader has closed the queue. -/
def Served (station : Station) : Prop := station.phase.isLeaving = true ∧ ¬ station.Serving

theorem serving_of_leaving {station : Station} (leaving : station.phase.isLeaving = true) :
    station.Serving ↔ (∃ reason, .closeQueue reason ∈ station.agenda) ∨
      ∃ errand reason, station.pursuit = some (.closing errand reason) ∧
        station.hall.errands errand = .asked (.sweep reason true) ∧
          station.hall.lock.errand? ≠ some errand := by
  unfold Serving
  cases phase : station.phase <;> rw [phase] at leaving <;> first | rfl | cases leaving

theorem serving_of_staying {station : Station} (staying : station.phase.isLeaving = false) :
    station.Serving ↔
      (station.phase = .connecting ∧ station.agenda = []) ∨ station.phase = .reading := by
  cases phase : station.phase with
  | draining | closed =>
    rw [phase] at staying
    cases staying
  | _ => simp [Serving, phase]

theorem over_served {station : Station} (ceased : station.Over) : station.Served := by
  obtain ⟨closed, idle, quiet⟩ := ceased
  have leaving : station.phase.isLeaving = true := by rw [closed, ReaderPhase.isLeaving]
  refine ⟨leaving, ?_⟩
  rw [serving_of_leaving leaving, idle, quiet]
  rintro (⟨reason, member⟩ | ⟨errand, reason, pursued, -⟩)
  · cases member
  · cases pursued

end Station

namespace Relay

open Hall (Answers Shut requests)
open Station (Disciplined Over Serving Served)

/-- Readers, one after the other. -/
inductive Reached (answers : Answers) : List Move → Station → Prop
  | start : Reached answers [] (Station.start Hall.start)
  | did {history : List Move} {station next : Station} {deed : Deed}
      (reached : Reached answers history station) (step : Station.Step answers station deed next) :
      Reached answers (history ++ [.did deed]) next
  | relieve {history : List Move} {station : Station} (reached : Reached answers history station)
      (ceased : station.Over) :
      Reached answers (history ++ [.relieved]) (Station.start station.hall)

def current (history : List Move) : List Deed :=
  history.foldl (fun deeds move =>
    match move with
    | .did deed => deeds ++ [deed]
    | .relieved => []) []

def acts (history : List Move) : List Act := Station.acts (history.filterMap Move.deed?)

/-- Nobody but the readers opens or closes the queue or resolves all waiters. -/
def Civil (history : List Move) : Prop :=
  ∀ act, .did (.party act) ∈ history → act.governs = false

variable {answers : Answers} {history earlier later : List Move} {station next : Station}
  {deed : Deed} {errand : ErrandId} {reason : WaitError}

@[simp] theorem current_did : current (history ++ [.did deed]) = current history ++ [deed] := by
  simp [current]

@[simp] theorem current_relieved : current (history ++ [.relieved]) = [] := by
  simp [current]

theorem acts_append : acts (earlier ++ later) = acts earlier ++ acts later := by
  rw [acts, acts, acts, Station.acts, List.filterMap_append, List.filterMap_append]
  rfl

theorem acts_did : acts (history ++ [.did deed]) = acts history ++ deed.act?.toList := by
  rw [acts_append]
  cases found : deed.act? <;> simp [acts, Station.acts, Move.deed?, found]

theorem acts_relieved : acts (history ++ [.relieved]) = acts history := by
  rw [acts_append]
  exact List.append_nil _

theorem Reached.run (reached : Reached answers history station) :
    ∃ before, Station.Reached answers before (current history) station ∧
      acts history = before ++ Station.acts (current history) := by
  induction reached with
  | start => exact ⟨[], .start .nil, rfl⟩
  | did reached step ih =>
    obtain ⟨before, run, split⟩ := ih
    refine ⟨before, ?_, ?_⟩
    · rw [current_did]
      exact run.snoc step
    · rw [acts_did, current_did, Station.acts_snoc, split, List.append_assoc]
  | @relieve history station reached ceased ih =>
    obtain ⟨before, run, split⟩ := ih
    refine ⟨acts history, ?_, ?_⟩
    · rw [current_relieved]
      have hall := run.faithful.hall
      rw [← split] at hall
      exact .start hall
    · rw [acts_relieved, current_relieved]
      exact (List.append_nil _).symm

theorem Reached.hall (reached : Reached answers history station) :
    Hall.Reached answers (acts history) station.hall := by
  obtain ⟨before, run, split⟩ := reached.run
  rw [split]
  exact run.faithful.hall

theorem Reached.disciplined (reached : Reached answers history station) :
    Disciplined (current history) station := by
  obtain ⟨before, run, -⟩ := reached.run
  exact run.disciplined

theorem Civil.left (civil : Civil (earlier ++ later)) : Civil earlier :=
  fun act member => civil act (List.mem_append_left _ member)

section Silent

/-- To do something other than opening or closing the queue does not change whether it is open. -/
theorem serving_of_rest (disciplined : Disciplined (current history) station)
    {action : ReaderAction} {rest : List ReaderAction} (upcoming : station.agenda = action :: rest)
    (unopening : action ≠ .reopenQueue) (unclosing : ∀ reason, action ≠ .closeQueue reason) :
    Serving { station with agenda := rest } ↔ Serving station := by
  cases phase : station.phase with
  | connecting =>
    obtain ⟨before, signal, same, suffix⟩ := disciplined.pending
    rw [phase] at same
    rw [upcoming] at suffix
    rcases Station.agenda_of_connecting same.symm with whole | whole <;> rw [whole] at suffix
    · cases List.suffix_nil.mp suffix
    · have first := suffix.subset List.mem_cons_self
      exact absurd (List.mem_singleton.mp first) unopening
  | starting | reading => simp only [Serving, phase]
  | draining | closed =>
    have fewer : ∀ reason, .closeQueue reason ∈ station.agenda ↔ .closeQueue reason ∈ rest := by
      intro reason
      rw [upcoming, List.mem_cons, or_iff_right (unclosing reason).symm]
    simp only [Serving, phase, fewer]

/-- To take up a signal does not change whether the queue is open: who is to close it has not closed
it yet. -/
theorem serving_of_hear (signal : ReaderSignal) (idle : station.agenda = [])
    (quiet : station.pursuit = none) :
    (Serving (station.hear signal) → Serving station) ∧
      (Served (station.hear signal) → Served station) := by
  unfold Served Serving
  cases phase : station.phase <;> cases signal <;>
    simp [Station.hear, phase, idle, quiet, ReaderPhase.react, ReaderPhase.leave,
      ReaderPhase.isLeaving]

/-- What the reader does by itself leaves the hall as it is, and the queue open or closed. -/
theorem silent (step : Station.Step answers station deed next)
    (disciplined : Disciplined (current history) station) (alone : deed.act? = none) :
    next.hall = station.hall ∧ (Serving next → Serving station) ∧
      (Served next → Served station) ∧
      ∀ errand reason closing, station.hall.errands errand = .asked (.sweep reason closing) →
        station.pursuit = some (.closing errand reason) →
          next.pursuit = some (.closing errand reason) := by
  have unpursued : ∀ {pursuit : Option Pursuit}, station.pursuit = none →
      ∀ errand reason (closing : Bool),
        station.hall.errands errand = .asked (.sweep reason closing) →
          station.pursuit = some (.closing errand reason) →
            pursuit = some (.closing errand reason) := by
    intro pursuit quiet errand reason closing _ pursued
    cases quiet.symm.trans pursued
  have rested : ∀ {rest : List ReaderAction},
      (Serving { station with agenda := rest } ↔ Serving station) →
        Served { station with agenda := rest } → Served station := by
    rintro rest same ⟨leaving, unserving⟩
    exact ⟨leaving, fun serving => unserving (same.mpr serving)⟩
  cases step with
  | party | reopen | close | offer => cases alone
  | hear signal idle quiet heard =>
    obtain ⟨serving, served⟩ := serving_of_hear signal idle quiet
    exact ⟨rfl, serving, served, unpursued quiet⟩
  | skip frame error rest quiet upcoming decoded =>
    have same := serving_of_rest disciplined upcoming (by simp) (by simp)
    exact ⟨rfl, same.mp, rested same, unpursued quiet⟩
  | publish state rest quiet upcoming =>
    have same := serving_of_rest disciplined upcoming (by simp) (by simp)
    exact ⟨rfl, same.mp, rested same, unpursued quiet⟩
  | closeStream outcome rest quiet upcoming =>
    have same := serving_of_rest disciplined upcoming (by simp) (by simp)
    exact ⟨rfl, same.mp, rested same, unpursued quiet⟩
  | finish result rest quiet upcoming =>
    have same := serving_of_rest disciplined upcoming (by simp) (by simp)
    exact ⟨rfl, same.mp, rested same, unpursued quiet⟩
  | closed reason errand request reply pursued answered =>
    obtain ⟨-, leaving, once⟩ := disciplined.closing errand reason pursued
    refine ⟨rfl, ?_, ?_, ?_⟩
    · intro serving
      have left : ({ station with pursuit := none } : Station).phase.isLeaving = true := leaving
      rcases (Station.serving_of_leaving left).mp serving with ⟨other, member⟩ | ⟨_, _, found, -⟩
      · exact absurd member (once other)
      · cases found
    · rintro -
      refine ⟨leaving, ?_⟩
      rw [Station.serving_of_leaving leaving]
      rintro (⟨other, member⟩ | ⟨owner, cause, found, asked, -⟩)
      · exact absurd member (once other)
      · cases pursued.symm.trans found
        cases answered.symm.trans asked
    · intro owner cause closing asked found
      cases pursued.symm.trans found
      cases answered.symm.trans asked
  | claimed frame errand event request pursued answered =>
    have reading := disciplined.offering frame errand event pursued
    refine ⟨rfl, fun _ => ?_, fun served => ?_, fun _ _ _ _ found => ?_⟩
    · simp only [Serving, reading]
    · have leaving : station.phase.isLeaving = true := served.1
      rw [reading] at leaving
      cases leaving
    · cases pursued.symm.trans found
  | spawn frame errand event back request pursued answered =>
    have reading := disciplined.offering frame errand event pursued
    refine ⟨rfl, fun _ => ?_, fun served => ?_, fun _ _ _ _ found => ?_⟩
    · simp only [Serving, reading]
    · have leaving : station.phase.isLeaving = true := served.1
      rw [reading] at leaving
      cases leaving
    · cases pursued.symm.trans found
  | deliver | requestStop | connect | endCallback =>
    exact ⟨rfl, id, id, fun _ _ _ _ found => found⟩

end Silent

/-- The queue is open and closed as the readers have it: a reader opens it when it begins and closes
it when it leaves. -/
structure Governed (history : List Move) (station : Station) : Prop where
  asked : ∀ errand reason closing, station.hall.errands errand = .asked (.sweep reason closing) →
    closing = true ∧ station.pursuit = some (.closing errand reason)
  serving : Serving station → station.hall.queue.closed = none
  served : Served station →
    ∃ errand reason, .closing errand reason ∈ current history ∧ Shut (acts history) errand reason
  shut : ∀ errand reason, Shut (acts history) errand reason →
    station.hall.queue.closed = some reason

theorem start_governed : Governed [] (Station.start Hall.start) where
  asked := fun _ _ _ found => nomatch found
  serving := fun serving => serving.elim
  served := fun served => nomatch served.1
  shut := fun _ _ shut => absurd shut Hall.not_shut_nil

theorem Governed.open_of_asked (governed : Governed history station)
    (disciplined : Disciplined (current history) station) {closing : Bool}
    (asked : station.hall.errands errand = .asked (.sweep reason closing))
    (waiting : station.hall.lock.errand? ≠ some errand) :
    station.hall.queue.closed = none := by
  obtain ⟨rfl, pursued⟩ := governed.asked errand reason closing asked
  obtain ⟨-, leaving, -⟩ := disciplined.closing errand reason pursued
  exact governed.serving ((Station.serving_of_leaving leaving).mpr
    (.inr ⟨errand, reason, pursued, asked, waiting⟩))

section Party

variable {act : Act} {hall : Hall}

/-- If the queue is open after somebody else's step, then it was open before. -/
theorem serving_of_party (step : Hall.Step answers station.hall act hall)
    (civil : act.governs = false) (serving : Serving { station with hall := hall }) :
    Serving station := by
  cases leaving : station.phase.isLeaving with
  | false =>
    have stays : ({ station with hall := hall } : Station).phase.isLeaving = false := leaving
    exact (Station.serving_of_staying leaving).mpr ((Station.serving_of_staying stays).mp serving)
  | true =>
    have left : ({ station with hall := hall } : Station).phase.isLeaving = true := leaving
    rcases (Station.serving_of_leaving left).mp serving with
      planned | ⟨errand, reason, pursued, asked, waiting⟩
    · exact (Station.serving_of_leaving leaving).mpr (.inl planned)
    · refine (Station.serving_of_leaving leaving).mpr (.inr ⟨errand, reason, pursued, ?_, ?_⟩)
      · rcases step.asked_cases asked with before | rfl
        · exact before
        · cases civil
      · intro held
        by_cases leaves : act = .left errand
        · subst leaves
          cases step with
          | leaveSearch | leaveSweep => simp [Hall.setErrand] at asked
        · exact waiting (step.lock_kept held leaves)

theorem unopened_of_civil (civil : act.governs = false) : act ≠ .reopened := by
  rintro rfl
  cases civil

theorem Governed.open_after_party (governed : Governed history station)
    (disciplined : Disciplined (current history) station)
    (step : Hall.Step answers station.hall act hall) (civil : act.governs = false)
    (serving : Serving { station with hall := hall }) : hall.queue.closed = none := by
  have opened := governed.serving (serving_of_party step civil serving)
  rcases step.closed_cases with ⟨same, -⟩ | ⟨errand, reason, rfl, asked, -, -⟩ | ⟨-, same⟩
  · exact absurd same (unopened_of_civil civil)
  · -- the one who closes the queue has the lock now, so the queue does not count as open
    obtain ⟨-, pursued⟩ := governed.asked errand reason true asked
    obtain ⟨-, leaving, once⟩ := disciplined.closing errand reason pursued
    have left : ({ station with hall := hall } : Station).phase.isLeaving = true := leaving
    rcases (Station.serving_of_leaving left).mp serving with
      ⟨other, planned⟩ | ⟨owner, cause, found, -, waiting⟩
    · exact absurd planned (once other)
    · cases pursued.symm.trans found
      cases step with
      | enterSearch | enterSweep => exact absurd rfl waiting
  · exact same.trans opened

/-- When a reader stops serving by somebody else's step, its errand enters to close the queue. -/
theorem Governed.shut_after_party (governed : Governed history station)
    (reached : Reached answers history station) (step : Hall.Step answers station.hall act hall)
    (civil : act.governs = false) (served : Served { station with hall := hall }) :
    ∃ errand reason, .closing errand reason ∈ current history ∧
      Shut (acts history ++ [act]) errand reason := by
  by_cases before : Served station
  · obtain ⟨errand, reason, member, shut⟩ := governed.served before
    exact ⟨errand, reason, member, Hall.shut_snoc.mpr (.inr ⟨unopened_of_civil civil, shut⟩)⟩
  · have leaving : station.phase.isLeaving = true := served.1
    have serving : Serving station := by
      by_contra unserving
      exact before ⟨leaving, unserving⟩
    rcases (Station.serving_of_leaving leaving).mp serving with
      planned | ⟨errand, reason, pursued, asked, waiting⟩
    · exact absurd ((Station.serving_of_leaving served.1).mpr (.inl planned)) served.2
    · obtain ⟨member, -, -⟩ := reached.disciplined.closing errand reason pursued
      refine ⟨errand, reason, member, Hall.shut_snoc.mpr (.inl ?_)⟩
      have held : hall.lock.errand? = some errand := by
        by_contra unheld
        rcases step.asked_kept asked with kept | ⟨-, held⟩
        · exact served.2 ((Station.serving_of_leaving served.1).mpr
            (.inr ⟨errand, reason, pursued, kept, unheld⟩))
        · exact waiting held
      have balanced := reached.hall.balanced errand
      simp only [Hall.Balanced, asked] at balanced
      refine ⟨step.entered_of_held waiting held, ?_⟩
      rw [balanced.1]
      exact List.mem_singleton_self _

theorem Governed.closed_after_party (governed : Governed history station)
    (reached : Reached answers history station) (step : Hall.Step answers station.hall act hall)
    (civil : act.governs = false) (shut : Shut (acts history ++ [act]) errand reason) :
    hall.queue.closed = some reason := by
  rcases Hall.shut_snoc.mp shut with ⟨rfl, requested⟩ | ⟨-, shut⟩
  · obtain ⟨request, asked, sole⟩ := reached.hall.request_of_enters step
    rw [sole, List.mem_singleton] at requested
    subst requested
    exact step.closed_of_enters asked
  · have closed := governed.shut errand reason shut
    rcases step.closed_cases with ⟨same, -⟩ | ⟨owner, cause, rfl, asked, -, -⟩ | ⟨-, same⟩
    · exact absurd same (unopened_of_civil civil)
    · have free : station.hall.lock.errand? ≠ some owner := by
        cases step with
        | enterSearch _ _ free | enterSweep _ _ _ free =>
          rw [free, Lock.errand?]
          exact (Option.some_ne_none owner).symm
      cases closed.symm.trans (governed.open_of_asked reached.disciplined asked free)
    · exact same.trans closed

theorem Governed.party (governed : Governed history station)
    (reached : Reached answers history station) (step : Hall.Step answers station.hall act hall)
    (civil : act.governs = false) :
    Governed (history ++ [.did (.party act)]) { station with hall := hall } := by
  refine ⟨?_, governed.open_after_party reached.disciplined step civil, ?_, ?_⟩
  · intro errand reason closing asked
    rcases step.asked_cases asked with before | rfl
    · exact governed.asked errand reason closing before
    · cases civil
  · intro served
    obtain ⟨errand, reason, member, shut⟩ := governed.shut_after_party reached step civil served
    rw [current_did, acts_did]
    exact ⟨errand, reason, List.mem_append_left _ member, shut⟩
  · intro errand reason shut
    rw [acts_did] at shut
    exact governed.closed_after_party reached step civil shut

end Party

theorem Governed.silent (governed : Governed history station)
    (disciplined : Disciplined (current history) station)
    (step : Station.Step answers station deed next) (alone : deed.act? = none) :
    Governed (history ++ [.did deed]) next := by
  obtain ⟨hall, serving, served, pursued⟩ := Relay.silent step disciplined alone
  have calm : acts (history ++ [.did deed]) = acts history := by
    rw [acts_did, alone, Option.toList_none, List.append_nil]
  refine ⟨?_, ?_, ?_, ?_⟩
  · rw [hall]
    intro errand reason closing asked
    obtain ⟨sure, before⟩ := governed.asked errand reason closing asked
    exact ⟨sure, pursued errand reason closing asked before⟩
  · rw [hall]
    exact fun after => governed.serving (serving after)
  · intro after
    obtain ⟨errand, reason, member, shut⟩ := governed.served (served after)
    rw [calm, current_did]
    exact ⟨errand, reason, List.mem_append_left _ member, shut⟩
  · rw [calm, hall]
    exact governed.shut

/-- An act of the reader that opens and closes nothing leaves who opened and closed the queue. -/
theorem shut_kept {act : Act} (stays : act ≠ .reopened)
    (entered : ∀ errand, act ≠ .entered errand) :
    Shut (acts history ++ [act]) errand reason ↔ Shut (acts history) errand reason := by
  rw [Hall.shut_snoc]
  constructor
  · rintro (⟨same, -⟩ | ⟨-, shut⟩)
    · exact absurd same (entered errand)
    · exact shut
  · exact fun shut => .inr ⟨stays, shut⟩

theorem Governed.reopen (governed : Governed history station)
    (disciplined : Disciplined (current history) station) {rest : List ReaderAction} {hall : Hall}
    (quiet : station.pursuit = none) (upcoming : station.agenda = .reopenQueue :: rest)
    (step : Hall.Step answers station.hall .reopened hall) :
    Governed (history ++ [.did .reopened]) { station with hall := hall, agenda := rest } := by
  obtain ⟨phase, signal, same, suffix⟩ := disciplined.pending
  rw [upcoming] at suffix
  obtain ⟨connecting, -⟩ := Station.connecting_of_reopenQueue suffix
  rw [← same] at connecting
  cases step with
  | reopen free =>
    refine ⟨?_, fun _ => rfl, ?_, ?_⟩
    · intro errand reason closing asked
      have pursued := (governed.asked errand reason closing asked).2
      cases quiet.symm.trans pursued
    · rintro ⟨leaving, -⟩
      rw [show station.phase = .connecting from connecting] at leaving
      cases leaving
    · intro errand reason shut
      rw [acts_did] at shut
      rcases Hall.shut_snoc.mp shut with ⟨same, -⟩ | ⟨stays, -⟩
      · cases same
      · exact absurd rfl stays

theorem Governed.close (governed : Governed history station)
    (reached : Reached answers history station) {rest : List ReaderAction} {hall : Hall}
    (quiet : station.pursuit = none) (upcoming : station.agenda = .closeQueue reason :: rest)
    (step : Hall.Step answers station.hall (.asked errand (.sweep reason true)) hall) :
    Governed (history ++ [.did (.closing errand reason)])
      { station with hall := hall, agenda := rest, pursuit := some (.closing errand reason) } := by
  obtain ⟨phase, signal, same, suffix⟩ := reached.disciplined.pending
  rw [upcoming] at suffix
  have leaving := (Station.leaving_of_closeQueue suffix).1
  rw [← same] at leaving
  have planned : .closeQueue reason ∈ station.agenda := by
    rw [upcoming]
    exact List.mem_cons_self
  have opened :=
    governed.serving ((Station.serving_of_leaving leaving).mpr (.inl ⟨reason, planned⟩))
  have unshut : ∀ errand reason, ¬ Shut (acts history) errand reason := by
    intro errand reason shut
    cases opened.symm.trans (governed.shut errand reason shut)
  cases step with
  | ask _ _ fresh =>
    refine ⟨?_, fun _ => opened, ?_, ?_⟩
    · intro owner cause closing asked
      by_cases own : owner = errand
      · subst own
        simp only [Hall.setErrand, Function.update_self] at asked
        cases asked
        exact ⟨rfl, rfl⟩
      · simp only [Hall.setErrand, Function.update_of_ne own] at asked
        have pursued := (governed.asked owner cause closing asked).2
        cases quiet.symm.trans pursued
    · rintro ⟨left, unserving⟩
      refine absurd ((Station.serving_of_leaving left).mpr (.inr ⟨errand, reason, rfl, ?_, ?_⟩))
        unserving
      · exact Function.update_self ..
      · intro held
        obtain ⟨request, asked⟩ := reached.hall.orderly.lock.asked held
        cases fresh.symm.trans asked
    · intro owner cause shut
      rw [acts_did] at shut
      have before := (shut_kept Act.noConfusion fun _ => Act.noConfusion).mp shut
      exact absurd before (unshut owner cause)

theorem Governed.offer (governed : Governed history station)
    (disciplined : Disciplined (current history) station) {frame : String} {event : Event}
    {rest : List ReaderAction} {hall : Hall} (upcoming : station.agenda = .dispatch frame :: rest)
    (quiet : station.pursuit = none)
    (step : Hall.Step answers station.hall (.asked errand (.offer event)) hall) :
    Governed (history ++ [.did (.offered frame errand event)])
      { station with
        hall := hall, agenda := rest, pursuit := some (.offering frame errand event) } := by
  have planned : .dispatch frame ∈ station.agenda := by
    rw [upcoming]
    exact List.mem_cons_self
  have reading := disciplined.dispatching planned
  have opened : station.hall.queue.closed = none :=
    governed.serving (by simp only [Serving, reading])
  cases step with
  | ask _ _ fresh =>
    refine ⟨?_, fun _ => opened, ?_, ?_⟩
    · intro owner cause closing asked
      by_cases own : owner = errand
      · subst own
        simp only [Hall.setErrand, Function.update_self] at asked
        cases asked
      · simp only [Hall.setErrand, Function.update_of_ne own] at asked
        have pursued := (governed.asked owner cause closing asked).2
        cases quiet.symm.trans pursued
    · rintro ⟨leaving, -⟩
      rw [show station.phase = .reading from reading] at leaving
      cases leaving
    · intro owner cause shut
      rw [acts_did] at shut
      exact governed.shut owner cause ((shut_kept Act.noConfusion fun _ => Act.noConfusion).mp shut)

theorem Governed.relieve (governed : Governed history station) (ceased : station.Over) :
    Governed (history ++ [.relieved]) (Station.start station.hall) where
  asked := by
    intro errand reason closing asked
    obtain ⟨-, pursued⟩ := governed.asked errand reason closing asked
    cases ceased.2.2.symm.trans pursued
  serving := fun serving => serving.elim
  served := fun served => nomatch served.1
  shut := by
    rw [acts_relieved]
    exact governed.shut

theorem Reached.governed (reached : Reached answers history station) (civil : Civil history) :
    Governed history station := by
  induction reached with
  | start => exact start_governed
  | relieve reached ceased ih => exact (ih civil.left).relieve ceased
  | @did history station next deed reached step ih =>
    have governed := ih civil.left
    have disciplined := reached.disciplined
    by_cases alone : deed.act? = none
    · exact governed.silent disciplined step alone
    · cases step with
      | party act hall step =>
        have calm := civil act (List.mem_append_right _ (List.mem_singleton_self _))
        exact governed.party reached step calm
      | reopen rest hall quiet upcoming step =>
        exact governed.reopen disciplined quiet upcoming step
      | close reason rest errand hall quiet upcoming step =>
        exact governed.close reached quiet upcoming step
      | offer frame event rest errand hall quiet upcoming decoded step =>
        exact governed.offer disciplined upcoming quiet step
      | _ => exact absurd rfl alone

end Relay
end Switchboard
