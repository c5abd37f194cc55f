import Switchboard.Proofs.Stream.Beside
import Switchboard.Proofs.Waiter.Promptness

set_option autoImplicit false

namespace Switchboard

open Hall (Answers Responsive)

theorem Station.agenda_of_dispatch {phase : ReaderPhase} {signal : ReaderSignal}
    {agenda : List ReaderAction} {frame : String} (suffix : agenda <:+ (phase.react signal).2)
    (member : .dispatch frame ∈ agenda) :
    agenda = [.dispatch frame, .publish .reading] ∨
      agenda = [.publish .dispatching, .dispatch frame, .publish .reading] := by
  have whole := suffix.subset member
  cases phase <;> cases signal <;>
    simp_all [ReaderPhase.react, ReaderPhase.leave, List.suffix_cons_iff]
  rcases suffix with rfl | rfl | rfl | rfl <;> simp_all

/-- Nothing is in hand if no event was offered and no frame is to be dealt with. -/
theorem Station.inHand_eq_nil {station : Station}
    (unoffered : station.pursuit.bind Pursuit.frame? = none)
    (unplanned : ∀ frame, .dispatch frame ∉ station.agenda) : station.inHand = [] := by
  rw [inHand, unoffered]
  refine List.filterMap_eq_nil_iff.mpr fun action member => ?_
  cases action with
  | dispatch frame => exact absurd member (unplanned frame)
  | _ => rfl

/-- A step that can bring a reader further with the frame in hand: somebody's in the hall, or one of
its own by which it takes up nothing. -/
def Incident.Attends (reader : ReaderId) : Incident → Prop
  | .acted _ => True
  | .moved other motion => other = reader ∧ motion.deed?.bind Deed.heard? = none
  | _ => False

namespace Fleet

open Station (framesTaken dealings)

variable {answers : Answers} {history more : List Incident} {fleet next : Fleet}
  {incident : Incident} {reader : ReaderId} {desk : Desk}

theorem Reached.append (reached : Reached answers history fleet)
    (run : Run answers fleet more next) : Reached answers (history ++ more) next := by
  obtain ⟨begun, before⟩ := reached
  exact .intro begun (before.append run)

theorem run_of_hall {acts : List Act} {hall : Hall} (run : Hall.Run answers fleet.hall acts hall) :
    Run answers fleet (acts.map .acted) { fleet with hall := hall } := by
  induction run with
  | nil => exact .nil
  | snoc run step ih =>
    rw [List.map_append]
    exact ih.snoc (.act _ _ step)

/-- A reader can come to have nothing in hand, without taking up anything and without anybody's
help outside the hall. -/
def Clears (answers : Answers) (fleet : Fleet) (reader : ReaderId) : Prop :=
  ∃ more last desk, Run answers fleet more last ∧ (∀ incident ∈ more, incident.Attends reader) ∧
    last.desks reader = some desk ∧ desk.station.inHand = []

theorem Clears.of_run (run : Run answers fleet more next)
    (attends : ∀ incident ∈ more, incident.Attends reader) (clears : Clears answers next reader) :
    Clears answers fleet reader := by
  obtain ⟨others, last, desk, runs, attend, sits, free⟩ := clears
  refine ⟨more ++ others, last, desk, run.append runs, fun incident member => ?_, sits, free⟩
  exact (List.mem_append.mp member).elim (attends incident) (attend incident)

theorem Clears.of_step (step : Step answers fleet incident next)
    (attends : incident.Attends reader) (clears : Clears answers next reader) :
    Clears answers fleet reader :=
  clears.of_run (.single step) fun _ member => List.mem_singleton.mp member ▸ attends

theorem clears_of_free (sits : fleet.desks reader = some desk) (free : desk.station.inHand = []) :
    Clears answers fleet reader :=
  ⟨[], fleet, desk, .nil, List.forall_mem_nil _, sits, free⟩

theorem clears_of_deed {deed : Deed} {station : Station} (sits : fleet.desks reader = some desk)
    (awake : desk.awake = true) (own : deed.byReader = true) (silent : deed.heard? = none)
    (step : Station.Step answers (desk.within fleet.hall) deed station)
    (clears : ∀ next, Step answers fleet (.moved reader (.did deed)) next →
      next.desks reader = some (desk.after deed station) → Clears answers next reader) :
    Clears answers fleet reader := by
  have ready : ∀ signal, deed = .heard signal → desk.station.phase.selects = true →
      desk.looked = true := by
    rintro signal rfl
    cases silent
  have moves := Step.move reader _ desk _ _ sits (.act deed station awake own ready step)
  exact .of_step moves ⟨rfl, silent⟩ (clears _ moves (Function.update_self ..))

section Reached

variable (reached : Reached answers history fleet) (sits : fleet.desks reader = some desk)
  (awake : desk.awake = true) (responsive : Responsive answers)

include reached sits awake responsive

theorem Reached.clears_offering {frame : String} {errand : ErrandId} {event : Event}
    (pursued : desk.station.pursuit = some (.offering frame errand event)) :
    Clears answers fleet reader := by
  obtain ⟨acts, done, station, -⟩ := reached.station sits
  have asked : fleet.hall.errands errand ≠ .unasked := by
    intro unasked
    have offered := (station.faithful.pursued _ pursued).2
    have balanced := station.faithful.hall.balanced errand
    simp only [Hall.Balanced, Desk.within, unasked] at balanced
    rw [balanced.1] at offered
    cases offered
  obtain ⟨hall, request, reply, ⟨during, parties⟩, answered⟩ :=
    Hall.leads_answered responsive asked
  have faithful := (station.parties parties).faithful
  have offered := (faithful.pursued _ pursued).2
  obtain ⟨rfl, -⟩ := Station.answered_offer faithful.hall offered answered
  obtain ⟨taker, -, -, -, made⟩ := faithful.hall.chosen answered
  have rest : desk.station.agenda.filterMap ReaderAction.frame? = [] := by
    have single := faithful.single
    simp only [Station.inHand, Desk.within, pursued] at single
    simpa [Pursuit.frame?] using single
  have lies : ({ fleet with hall := hall } : Fleet).desks reader = some desk := sits
  refine Clears.of_run (run_of_hall parties) ?_ ?_
  · intro incident member
    obtain ⟨act, -, rfl⟩ := List.mem_map.mp member
    trivial
  · rw [made] at answered
    cases taker with
    | some waiter =>
      refine clears_of_deed lies awake rfl rfl (.claimed frame errand event _ pursued answered) ?_
      exact fun next _ moved => clears_of_free moved rest
    | none =>
      refine clears_of_deed lies awake rfl rfl
        (.spawn frame errand event event _ pursued answered) ?_
      exact fun next _ moved => clears_of_free moved rest

theorem Reached.clears_dispatch {frame : String} (quiet : desk.station.pursuit = none)
    (upcoming : desk.station.agenda = [.dispatch frame, .publish .reading]) :
    Clears answers fleet reader := by
  cases decoded : Event.decode frame with
  | error error =>
    refine clears_of_deed sits awake rfl rfl (.skip frame error _ quiet upcoming decoded) ?_
    intro next _ moved
    refine clears_of_free moved (Station.inHand_eq_nil ?_ ?_)
    · exact congrArg (Option.bind · Pursuit.frame?) quiet
    · simp [Desk.after]
  | ok event =>
    obtain ⟨acts, hall⟩ := reached.hall
    obtain ⟨errand, fresh⟩ := hall.exists_unasked
    refine clears_of_deed sits awake rfl rfl
      (.offer frame event _ errand _ quiet upcoming decoded (.ask errand (.offer event) fresh)) ?_
    intro next step moved
    exact (reached.append (.single step)).clears_offering moved awake responsive rfl

theorem Reached.clears_awake : Clears answers fleet reader := by
  obtain ⟨acts, done, station, -⟩ := reached.station sits
  have disciplined := station.disciplined
  cases pursued : desk.station.pursuit with
  | some pursuit =>
    cases pursuit with
    | offering frame errand event => exact reached.clears_offering sits awake responsive pursued
    | closing errand reason =>
      -- who closes the queue has left reading, and nothing is in hand
      have leaving := (disciplined.closing errand reason pursued).2.1
      refine clears_of_free sits (Station.inHand_eq_nil (by rw [pursued]; rfl) ?_)
      intro frame member
      have reading : desk.station.phase = .reading := disciplined.dispatching member
      simp only [Desk.within, reading, ReaderPhase.isLeaving] at leaving
      cases leaving
  | none =>
    by_cases planned : ∃ frame, .dispatch frame ∈ desk.station.agenda
    · obtain ⟨frame, member⟩ := planned
      obtain ⟨phase, signal, -, suffix⟩ := disciplined.pending
      rcases Station.agenda_of_dispatch suffix member with upcoming | upcoming
      · exact reached.clears_dispatch sits awake responsive pursued upcoming
      · refine clears_of_deed sits awake rfl rfl (.publish .dispatching _ pursued upcoming) ?_
        intro next step moved
        exact (reached.append (.single step)).clears_dispatch moved awake responsive pursued rfl
    · exact clears_of_free sits
        (Station.inHand_eq_nil (by rw [pursued]; rfl) (not_exists.mp planned))

end Reached

theorem Reached.clears (reached : Reached answers history fleet)
    (sits : fleet.desks reader = some desk) (alive : desk.Alive)
    (responsive : Responsive answers) : Clears answers fleet reader := by
  cases awake : desk.awake with
  | true => exact reached.clears_awake sits awake responsive
  | false =>
    have wakes : Step answers fleet _ _ := .move reader _ desk _ _ sits (.wake awake alive)
    refine Clears.of_step wakes ⟨rfl, rfl⟩ ?_
    exact (reached.append (.single wakes)).clears_awake (Function.update_self ..) rfl responsive

theorem framesTaken_of_attends (attends : ∀ incident ∈ more, incident.Attends reader) :
    framesTaken (deeds (history ++ more) reader) = framesTaken (deeds history reader) := by
  suffices idle : (deeds more reader).filterMap Deed.taken? = [] by
    rw [deeds_append, framesTaken, framesTaken, List.filterMap_append, idle, List.append_nil]
  refine List.filterMap_eq_nil_iff.mpr fun deed done => ?_
  obtain ⟨motion, moved, same⟩ := List.mem_filterMap.mp done
  obtain ⟨incident, member, own⟩ := List.mem_filterMap.mp moved
  have attended := attends incident member
  cases incident with
  | moved other another =>
    simp only [Incident.motion?, Option.ite_none_right_eq_some, Option.some.injEq] at own
    obtain ⟨-, rfl⟩ := own
    have silent := attended.2
    rw [same] at silent
    cases deed <;> first | rfl | cases silent
  | _ => cases own

/-- All frames that a reader has taken up can come to be dealt with, in their turn and as it has to
be, and it takes up none for that. -/
theorem Reached.completes (reached : Reached answers history fleet)
    (sits : fleet.desks reader = some desk) (alive : desk.Alive)
    (responsive : Responsive answers) :
    ∃ more last, Run answers fleet more last ∧ (∀ incident ∈ more, incident.Attends reader) ∧
      (dealings (deeds (history ++ more) reader)).map Dealing.frame =
        framesTaken (deeds history reader) := by
  obtain ⟨more, last, left, run, attends, remains, free⟩ := reached.clears sits alive responsive
  refine ⟨more, last, run, attends, ?_⟩
  have frames := ((reached.append run).frames remains).1
  rw [free, List.append_nil] at frames
  rw [← frames, framesTaken_of_attends attends]

end Fleet
end Switchboard
