import Switchboard.Proofs.Stream.Script

set_option autoImplicit false

namespace Switchboard

open Hall (Answers evaluated filterMap_snoc)

namespace Deed

def published? : Deed → Option StreamState
  | .published state => some state
  | _ => none

def streamClosed? : Deed → Option (Except TransportError Unit)
  | .streamClosed outcome => some outcome
  | _ => none

def finished? : Deed → Option StreamResult
  | .finished result => some result
  | _ => none

end Deed

namespace ReaderAction

def state? : ReaderAction → Option StreamState
  | .publish state => some state
  | _ => none

def closes : ReaderAction → Bool
  | .closeStream => true
  | _ => false

def finishes : ReaderAction → Bool
  | .finish _ => true
  | _ => false

end ReaderAction

/-- The hall after an errand closed the queue while nobody was in it. -/
def Hall.vacated (hall : Hall) (errand : ErrandId) (reason : WaitError) : Hall :=
  { hall with
    queue := hall.queue.vacate reason true
    lock := .free
    errands :=
      Function.update hall.errands errand (.answered (.sweep reason true) (.resolved 0)) }

namespace Station

/-- The states that others can see one after the other: a reader is connecting when it is made. -/
def published (history : List Deed) : List StreamState :=
  .connecting :: history.filterMap Deed.published?

def closings (history : List Deed) : List (Except TransportError Unit) :=
  history.filterMap Deed.streamClosed?

def results (history : List Deed) : List StreamResult := history.filterMap Deed.finished?

/-- The states that a run publishes from its beginning to its end. -/
inductive Word : List StreamState → Prop
  | unconnected : Word [.connecting, .closed]
  | drained (frames : Nat) :
      Word ([.connecting, .reading] ++ (List.replicate frames [.dispatching, .reading]).flatten ++
        [.draining, .closed])

/-- Every callback that was started has ended. -/
def Drained (history : List Deed) : Prop := (spawned history).Perm (ended history)

/-- The stream was closed once if there is one, and nothing was closed otherwise. -/
def Released (history : List Deed) : Prop :=
  (closings history).length = if .connected ∈ heard history then 1 else 0

/-- The result tells of the failure that the reader took up, and of nothing else. -/
def Truthful (signals : List ReaderSignal) (result : StreamResult) : Prop :=
  (∀ error, result = .error (.transport error) ↔
    .refused error ∈ signals ∨ .failed error ∈ signals) ∧
  (result = .ok () ∨ ∃ error, result = .error (.transport error))

def release (signals : List ReaderSignal) : List ReaderAction :=
  if .connected ∈ signals then [.closeStream] else []

section Course

variable {phase : ReaderPhase} {signals : List ReaderSignal} {actions : List ReaderAction}

theorem states_readActions (frames : List String) :
    (readActions frames).filterMap ReaderAction.state? =
      .reading :: (List.replicate frames.length [.dispatching, .reading]).flatten := by
  induction frames using List.reverseRecOn with
  | nil => rfl
  | append_singleton frames frame ih =>
    rw [Course.readActions_snoc, List.filterMap_append, ih, List.length_append,
      List.length_singleton, List.replicate_succ', List.flatten_append]
    rfl

theorem readActions_unfinished (frames : List String) :
    ∀ action ∈ readActions frames, action.isFinal = false := by
  intro action member
  simp only [readActions, List.mem_append, List.mem_cons, List.not_mem_nil, or_false,
    List.mem_flatMap] at member
  rcases member with (rfl | rfl) | ⟨frame, -, rfl | rfl | rfl⟩ <;> rfl

theorem truthful_of_leaves (frames : List String) {signal : ReaderSignal}
    {outcome : Except TransportError Unit} (leaves : signal.Leaves outcome) :
    Truthful (readSignals frames ++ [signal, .drained]) (outcome.mapError .transport) := by
  cases leaves with
  | stopRequested | ended =>
    refine ⟨fun error => ?_, .inl rfl⟩
    simp [Except.mapError]
  | failed fault =>
    refine ⟨fun error => ?_, .inr ⟨fault, rfl⟩⟩
    simp [Except.mapError, eq_comm]

theorem Course.unfinished (course : Course phase signals actions) (running : phase ≠ .closed) :
    (∀ action ∈ actions, action.isFinal = false) ∧
      ∃ rest, Word (.connecting :: actions.filterMap ReaderAction.state? ++ rest) := by
  cases course with
  | starting => exact ⟨by simp, [.closed], .unconnected⟩
  | connecting => exact ⟨by simp [ReaderAction.isFinal], [.closed], .unconnected⟩
  | reading frames =>
    refine ⟨readActions_unfinished frames, [.draining, .closed], ?_⟩
    rw [states_readActions]
    exact .drained frames.length
  | draining frames signal outcome leaves =>
    refine ⟨?_, [.closed], ?_⟩
    · intro action member
      rcases List.mem_append.mp member with early | late
      · exact readActions_unfinished frames action early
      · simp only [List.mem_cons, List.not_mem_nil, or_false] at late
        rcases late with rfl | rfl <;> rfl
    · rw [List.filterMap_append, states_readActions]
      simpa [List.filterMap_cons, ReaderAction.state?] using Word.drained frames.length
  | stopped | refused | closed => exact absurd rfl running

/-- All that a run does until it has ended: the stream is closed, the others are told, and the
result is sent, after everything else. -/
theorem Course.finale (course : Course .closed signals actions) :
    ∃ prelude result, actions = prelude ++ release signals ++ [.publish .closed, .finish result] ∧
      (∀ action ∈ prelude, action.isFinal = false) ∧ Truthful signals result ∧
      Word (.connecting :: actions.filterMap ReaderAction.state?) := by
  cases course with
  | stopped =>
    refine ⟨[.reopenQueue, .closeQueue .streamClosed], .ok (), rfl, ?_, ?_, .unconnected⟩
    · simp [ReaderAction.isFinal]
    · simp [Truthful]
  | refused error =>
    refine ⟨[.reopenQueue, .closeQueue (.streamFailed error)], .error (.transport error), rfl, ?_,
      ?_, .unconnected⟩
    · simp [ReaderAction.isFinal]
    · simp [Truthful, eq_comm]
  | closed frames signal outcome leaves =>
    refine ⟨readActions frames ++ [.publish .draining, .closeQueue (ReaderPhase.reason outcome)],
      outcome.mapError .transport, ?_, ?_, truthful_of_leaves frames leaves, ?_⟩
    · simp [release, readSignals]
    · exact ((Course.draining frames signal outcome leaves).unfinished (by simp)).1
    · rw [List.filterMap_append, states_readActions]
      simpa [List.filterMap_cons, ReaderAction.state?] using Word.drained frames.length

theorem Course.word (course : Course phase signals actions) :
    ∃ word, Word word ∧ .connecting :: actions.filterMap ReaderAction.state? <+: word := by
  cases phase with
  | closed =>
    obtain ⟨prelude, result, -, -, -, word⟩ := course.finale
    exact ⟨_, word, List.prefix_refl _⟩
  | _ =>
    obtain ⟨-, rest, word⟩ := course.unfinished (by simp)
    exact ⟨_, word, List.prefix_append _ _⟩

theorem Course.closed_of_final {action : ReaderAction} (course : Course phase signals actions)
    (member : action ∈ actions) (final : action.isFinal = true) : phase = .closed := by
  cases phase with
  | closed => rfl
  | _ => exact nomatch final.symm.trans ((course.unfinished (by simp)).1 action member)

/-- What belongs to the end of a run is done in one order, after everything else. -/
theorem Course.at_final {action : ReaderAction} {done rest : List ReaderAction}
    (course : Course phase signals (done ++ action :: rest)) (final : action.isFinal = true) :
    phase = .closed ∧ ∃ prelude ending result,
      done = prelude ++ ending ∧ (∀ action ∈ prelude, action.isFinal = false) ∧
      release signals ++ [.publish .closed, .finish result] = ending ++ action :: rest ∧
      Truthful signals result ∧
      Word (.connecting :: (done ++ action :: rest).filterMap ReaderAction.state?) := by
  obtain rfl := course.closed_of_final (List.mem_append_right _ List.mem_cons_self) final
  obtain ⟨prelude, result, whole, plain, truthful, word⟩ := course.finale
  rw [List.append_assoc, List.append_eq_append_iff] at whole
  rcases whole with ⟨between, rfl, following⟩ | ⟨ending, rfl, following⟩
  · cases between with
    | nil =>
      rw [List.nil_append] at following
      exact ⟨rfl, done, [], result, by simp, by simpa using plain, following.symm, truthful, word⟩
    | cons first others =>
      -- The action would stand before the end of the run.
      obtain ⟨rfl, -⟩ := List.cons.inj following
      have early := plain action (List.mem_append_right _ List.mem_cons_self)
      exact nomatch final.symm.trans early
  · exact ⟨rfl, prelude, ending, result, rfl, plain, following, truthful, word⟩

/-- What belongs to the end of a run only is found in the end of what was done. -/
theorem filter_done {kept : ReaderAction → Bool} {prelude : List ReaderAction}
    (plain : ∀ action ∈ prelude, action.isFinal = false)
    (final : ∀ action, kept action = true → action.isFinal = true)
    (ending : List ReaderAction) : (prelude ++ ending).filter kept = ending.filter kept := by
  have nothing : prelude.filter kept = [] := by
    rw [List.filter_eq_nil_iff]
    intro action member chosen
    exact nomatch (plain action member).symm.trans (final action chosen)
  rw [List.filter_append, nothing, List.nil_append]

theorem final_of_closes (action : ReaderAction) (closes : action.closes = true) :
    action.isFinal = true := by
  cases action <;> first | rfl | cases closes

theorem final_of_finishes (action : ReaderAction) (finishes : action.finishes = true) :
    action.isFinal = true := by
  cases action <;> first | rfl | cases finishes

theorem Course.at_closeStream {done rest : List ReaderAction}
    (course : Course phase signals (done ++ .closeStream :: rest)) :
    phase = .closed ∧ .connected ∈ signals ∧ done.filter ReaderAction.closes = [] ∧
      rest.filter ReaderAction.closes = [] := by
  obtain ⟨closed, prelude, ending, result, rfl, plain, order, -, -⟩ := course.at_final rfl
  by_cases connected : .connected ∈ signals
  · have place : ending = [] ∧ rest = [.publish .closed, .finish result] := by
      simpa [release, connected, List.cons_eq_append_iff] using order
    obtain ⟨rfl, rfl⟩ := place
    exact ⟨closed, connected, filter_done plain final_of_closes [], rfl⟩
  · simp [release, connected, List.cons_eq_append_iff] at order

/-- When a reader tells that it is closed, its stream is closed if it got one, and only the result
is still to be sent. -/
theorem Course.at_closed {done rest : List ReaderAction}
    (course : Course phase signals (done ++ .publish .closed :: rest)) :
    phase = .closed ∧ done.filter ReaderAction.closes = release signals ∧
      done.filter ReaderAction.finishes = [] := by
  obtain ⟨closed, prelude, ending, result, rfl, plain, order, -, -⟩ := course.at_final rfl
  rw [filter_done plain final_of_closes, filter_done plain final_of_finishes]
  by_cases connected : .connected ∈ signals
  · have place : ending = [.closeStream] ∧ rest = [.finish result] := by
      simpa [release, connected, List.cons_eq_append_iff] using order
    rw [place.1, release, if_pos connected]
    exact ⟨closed, rfl, rfl⟩
  · have place : ending = [] ∧ rest = [.finish result] := by
      simpa [release, connected, List.cons_eq_append_iff] using order
    rw [place.1, release, if_neg connected]
    exact ⟨closed, rfl, rfl⟩

theorem Course.at_finish {done rest : List ReaderAction} {result : StreamResult}
    (course : Course phase signals (done ++ .finish result :: rest)) :
    phase = .closed ∧ rest = [] ∧ Truthful signals result ∧
      done.filter ReaderAction.closes = release signals ∧
      done.filter ReaderAction.finishes = [] ∧
      Word (.connecting :: done.filterMap ReaderAction.state?) := by
  obtain ⟨closed, prelude, ending, told, rfl, plain, order, truthful, word⟩ := course.at_final rfl
  rw [filter_done plain final_of_closes, filter_done plain final_of_finishes]
  by_cases connected : .connected ∈ signals
  · have place : ending = [.closeStream, .publish .closed] ∧ result = told ∧ rest = [] := by
      simpa [release, connected, List.cons_eq_append_iff] using order
    obtain ⟨rfl, rfl, rfl⟩ := place
    rw [release, if_pos connected]
    refine ⟨closed, rfl, truthful, rfl, rfl, ?_⟩
    simpa [ReaderAction.state?, List.filterMap_cons] using word
  · have place : ending = [.publish .closed] ∧ result = told ∧ rest = [] := by
      simpa [release, connected, List.cons_eq_append_iff] using order
    obtain ⟨rfl, rfl, rfl⟩ := place
    rw [release, if_neg connected]
    refine ⟨closed, rfl, truthful, rfl, rfl, ?_⟩
    simpa [ReaderAction.state?, List.filterMap_cons] using word

end Course

section Run

variable {answers : Answers} {before : List Act} {history earlier later : List Deed}
  {station next : Station} {deed : Deed}

theorem Step.next_action (step : Step answers station deed next) {action : ReaderAction}
    (does : deed.action? = some action) : ∃ rest, station.agenda = action :: rest := by
  cases step with
  | reopen rest hall quiet upcoming step =>
    cases does
    exact ⟨rest, upcoming⟩
  | close reason rest errand hall quiet upcoming step =>
    cases does
    exact ⟨rest, upcoming⟩
  | skip frame error rest quiet upcoming decoded =>
    cases does
    exact ⟨rest, upcoming⟩
  | offer frame event rest errand hall quiet upcoming decoded step =>
    cases does
    exact ⟨rest, upcoming⟩
  | publish state rest quiet upcoming =>
    cases does
    exact ⟨rest, upcoming⟩
  | closeStream outcome rest quiet upcoming =>
    cases does
    exact ⟨rest, upcoming⟩
  | finish result rest quiet upcoming =>
    cases does
    exact ⟨rest, upcoming⟩
  | _ => cases does

theorem doings_split {action : ReaderAction} (does : deed.action? = some action) :
    doings (earlier ++ deed :: later) = doings earlier ++ action :: doings later := by
  simp [doings, does]

/-- When something is done that belongs to the end of a run, all callbacks have ended, and none is
started any more. -/
theorem Reached.at_final {action : ReaderAction}
    (reached : Reached answers before (earlier ++ deed :: later) station)
    (does : deed.action? = some action) (final : action.isFinal = true) :
    Drained earlier ∧ spawned later = [] ∧
      (∃ phase rest, Course phase (heard earlier) (doings earlier ++ action :: rest)) ∧
      Course station.phase (heard (earlier ++ deed :: later))
        (doings earlier ++ action :: (doings later ++ station.agenda)) := by
  obtain ⟨moment, after, run, step⟩ := reached.at_step
  obtain ⟨rest, upcoming⟩ := step.next_action does
  have disciplined := run.disciplined
  have course := disciplined.course
  rw [upcoming] at course
  have closed : moment.phase = .closed :=
    course.closed_of_final (List.mem_append_right _ List.mem_cons_self) final
  refine ⟨?_, ?_, ⟨moment.phase, rest, course⟩, ?_⟩
  · have nobody : moment.callbacks = [] := disciplined.idle (by rw [closed]; rfl)
    have tally := disciplined.callbacks
    rwa [nobody, List.append_nil] at tally
  · have silent := reached.spawned_of_closed disciplined closed
    rw [spawned, List.filterMap_cons] at silent
    split at silent
    · exact silent
    · cases silent
  · have whole := reached.disciplined.course
    rwa [doings_split does, List.append_assoc, List.cons_append] at whole

theorem length_filterMap_deeds {α : Type} {read : Deed → Option α} {kept : ReaderAction → Bool}
    (same : ∀ deed, (read deed).isSome = deed.action?.any kept) (history : List Deed) :
    (history.filterMap read).length = ((doings history).filter kept).length := by
  induction history with
  | nil => rfl
  | cons deed rest ih =>
    have agree := same deed
    rw [doings] at ih ⊢
    cases found : read deed with
    | none =>
      cases acted : deed.action? with
      | none => simpa [found, acted] using ih
      | some action =>
        have dropped : kept action = false := by simpa [found, acted] using agree.symm
        simpa [found, acted, dropped] using ih
    | some value =>
      cases acted : deed.action? with
      | none => simp [found, acted] at agree
      | some action =>
        have chosen : kept action = true := by simpa [found, acted] using agree.symm
        simpa [found, acted, chosen] using ih

theorem closings_length (history : List Deed) :
    (closings history).length = ((doings history).filter ReaderAction.closes).length :=
  length_filterMap_deeds (fun deed => by cases deed <;> rfl) history

theorem results_length (history : List Deed) :
    (results history).length = ((doings history).filter ReaderAction.finishes).length :=
  length_filterMap_deeds (fun deed => by cases deed <;> rfl) history

theorem published_eq (history : List Deed) :
    published history = .connecting :: (doings history).filterMap ReaderAction.state? := by
  rw [published, doings, List.filterMap_filterMap]
  refine congrArg _ (List.filterMap_congr ?_)
  intro deed _
  cases deed <;> rfl

theorem results_eq_nil {done : List Deed}
    (none_finishes : (doings done).filter ReaderAction.finishes = []) : results done = [] := by
  rw [← List.length_eq_zero_iff, results_length, none_finishes, List.length_nil]

theorem closings_eq_nil {done : List Deed}
    (none_closes : (doings done).filter ReaderAction.closes = []) : closings done = [] := by
  rw [← List.length_eq_zero_iff, closings_length, none_closes, List.length_nil]

theorem released_of_filter {done : List Deed}
    (closes : (doings done).filter ReaderAction.closes = release (heard done)) :
    Released done := by
  rw [Released, closings_length, closes, release]
  split <;> rfl

/-- Whatever the order in which signals come and callbacks end, a reader publishes the states of a
word. It closes its stream only after all callbacks that it started have ended, tells after that
that it is closed, and then sends its result. By then the stream was closed once if there is one,
and a failure is sent exactly if connecting or reading failed. -/
theorem shutdown_drains (reached : Reached answers before history station) :
    (∃ word, Word word ∧ published history <+: word) ∧
    (∀ earlier outcome later, history = earlier ++ .streamClosed outcome :: later →
      .connected ∈ heard earlier ∧ Drained earlier ∧ spawned later = [] ∧
        closings earlier = [] ∧ closings later = []) ∧
    (∀ earlier later, history = earlier ++ .published .closed :: later →
      Released earlier ∧ Drained earlier ∧ results earlier = []) ∧
    ∀ earlier result later, history = earlier ++ .finished result :: later →
      Word (published earlier) ∧ published history = published earlier ∧
        Released earlier ∧ closings later = [] ∧ Drained earlier ∧ spawned later = [] ∧
        results earlier = [] ∧ results later = [] ∧ Truthful (heard earlier) result := by
  refine ⟨?_, ?_, ?_, ?_⟩
  · obtain ⟨word, whole, begun⟩ := reached.disciplined.course.word
    refine ⟨word, whole, List.IsPrefix.trans ?_ begun⟩
    rw [published_eq, List.filterMap_append, ← List.cons_append]
    exact List.prefix_append _ _
  · rintro earlier outcome later rfl
    obtain ⟨drained, silent, ⟨phase, rest, course⟩, whole⟩ := reached.at_final rfl rfl
    obtain ⟨-, connected, none_before, -⟩ := course.at_closeStream
    obtain ⟨-, -, -, none_after⟩ := whole.at_closeStream
    rw [List.filter_append] at none_after
    exact ⟨connected, drained, silent, closings_eq_nil none_before,
      closings_eq_nil (List.append_eq_nil_iff.mp none_after).1⟩
  · rintro earlier later rfl
    obtain ⟨drained, silent, ⟨phase, rest, course⟩, -⟩ := reached.at_final rfl rfl
    obtain ⟨-, closes, finishes⟩ := course.at_closed
    exact ⟨released_of_filter closes, drained, results_eq_nil finishes⟩
  · rintro earlier result later rfl
    obtain ⟨drained, silent, ⟨phase, rest, course⟩, whole⟩ := reached.at_final rfl rfl
    obtain ⟨-, -, truthful, closes, finishes, word⟩ := course.at_finish
    have idle : doings later = [] := (List.append_eq_nil_iff.mp whole.at_finish.2.1).1
    have unchanged : published (earlier ++ .finished result :: later) = published earlier := by
      rw [published_eq, published_eq, doings_split rfl, idle, List.filterMap_append]
      exact congrArg _ (List.append_nil _)
    rw [← published_eq] at word
    refine ⟨word, unchanged, released_of_filter closes, ?_, drained, silent,
      results_eq_nil finishes, ?_, truthful⟩
    · exact closings_eq_nil (by rw [idle]; rfl)
    · exact results_eq_nil (by rw [idle]; rfl)

end Run

def vacating (errand : ErrandId) (reason : WaitError) : List Deed :=
  [.closing errand reason, .party (.entered errand), .party (.left errand),
    .party (.answered errand (.resolved 0)), .closed errand reason]

theorem Run.vacates {answers : Answers} {first station : Station} {deeds : List Deed}
    {reason : WaitError} {rest : List ReaderAction} (run : Run answers first deeds station)
    (errand : ErrandId) (quiet : station.pursuit = none)
    (upcoming : station.agenda = .closeQueue reason :: rest) (free : station.hall.lock = .free)
    (empty : station.hall.queue.slots = []) (unasked : station.hall.errands errand = .unasked) :
    Run answers first (deeds ++ vacating errand reason)
      { station with hall := station.hall.vacated errand reason, agenda := rest } := by
  have d1 := run.snoc (.close reason rest errand _ quiet upcoming (.ask errand _ unasked))
  have d2 := d1.snoc (.party _ _
    (.enterSweep errand reason true free (Hall.setErrand_errands ..)))
  have d3 := d2.snoc (.party _ _
    (.leaveSweep errand reason true []
      (congrArg (Lock.sweeping errand _ true · []) (congrArg (List.map Slot.id) empty))))
  have d4 := d3.snoc (.party _ _ (.answer errand _ _ (Hall.setErrand_errands ..)))
  have d5 := d4.snoc (.closed reason errand _ _ rfl (Hall.setErrand_errands ..))
  simp only [Hall.setErrand, Function.update_idem, List.append_assoc, List.cons_append,
    List.nil_append] at d5
  rw [← quiet] at d5
  exact d5

def broken : TransportError := .connectionClosed "broken"

/-- The stream fails while a callback is running. The callback asks for a stop, too late, and then
the stream cannot be closed either. -/
def overtime : List Deed :=
  [.heard .begun, .reopened, .connected (.ok ()), .heard .connected, .published .reading,
    .delivered (.frame onlineFrame), .delivered (.failed broken),
    .heard (.frame onlineFrame), .published .dispatching, .offered onlineFrame 0 online,
    .party (.entered 0), .party (.left 0), .party (.answered 0 (.unclaimed online)),
    .spawned onlineFrame 0 online, .published .reading,
    .heard (.failed broken), .published .draining, .closing 1 (.streamFailed broken),
    .party (.entered 1), .party (.left 1), .party (.answered 1 (.resolved 0)),
    .closed 1 (.streamFailed broken), .callbackEnded .botOnline (.returned .stop),
    .heard .drained, .streamClosed (.error (.io "closing")), .published .closed,
    .finished (.error (.transport broken))]

theorem busy_run :
    ∃ hall : Hall, hall.lock = .free ∧ hall.queue.slots = [] ∧ hall.errands 1 = .unasked ∧
      Run evaluated (start Hall.start) (overtime.take 15)
        ⟨hall, .reading, [], none, [.failed broken], some (.ok ()), false, [.botOnline]⟩ := by
  have d0 : Run evaluated (start Hall.start) [] _ := .nil
  have d1 := d0.snoc (.hear .begun rfl rfl rfl)
  have d2 := d1.snoc (.reopen _ _ rfl rfl (.reopen rfl))
  have d3 := d2.snoc (.connect (.ok ()) rfl)
  have d4 := d3.snoc (.hear .connected rfl rfl rfl)
  have d5 := d4.snoc (.publish .reading _ rfl rfl)
  have d6 := d5.snoc (.deliver (.frame onlineFrame) rfl)
  have d7 := d6.snoc (.deliver (.failed broken) rfl)
  have d8 := d7.snoc (.hear (.frame onlineFrame) rfl rfl rfl)
  have d9 := d8.snoc (.publish .dispatching _ rfl rfl)
  have d10 := d9.snoc (.offer onlineFrame online _ 0 _ rfl rfl decode_onlineFrame
    (.ask 0 (.offer online) rfl))
  have d11 := d10.snoc (.party _ _ (.enterSearch 0 online rfl rfl))
  have d12 := d11.snoc (.party _ _ (.leaveSearch 0 online _ rfl))
  have d13 := d12.snoc (.party _ _ (.answer 0 _ _ rfl))
  have d14 := d13.snoc (.spawn onlineFrame 0 online online _ rfl rfl)
  have d15 := d14.snoc (.publish .reading _ rfl rfl)
  exact ⟨_, rfl, rfl, rfl, d15⟩

theorem overtime_run : ∃ station, Run evaluated (start Hall.start) overtime station := by
  obtain ⟨hall, free, empty, unasked, busy⟩ := busy_run
  have d1 := busy.snoc (.hear (.failed broken) rfl rfl rfl)
  have d2 := d1.snoc (.publish .draining _ rfl rfl)
  have d3 := d2.vacates 1 rfl rfl free empty unasked
  have d4 := d3.snoc (.endCallback .botOnline (.returned .stop) List.mem_cons_self)
  have d5 := d4.snoc (.hear .drained rfl rfl rfl)
  have d6 := d5.snoc (.closeStream (.error (.io "closing")) _ rfl rfl)
  have d7 := d6.snoc (.publish .closed _ rfl rfl)
  exact ⟨_, d7.snoc (.finish (.error (.transport broken)) _ rfl rfl)⟩

theorem overtime_reached : ∃ station, Reached evaluated [] overtime station := by
  obtain ⟨station, run⟩ := overtime_run
  exact ⟨station, run.reached .nil⟩

/-- The callback that was late is waited for, and neither its wish nor the second failure changes
the result. -/
theorem overtime_drained :
    (∃ station, Reached evaluated [] overtime station) ∧
      published overtime =
        [.connecting, .reading, .dispatching, .reading, .draining, .closed] ∧
      ∃ earlier, overtime = earlier ++ [.finished (.error (.transport broken))] ∧
        Word (published earlier) ∧ Released earlier ∧ closings earlier = [.error (.io "closing")] ∧
        Drained earlier ∧ spawned earlier = [.botOnline] ∧
        Truthful (heard earlier) (.error (.transport broken)) := by
  obtain ⟨station, reached⟩ := overtime_reached
  obtain ⟨-, -, -, ends⟩ := shutdown_drains reached
  obtain ⟨word, -, released, -, drained, -, -, -, truthful⟩ :=
    ends overtime.dropLast (.error (.transport broken)) [] rfl
  exact ⟨⟨station, reached⟩, rfl, overtime.dropLast, rfl, word, released, rfl, drained, rfl,
    truthful⟩

end Station
end Switchboard
