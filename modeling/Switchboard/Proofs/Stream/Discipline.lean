import Switchboard.Proofs.Stream.Relay
import Switchboard.Proofs.Stream.Shutdown

set_option autoImplicit false

namespace Switchboard

def WaitError.endsStream : WaitError → Prop
  | .streamFailed _ | .streamClosed => True
  | _ => False

namespace Station

/-- The reason tells why the reader left: a failure that it took up, or a stop or the end of the
stream. -/
def Blamed (signals : List ReaderSignal) (reason : WaitError) : Prop :=
  (∀ error, reason = .streamFailed error ↔
    .refused error ∈ signals ∨ .failed error ∈ signals) ∧
  (reason = .streamClosed ↔ .stopRequested ∈ signals ∨ .ended ∈ signals)

theorem closeQueue_not_mem_readActions (frames : List String) (reason : WaitError) :
    .closeQueue reason ∉ readActions frames := by
  simp [readActions]

theorem blamed_of_leaves (frames : List String) {signal : ReaderSignal}
    {outcome : Except TransportError Unit} (leaves : signal.Leaves outcome)
    (later : List ReaderSignal) (calm : ∀ signal ∈ later, signal = .drained) :
    Blamed (readSignals frames ++ signal :: later) (ReaderPhase.reason outcome) := by
  have silent : ∀ {signal : ReaderSignal}, signal ≠ .drained → signal ∉ later := fun other member =>
    other (calm _ member)
  cases leaves with
  | stopRequested | ended => simp [Blamed, ReaderPhase.reason, silent]
  | failed fault => simp [Blamed, ReaderPhase.reason, silent, eq_comm]

theorem Course.blamed {phase : ReaderPhase} {signals : List ReaderSignal}
    {actions : List ReaderAction} (course : Course phase signals actions) {reason : WaitError}
    (closes : .closeQueue reason ∈ actions) : Blamed signals reason := by
  cases course with
  | starting => cases closes
  | connecting => simp at closes
  | reading frames => exact absurd closes (closeQueue_not_mem_readActions frames reason)
  | stopped =>
    have same : reason = .streamClosed := by simpa using closes
    subst same
    simp [Blamed]
  | refused error =>
    have same : reason = .streamFailed error := by simpa using closes
    subst same
    simp [Blamed, eq_comm]
  | draining frames signal outcome leaves =>
    have same : reason = ReaderPhase.reason outcome := by
      simpa [closeQueue_not_mem_readActions] using closes
    subst same
    exact blamed_of_leaves frames leaves [] (by simp)
  | closed frames signal outcome leaves =>
    have same : reason = ReaderPhase.reason outcome := by
      simpa [closeQueue_not_mem_readActions] using closes
    subst same
    exact blamed_of_leaves frames leaves [.drained] (by simp)

end Station

namespace Relay

open Hall (Answers Shut captors requests letters evaluated)
open Station (Disciplined Over Serving Served Blamed heard)

variable {answers : Answers} {history earlier later : List Move} {station next : Station}
  {deed : Deed} {errand : ErrandId} {reason : WaitError} {id : WaiterId}

theorem Reached.last_did (reached : Reached answers (history ++ [.did deed]) next) :
    ∃ station, Reached answers history station ∧ Station.Step answers station deed next := by
  generalize whole : history ++ [.did deed] = moves at reached
  cases reached with
  | start => exact absurd whole (List.concat_ne_nil _ _)
  | did reached step =>
    obtain ⟨rfl, same⟩ := List.append_inj' whole rfl
    cases same
    exact ⟨_, reached, step⟩
  | relieve reached ceased =>
    obtain ⟨-, same⟩ := List.append_inj' whole rfl
    cases same

theorem Reached.last_relieved (reached : Reached answers (history ++ [.relieved]) next) :
    ∃ station, Reached answers history station ∧ station.Over ∧ next.hall = station.hall := by
  generalize whole : history ++ [.relieved] = moves at reached
  cases reached with
  | start => exact absurd whole (List.concat_ne_nil _ _)
  | did reached step =>
    obtain ⟨-, same⟩ := List.append_inj' whole rfl
    cases same
  | relieve reached ceased =>
    obtain ⟨rfl, -⟩ := List.append_inj' whole rfl
    exact ⟨_, reached, ceased, rfl⟩

theorem hall_cases (step : Station.Step answers station deed next) :
    (deed.act? = none ∧ next.hall = station.hall) ∨
      ∃ act, deed.act? = some act ∧ Hall.Step answers station.hall act next.hall := by
  cases step with
  | party act hall step => exact .inr ⟨_, rfl, step⟩
  | reopen rest hall quiet upcoming step => exact .inr ⟨_, rfl, step⟩
  | close reason rest errand hall quiet upcoming step => exact .inr ⟨_, rfl, step⟩
  | offer frame event rest errand hall quiet upcoming decoded step => exact .inr ⟨_, rfl, step⟩
  | _ => exact .inl ⟨rfl, rfl⟩

/-- Where a history is cut, the hall goes on from what was reached until then. -/
theorem Reached.split (reached : Reached answers (earlier ++ later) station) :
    ∃ moment, Reached answers earlier moment ∧
      Hall.Run answers moment.hall (acts later) station.hall := by
  induction later using List.reverseRecOn generalizing station with
  | nil =>
    rw [List.append_nil] at reached
    exact ⟨station, reached, .nil⟩
  | append_singleton later move ih =>
    rw [← List.append_assoc] at reached
    cases move with
    | did deed =>
      obtain ⟨before, reached, step⟩ := reached.last_did
      obtain ⟨moment, reached, run⟩ := ih reached
      refine ⟨moment, reached, ?_⟩
      rw [acts_did]
      rcases hall_cases step with ⟨alone, same⟩ | ⟨act, does, step⟩
      · rw [alone, same, Option.toList_none, List.append_nil]
        exact run
      · rw [does]
        exact run.snoc step
    | relieved =>
      obtain ⟨before, reached, -, same⟩ := reached.last_relieved
      obtain ⟨moment, reached, run⟩ := ih reached
      rw [acts_relieved, same]
      exact ⟨moment, reached, run⟩

theorem Reached.at_did (reached : Reached answers (earlier ++ .did deed :: later) station) :
    ∃ moment after, Reached answers earlier moment ∧ Station.Step answers moment deed after ∧
      Reached answers (earlier ++ [.did deed]) after ∧
        Hall.Run answers after.hall (acts later) station.hall := by
  rw [List.append_cons] at reached
  obtain ⟨after, begun, run⟩ := reached.split
  obtain ⟨moment, before, step⟩ := begun.last_did
  exact ⟨moment, after, before, step, begun, run⟩

theorem acts_cons_party {act : Act} :
    acts (.did (.party act) :: later) = act :: acts later := rfl

theorem mem_acts {act : Act} (does : deed.act? = some act) (member : .did deed ∈ history) :
    act ∈ acts history :=
  List.mem_filterMap.mpr ⟨deed, List.mem_filterMap.mpr ⟨_, member, rfl⟩, does⟩

theorem closing_of_shut (civil : Civil history) (shut : Shut (acts history) errand reason) :
    .did (.closing errand reason) ∈ history := by
  obtain ⟨before, after, split, asked, -⟩ := shut
  obtain ⟨act, member, made⟩ := List.mem_filterMap.mp asked
  have listed : act ∈ acts history := by
    rw [split]
    exact List.mem_append_left _ member
  obtain ⟨deed, done, does⟩ := List.mem_filterMap.mp listed
  obtain ⟨move, moved, same⟩ := List.mem_filterMap.mp done
  cases move <;> cases same
  cases act with
  | asked owner request =>
    obtain ⟨rfl, rfl⟩ : owner = errand ∧ request = .sweep reason true := by
      simpa [Act.request?] using made
    cases deed with
    | party =>
      cases does
      cases civil _ moved
    | closing =>
      cases does
      exact moved
    | _ => cases does
  | _ => cases made

theorem Reached.blamed
    (reached : Reached answers (earlier ++ .did (.closing errand reason) :: later) station) :
    Blamed (heard (current earlier)) reason := by
  obtain ⟨moment, after, reached, step, -, -⟩ := reached.at_did
  have course := reached.disciplined.course
  cases step with
  | close _ rest _ hall quiet upcoming step =>
    rw [upcoming] at course
    exact course.blamed (List.mem_append_right _ List.mem_cons_self)

theorem answered_after {before during : List Act} {first final : Hall} {request : Errand}
    {reply : Reply} (run : Hall.Run answers first during final)
    (reached : Hall.Reached answers before first)
    (answered : first.errands errand = .answered request reply) :
    final.errands errand = .answered request reply := by
  induction run with
  | nil => exact answered
  | snoc run step ih =>
    exact Station.answered_kept step (Hall.Reached.orderly (reached.append run)) ih

theorem Reached.answered (reached : Reached answers history station)
    (closed : .did (.closed errand reason) ∈ history) :
    ∃ request reply, station.hall.errands errand = .answered request reply := by
  obtain ⟨earlier, later, rfl⟩ := List.append_of_mem closed
  obtain ⟨moment, after, -, step, begun, run⟩ := reached.at_did
  cases step with
  | closed _ _ request reply pursued answered =>
    exact ⟨request, reply, answered_after run begun.hall answered⟩

/-- When a reader has closed the queue, everybody who was in it has the reader's reason, except for
those who were won by their holders before their turn came. -/
theorem Reached.resolved
    (reached : Reached answers (earlier ++ .did (.party (.entered errand)) :: later) station)
    (asked : .did (.closing errand reason) ∈ earlier)
    (closed : .did (.closed errand reason) ∈ later) :
    ∃ moment, Reached answers earlier moment ∧ ∀ slot ∈ moment.hall.queue.slots,
      (captors (acts earlier ++ .entered errand :: acts later) slot.id = [.sweep errand reason] ∧
        (slot.id, .error reason) ∈
          letters (acts earlier ++ .entered errand :: acts later) errand) ∨
      ∃ during rest, acts later = during ++ .swept errand reason slot.id false :: rest ∧
        ∃ capture ∈ captors (acts earlier ++ .entered errand :: during) slot.id,
          capture.party = .holder := by
  have whole := reached.hall
  rw [acts_append, acts_cons_party] at whole
  obtain ⟨request, reply, answered⟩ :=
    reached.answered (List.mem_append_right _ (List.mem_cons_of_mem _ closed))
  obtain ⟨moment, after, before, step, -, run⟩ := reached.at_did
  cases step with
  | party act hall enters =>
    have requested : .sweep reason true ∈ requests (acts earlier) errand :=
      List.mem_filterMap.mpr ⟨_, mem_acts rfl asked, by simp [Act.request?]⟩
    have left : .left errand ∈ acts later := by
      have told : .left errand ∈ acts earlier ++ .entered errand :: acts later :=
        whole.left_of_told (by rw [answered]; trivial)
      rcases List.mem_append.mp told with old | new
      · -- an errand that takes the lock has not given it back before
        obtain ⟨asked, stage, -⟩ := before.hall.request_of_enters enters
        have past := before.hall.told .nil old
        rw [stage] at past
        exact past.elim
      · exact (List.mem_cons.mp new).resolve_left Act.noConfusion
    refine ⟨moment, before, fun slot member => ?_⟩
    have swept := run.swept before.hall enters requested left slot member
    rcases swept.cases with captor | ⟨during, rest, split, capture, captor, party⟩
    · rw [List.append_assoc, List.singleton_append] at captor
      exact .inl ⟨whole.captors_eq captor, whole.letter_of_sweep answered captor⟩
    · rw [List.append_assoc, List.singleton_append] at captor
      exact .inr ⟨during, rest, split, capture, captor, party⟩

/-- Who comes while the queue is closed is refused with the reason of the closing, is never in the
queue, and is resolved by nobody else. -/
theorem Reached.turned_away {kind : EventKind} {use : Use} {refusal : Option WaitError}
    (reached :
      Reached answers (earlier ++ .did (.party (.registered id kind use refusal)) :: later) station)
    (civil : Civil earlier) (shut : Shut (acts earlier) errand reason) :
    refusal = some reason ∧ (∀ slot ∈ station.hall.queue.slots, slot.id ≠ id) ∧
      captors (acts earlier ++ .registered id kind use refusal :: acts later) id =
        [.refuse reason] ∧
      ((station.hall.holders id).waits → (id, .error reason) ∈ station.hall.queue.sent) ∧
      ∀ use' result,
        .returned id use' result ∈ acts earlier ++ .registered id kind use refusal :: acts later →
        (∀ outcome,
          .polled id outcome ∉ acts earlier ++ .registered id kind use refusal :: acts later) →
          result = .error reason := by
  have whole := reached.hall
  rw [acts_append, acts_cons_party] at whole
  obtain ⟨moment, after, before, step, -, -⟩ := reached.at_did
  cases step with
  | party act hall registers =>
    obtain ⟨rfl, -⟩ := registers.registered_cases
    have closed := (before.governed civil).shut errand reason shut
    have captor : .refuse reason ∈ captors
        (acts earlier ++ .registered id kind use moment.hall.queue.closed :: acts later) id := by
      rw [List.append_cons]
      refine Hall.mem_captors_append (Hall.captor_of_hit ?_) _
      rw [closed]
      rfl
    exact ⟨closed, whole.refused captor⟩

/-- The reader that was at work took the lock to close the queue, in its own time. -/
def ClosedBy (earlier later : List Move) (errand : ErrandId) (reason : WaitError) : Prop :=
  ∃ during rest, later = during ++ .did (.party (.entered errand)) :: rest ∧
    .relieved ∉ during ∧ .closing errand reason ∈ current (earlier ++ during)

theorem ClosedBy.append (closed : ClosedBy earlier later errand reason) (more : List Move) :
    ClosedBy earlier (later ++ more) errand reason := by
  obtain ⟨during, rest, rfl, same⟩ := closed
  exact ⟨during, rest ++ more, by simp, same⟩

/-- As long as a waiter has its slot the reader is the same, and who sweeps the queue while it has
is this reader. -/
structure Watched (earlier later : List Move) (station : Station) (id : WaiterId) : Prop where
  same : (∃ slot ∈ station.hall.queue.slots, slot.id = id) → .relieved ∉ later
  sweeping : ∀ errand reason closing rest ids,
    station.hall.lock = .sweeping errand reason closing rest ids → id ∈ rest →
      ClosedBy earlier later errand reason

theorem Reached.watched {kind : EventKind} {use : Use} {refusal : Option WaitError}
    (reached : Reached answers
      (earlier ++ [.did (.party (.registered id kind use refusal))] ++ later) station)
    (civil : Civil (earlier ++ [.did (.party (.registered id kind use refusal))] ++ later)) :
    Watched (earlier ++ [.did (.party (.registered id kind use refusal))]) later station id := by
  induction later using List.reverseRecOn generalizing station with
  | nil =>
    rw [List.append_nil] at reached
    obtain ⟨moment, -, step⟩ := reached.last_did
    refine ⟨fun _ => List.not_mem_nil, ?_⟩
    intro errand reason closing rest ids held
    cases step with
    | party act hall registers =>
      obtain ⟨-, -, free, -⟩ := registers.registered_cases
      exact nomatch free.symm.trans held
  | append_singleton later move ih =>
    rw [← List.append_assoc] at reached civil
    cases move with
    | relieved =>
      obtain ⟨before, reached, ceased, same⟩ := reached.last_relieved
      have watched := ih reached civil.left
      refine ⟨?_, ?_⟩
      · -- the reader that is over has closed the queue, so nobody is in it
        rintro ⟨slot, member, -⟩
        have governed := reached.governed civil.left
        obtain ⟨errand, reason, -, shut⟩ := governed.served (Station.over_served ceased)
        have closed := governed.shut errand reason shut
        rw [same, reached.hall.slots_of_closed (by rw [closed]; exact nofun)] at member
        cases member
      · rw [same]
        intro errand reason closing rest ids held member
        exact (watched.sweeping errand reason closing rest ids held member).append _
    | did deed =>
      obtain ⟨before, reached, step⟩ := reached.last_did
      have watched := ih reached civil.left
      rcases hall_cases step with ⟨-, same⟩ | ⟨act, does, step⟩
      · refine ⟨?_, ?_⟩ <;> rw [same]
        · intro present
          simpa using watched.same present
        · intro errand reason closing rest ids held member
          exact (watched.sweeping errand reason closing rest ids held member).append _
      · refine ⟨?_, ?_⟩
        · rintro ⟨slot, member, named⟩
          rcases step.effect.slot_cases member with old | ⟨fresh, -⟩
          · simpa using watched.same ⟨slot, old, named⟩
          · -- a slot that is new has a number that nobody had before
            have known : id < before.hall.queue.nextId :=
              reached.hall.number_lt (mem_acts rfl (List.mem_append_left _
                (List.mem_append_right _ (List.mem_singleton_self _))))
            rw [← fresh, named] at known
            exact absurd known (Nat.lt_irrefl _)
        · intro errand reason closing rest ids held member
          rcases step.sweeping_cases held with ⟨rfl, asked, rfl⟩ | ⟨more, won, held, fewer⟩
          · -- the sweep begins, and only the reader at work can have asked for it
            obtain ⟨slot, listed, named⟩ := List.mem_map.mp member
            obtain ⟨-, pursued⟩ := (reached.governed civil.left).asked errand reason closing asked
            have closing := (reached.disciplined.closing errand reason pursued).1
            refine ⟨later, [], ?_, watched.same ⟨slot, listed, named⟩, closing⟩
            cases deed <;> cases does
            rfl
          · exact (watched.sweeping errand reason closing more won held (fewer member)).append _

theorem Reached.closed_by {kind : EventKind} {use : Use} {refusal : Option WaitError} {won : Bool}
    (reached : Reached answers
      (earlier ++ [.did (.party (.registered id kind use refusal))] ++ later) station)
    (civil : Civil (earlier ++ [.did (.party (.registered id kind use refusal))] ++ later))
    (swept : .swept errand reason id won ∈ acts later) :
    ClosedBy (earlier ++ [.did (.party (.registered id kind use refusal))]) later errand
      reason := by
  obtain ⟨deed, listed, does⟩ := List.mem_filterMap.mp swept
  obtain ⟨move, member, same⟩ := List.mem_filterMap.mp listed
  obtain ⟨front, back, rfl⟩ := List.append_of_mem member
  cases move <;> cases same
  cases deed <;> cases does
  rw [← List.append_assoc] at reached civil
  obtain ⟨moment, after, before, step, -, -⟩ := reached.at_did
  have watched := before.watched civil.left
  cases step with
  | party act hall step =>
    cases step with
    | sweep _ _ closing _ rest ids _ _ held =>
      exact (watched.sweeping errand reason closing _ ids held List.mem_cons_self).append _

/-- Who comes while the queue is open is let in, and only the reader that is at work then can tell
him that the stream is over. -/
theorem Reached.let_in {kind : EventKind} {use : Use} {refusal : Option WaitError}
    (reached :
      Reached answers (earlier ++ .did (.party (.registered id kind use refusal)) :: later) station)
    (civil : Civil (earlier ++ .did (.party (.registered id kind use refusal)) :: later))
    (open_ : ∀ errand reason, ¬ Shut (acts earlier) errand reason) :
    refusal = none ∧
      (∃ moment, Reached answers (earlier ++ [.did (.party (.registered id kind use refusal))])
        moment ∧ ∃ slot ∈ moment.hall.queue.slots, slot.id = id ∧ slot.kind = kind) ∧
      ∀ capture ∈ captors (acts earlier ++ .registered id kind use refusal :: acts later) id,
        ∀ reason, capture.resolution? = some (.error reason) → reason.endsStream →
          ∃ errand, capture = .sweep errand reason ∧
            ClosedBy (earlier ++ [.did (.party (.registered id kind use refusal))]) later errand
              reason := by
  have whole := reached.hall
  rw [acts_append, acts_cons_party] at whole
  obtain ⟨moment, after, before, step, begun, -⟩ := reached.at_did
  cases step with
  | party act hall registers =>
    obtain ⟨same, -, -, let_in⟩ := registers.registered_cases
    have admitted : refusal = none := by
      rw [same]
      by_contra closed
      obtain ⟨reason, closed⟩ := Option.ne_none_iff_exists'.mp closed
      obtain ⟨errand, shut⟩ := before.hall.shut_of_closed closed
      exact open_ errand reason shut
    refine ⟨admitted, ⟨_, begun, let_in admitted⟩, ?_⟩
    intro capture captor reason owed ends
    cases capture with
    | deliver | withdraw | abandon => cases owed
    | fail errand text =>
      cases owed
      exact ends.elim
    | refuse cause =>
      obtain ⟨other, another, again⟩ := Hall.registered_of_refuse captor
      have once := whole.registered_once (List.mem_append_right _ List.mem_cons_self) again
      exact nomatch admitted.symm.trans once
    | sweep errand cause =>
      cases owed
      refine ⟨errand, rfl, ?_⟩
      have swept : .swept errand reason id true ∈ acts later := by
        rcases List.mem_append.mp (Hall.swept_of_sweep captor) with old | new
        · -- nobody is won before he has a number
          have early : .sweep errand reason ∈ captors (acts earlier) id :=
            Hall.mem_captors.mpr (List.mem_filterMap.mpr ⟨_, old, rfl⟩)
          rcases registers.registered with ⟨fresh, -⟩ | ⟨unregistered, -⟩
          · cases fresh
            rw [before.hall.captors_nextId] at early
            cases early
          · cases unregistered
        · exact (List.mem_cons.mp new).resolve_left Act.noConfusion
      rw [List.append_cons] at reached civil
      exact reached.closed_by civil swept

/-- A reader that has asked for the closing of the queue waits for it, or it is done. -/
theorem closed_of_closing {before : List Act} {deeds : List Deed}
    (run : Station.Reached answers before deeds station)
    (asked : .closing errand reason ∈ deeds) :
    station.pursuit = some (.closing errand reason) ∨ .closed errand reason ∈ deeds := by
  induction run with
  | start => cases asked
  | @snoc deeds station next deed run step ih =>
    rcases List.mem_append.mp asked with old | new
    · rcases ih old with pursued | closed
      · cases step with
        | closed cause owner request reply found answered =>
          cases pursued.symm.trans found
          exact .inr (List.mem_append_right _ (List.mem_singleton_self _))
        | party | deliver | requestStop | connect | endCallback => exact .inl pursued
        | claimed frame owner event request found answered => exact nomatch pursued.symm.trans found
        | spawn frame owner event back request found answered =>
          exact nomatch pursued.symm.trans found
        | hear signal idle quiet heard => exact nomatch pursued.symm.trans quiet
        | reopen rest hall quiet upcoming step => exact nomatch pursued.symm.trans quiet
        | close cause rest owner hall quiet upcoming step => exact nomatch pursued.symm.trans quiet
        | skip frame error rest quiet upcoming decoded => exact nomatch pursued.symm.trans quiet
        | offer frame event rest owner hall quiet upcoming decoded step =>
          exact nomatch pursued.symm.trans quiet
        | publish state rest quiet upcoming => exact nomatch pursued.symm.trans quiet
        | closeStream outcome rest quiet upcoming => exact nomatch pursued.symm.trans quiet
        | finish result rest quiet upcoming => exact nomatch pursued.symm.trans quiet
      · exact .inr (List.mem_append_left _ closed)
    · cases List.mem_singleton.mp new
      cases step with
      | close => exact .inl rfl

/-- A stream fails while somebody waits, and the next reader is stopped while it connects. One
waiter comes before the failure, one between the readers, and one to the second reader. -/
def handover : List Move :=
  [.did (.heard .begun), .did .reopened, .did (.connected (.ok ())), .did (.heard .connected),
    .did (.published .reading), .did (.party (.registered 0 .botOnline .keeping none)),
    .did (.delivered (.failed Station.broken)), .did (.heard (.failed Station.broken)),
    .did (.published .draining), .did (.closing 0 (.streamFailed Station.broken)),
    .did (.party (.entered 0)),
    .did (.party (.swept 0 (.streamFailed Station.broken) 0 true)), .did (.party (.left 0)),
    .did (.party (.sent 0 0 (.error (.streamFailed Station.broken)))),
    .did (.party (.answered 0 (.resolved 1))), .did (.closed 0 (.streamFailed Station.broken)),
    .did (.party (.registered 1 .botOnline (.waiting none)
      (some (.streamFailed Station.broken)))),
    .did (.heard .drained), .did (.streamClosed (.ok ())), .did (.published .closed),
    .did (.finished (.error (.transport Station.broken))),
    .relieved, .did (.heard .begun), .did .reopened,
    .did (.party (.registered 2 .botOnline .keeping none)), .did .stopRequested,
    .did (.heard .stopRequested), .did (.closing 1 .streamClosed), .did (.party (.entered 1)),
    .did (.party (.swept 1 .streamClosed 2 true)), .did (.party (.left 1)),
    .did (.party (.sent 1 2 (.error .streamClosed))), .did (.party (.answered 1 (.resolved 1))),
    .did (.closed 1 .streamClosed), .did (.published .closed), .did (.finished (.ok ()))]

theorem handover_reached : ∃ station, Reached evaluated handover station ∧ station.Over := by
  have h0 : Reached evaluated [] (Station.start Hall.start) := .start
  have h1 := h0.did (.hear .begun rfl rfl rfl)
  have h2 := h1.did (.reopen _ _ rfl rfl (.reopen rfl))
  have h3 := h2.did (.connect (.ok ()) rfl)
  have h4 := h3.did (.hear .connected rfl rfl rfl)
  have h5 := h4.did (.publish .reading _ rfl rfl)
  have h6 := h5.did (.party _ _ (.register .botOnline .any .keeping rfl))
  have h7 := h6.did (.deliver (.failed Station.broken) rfl)
  have h8 := h7.did (.hear (.failed Station.broken) rfl rfl rfl)
  have h9 := h8.did (.publish .draining _ rfl rfl)
  have h10 := h9.did (.close (.streamFailed Station.broken) _ 0 _ rfl rfl (.ask 0 _ rfl))
  have h11 := h10.did (.party _ _ (.enterSweep 0 (.streamFailed Station.broken) true rfl rfl))
  have h12 := h11.did
    (.party _ _ (.sweep 0 (.streamFailed Station.broken) true 0 _ _ true _ rfl rfl))
  have h13 := h12.did (.party _ _ (.leaveSweep 0 (.streamFailed Station.broken) true _ rfl))
  have h14 := h13.did (.party _ _ (.send 0 _ _ _ _ _ rfl))
  have h15 := h14.did (.party _ _ (.answer 0 _ _ rfl))
  have h16 := h15.did (.closed (.streamFailed Station.broken) 0 _ _ rfl rfl)
  have h17 := h16.did (.party _ _ (.register .botOnline .any (.waiting none) rfl))
  have h18 := h17.did (.hear .drained rfl rfl rfl)
  have h19 := h18.did (.closeStream (.ok ()) _ rfl rfl)
  have h20 := h19.did (.publish .closed _ rfl rfl)
  have h21 := h20.did (.finish (.error (.transport Station.broken)) _ rfl rfl)
  have h22 := h21.relieve ⟨rfl, rfl, rfl⟩
  have h23 := h22.did (.hear .begun rfl rfl rfl)
  have h24 := h23.did (.reopen _ _ rfl rfl (.reopen rfl))
  have h25 := h24.did (.party _ _ (.register .botOnline .any .keeping rfl))
  have h26 := h25.did .requestStop
  have h27 := h26.did (.hear .stopRequested rfl rfl rfl)
  have h28 := h27.did (.close .streamClosed _ 1 _ rfl rfl (.ask 1 _ rfl))
  have h29 := h28.did (.party _ _ (.enterSweep 1 .streamClosed true rfl rfl))
  have h30 := h29.did (.party _ _ (.sweep 1 .streamClosed true 2 _ _ true _ rfl rfl))
  have h31 := h30.did (.party _ _ (.leaveSweep 1 .streamClosed true _ rfl))
  have h32 := h31.did (.party _ _ (.send 1 _ _ _ _ _ rfl))
  have h33 := h32.did (.party _ _ (.answer 1 _ _ rfl))
  have h34 := h33.did (.closed .streamClosed 1 _ _ rfl rfl)
  have h35 := h34.did (.publish .closed _ rfl rfl)
  have h36 := h35.did (.finish (.ok ()) _ rfl rfl)
  exact ⟨_, h36, rfl, rfl, rfl⟩

theorem handover_civil : Civil handover := by
  intro act member
  simp only [handover, List.mem_cons, Move.did.injEq, Deed.party.injEq, reduceCtorEq, false_or,
    or_false, List.not_mem_nil] at member
  rcases member with rfl | rfl | rfl | rfl | rfl | rfl | rfl | rfl | rfl | rfl | rfl | rfl | rfl <;>
    rfl

end Relay
end Switchboard
