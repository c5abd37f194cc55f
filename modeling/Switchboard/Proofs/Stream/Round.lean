import Switchboard.Stream.Monitor

set_option autoImplicit false

namespace Switchboard.Monitor

def Next.isFinal : Next → Bool
  | .again _ => false
  | .ended _ | .crashed => true

/-- Where a round stands. -/
inductive Point where
  | beginning (count : Nat)
  | opening (count : Nat) (key : String)
  | watching (count : Nat) (reader : ReaderId)
  | awaiting (count : Nat) (reader : ReaderId)
  | judging (count : Nat) (error : TransportError)
  | timing (count : Nat)
  | pausing (count : Nat) (time : Instant)
  | settled (next : Next)

def Point.withReader : Point → Bool
  | .watching _ _ | .awaiting _ _ => true
  | _ => false

section Rest

variable (retry : Retry) (count : Nat) (reader : ReaderId)

def fromPausing (time : Instant) : Activity Next :=
  .step (.pause time) fun stopped =>
    if stopped then .done (.ended (.ok ())) else .done (.again (count + 1))

def fromTiming : Activity Next :=
  .step .now fun now =>
    match Instant.after? now (retry.delay count) with
    | none => .done .crashed
    | some time => fromPausing count time

def fromAwaiting : Activity Next :=
  .step (.awaitResult reader) fun
    | .ok () => .done (.ended (.ok ()))
    | .error (.transport error) => afterFailure retry count error
    | .error (.aborted reason) => .done (.ended (.error (.stream (.aborted reason))))

def fromWatching : Activity Next :=
  .step (.awaitReading reader) fun seen => fromAwaiting retry (if seen then 0 else count) reader

def fromOpening (key : String) : Activity Next :=
  .step (.startReader key) fun reader => fromWatching retry count reader

open Activity (perform_bind)

theorem round_eq : round retry count = .step .session fun
    | none => .done (.ended (.error (.api .notAuthorized)))
    | some session => fromOpening retry count session.key := by
  refine (perform_bind .session _).trans (congrArg _ (funext fun session => ?_))
  cases session with
  | none => rfl
  | some session =>
    refine (perform_bind (.startReader _) _).trans (congrArg _ (funext fun reader => ?_))
    refine (perform_bind (.awaitReading reader) _).trans (congrArg _ (funext fun seen => ?_))
    refine (perform_bind (.awaitResult reader) _).trans (congrArg _ (funext fun result => ?_))
    rcases result with (error | reason) | ⟨⟨⟩⟩ <;> rfl

theorem afterFailure_eq (error : TransportError) :
    afterFailure retry count error = .step .stopRequested fun stopped =>
      if stopped then .done (.ended (.ok ()))
      else if retry.maxRetries ≤ count then .done (.ended (.error (.stream (.transport error))))
      else fromTiming retry count := by
  refine (perform_bind .stopRequested _).trans (congrArg _ (funext fun stopped => ?_))
  refine ite_congr rfl (fun _ => rfl) fun _ => ite_congr rfl (fun _ => rfl) fun _ => ?_
  refine (perform_bind .now _).trans (congrArg _ (funext fun now => ?_))
  cases Instant.after? now (retry.delay count) with
  | none => rfl
  | some time =>
    refine (perform_bind (.pause time) _).trans (congrArg _ (funext fun stopped => ?_))
    exact ite_congr rfl (fun _ => rfl) fun _ => rfl

end Rest

def Point.work (retry : Retry) : Point → Activity Next
  | .beginning count => round retry count
  | .opening count key => fromOpening retry count key
  | .watching count reader => fromWatching retry count reader
  | .awaiting count reader => fromAwaiting retry count reader
  | .judging count error => afterFailure retry count error
  | .timing count => fromTiming retry count
  | .pausing count time => fromPausing count time
  | .settled next => .done next

/-- Where an answer leads. -/
inductive Goes (retry : Retry) : Point → (op : Op) → op.Answer → Point → Prop
  | unauthorized (count : Nat) :
      Goes retry (.beginning count) .session none (.settled (.ended (.error (.api .notAuthorized))))
  | authorized (count : Nat) (session : Session) :
      Goes retry (.beginning count) .session (some session) (.opening count session.key)
  | opened (count : Nat) (key : String) (reader : ReaderId) :
      Goes retry (.opening count key) (.startReader key) reader (.watching count reader)
  | seen (count : Nat) (reader : ReaderId) :
      Goes retry (.watching count reader) (.awaitReading reader) true (.awaiting 0 reader)
  | unseen (count : Nat) (reader : ReaderId) :
      Goes retry (.watching count reader) (.awaitReading reader) false (.awaiting count reader)
  | finished (count : Nat) (reader : ReaderId) :
      Goes retry (.awaiting count reader) (.awaitResult reader) (.ok ())
        (.settled (.ended (.ok ())))
  | failed (count : Nat) (reader : ReaderId) (error : TransportError) :
      Goes retry (.awaiting count reader) (.awaitResult reader) (.error (.transport error))
        (.judging count error)
  | aborted (count : Nat) (reader : ReaderId) (reason : String) :
      Goes retry (.awaiting count reader) (.awaitResult reader) (.error (.aborted reason))
        (.settled (.ended (.error (.stream (.aborted reason)))))
  | stopped (count : Nat) (error : TransportError) :
      Goes retry (.judging count error) .stopRequested true (.settled (.ended (.ok ())))
  | gaveUp (count : Nat) (error : TransportError) (enough : retry.maxRetries ≤ count) :
      Goes retry (.judging count error) .stopRequested false
        (.settled (.ended (.error (.stream (.transport error)))))
  | retries (count : Nat) (error : TransportError) (few : count < retry.maxRetries) :
      Goes retry (.judging count error) .stopRequested false (.timing count)
  | stranded (count : Nat) (now : Instant)
      (unreached : Instant.after? now (retry.delay count) = none) :
      Goes retry (.timing count) .now now (.settled .crashed)
  | pauses (count : Nat) (now time : Instant)
      (within : Instant.after? now (retry.delay count) = some time) :
      Goes retry (.timing count) .now now (.pausing count time)
  | roused (count : Nat) (time : Instant) :
      Goes retry (.pausing count time) (.pause time) true (.settled (.ended (.ok ())))
  | rested (count : Nat) (time : Instant) :
      Goes retry (.pausing count time) (.pause time) false (.settled (.again (count + 1)))

variable {retry : Retry}

theorem Point.goes (point : Point) {op : Op} {next : op.Answer → Activity Next}
    (asks : point.work retry = .step op next) (answer : op.Answer) :
    ∃ after : Point, Goes retry point op answer after ∧ next answer = after.work retry := by
  cases point with
  | beginning count =>
    rw [Point.work, round_eq] at asks
    cases asks
    rcases answer with none | session
    · exact ⟨_, .unauthorized count, rfl⟩
    · exact ⟨_, .authorized count session, rfl⟩
  | opening count key =>
    cases asks
    exact ⟨_, .opened count key answer, rfl⟩
  | watching count reader =>
    cases asks
    cases answer with
    | true => exact ⟨_, .seen count reader, rfl⟩
    | false => exact ⟨_, .unseen count reader, rfl⟩
  | awaiting count reader =>
    cases asks
    rcases answer with (error | reason) | ⟨⟨⟩⟩
    · exact ⟨_, .failed count reader error, rfl⟩
    · exact ⟨_, .aborted count reader reason, rfl⟩
    · exact ⟨_, .finished count reader, rfl⟩
  | judging count error =>
    rw [Point.work, afterFailure_eq] at asks
    cases asks
    cases answer with
    | true => exact ⟨_, .stopped count error, rfl⟩
    | false =>
      by_cases enough : retry.maxRetries ≤ count
      · exact ⟨_, .gaveUp count error enough, by simp [enough, Point.work]⟩
      · exact ⟨_, .retries count error (Nat.lt_of_not_le enough), by simp [enough, Point.work]⟩
  | timing count =>
    cases asks
    cases reached : Instant.after? answer (retry.delay count) with
    | none => exact ⟨_, .stranded count answer reached, by simp [reached, Point.work]⟩
    | some time => exact ⟨_, .pauses count answer time reached, by simp [reached, Point.work]⟩
  | pausing count time =>
    cases asks
    cases answer with
    | true => exact ⟨_, .roused count time, rfl⟩
    | false => exact ⟨_, .rested count time, rfl⟩
  | settled next => cases asks

theorem Point.settled_of_work {point : Point} {next : Next} (left : point.work retry = .done next) :
    point = .settled next := by
  cases point with
  | beginning count =>
    rw [Point.work, round_eq] at left
    cases left
  | judging count error =>
    rw [Point.work, afterFailure_eq] at left
    cases left
  | opening | watching | awaiting | timing | pausing => cases left
  | settled other =>
    cases left
    rfl

theorem Goes.asks {point after : Point} {op : Op} {answer : op.Answer}
    (goes : Goes retry point op answer after) :
    ∃ next : op.Answer → Activity Next,
      point.work retry = .step op next ∧ next answer = after.work retry := by
  cases goes with
  | unauthorized count => exact ⟨_, round_eq retry count, rfl⟩
  | authorized count session => exact ⟨_, round_eq retry count, rfl⟩
  | stopped count error => exact ⟨_, afterFailure_eq retry count error, rfl⟩
  | gaveUp count error enough =>
    exact ⟨_, afterFailure_eq retry count error, by simp [enough, Point.work]⟩
  | retries count error few =>
    exact ⟨_, afterFailure_eq retry count error, by simp [Nat.not_le.mpr few, Point.work]⟩
  | stranded count now unreached => exact ⟨_, rfl, by simp [unreached, Point.work]⟩
  | pauses count now time within => exact ⟨_, rfl, by simp [within, Point.work]⟩
  | _ => exact ⟨_, rfl, rfl⟩

end Switchboard.Monitor
