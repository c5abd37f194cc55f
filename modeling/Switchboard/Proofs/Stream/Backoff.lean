import Switchboard.Config.Valid
import Switchboard.Proofs.Stream.Round
import Switchboard.Proofs.Trace
import Switchboard.Proofs.Transport.Delay
import Switchboard.Proofs.Waiter.Deadline

set_option autoImplicit false

namespace Switchboard

namespace Monitor

variable {retry : Retry} {attempt count : Nat} {point after : Point} {history : List Exchange}
  {work : Activity Next}

/-- How many failures in a row a round may count that began with some of them: these, or none if its
reader was seen reading. It times a pause only if there are not too many. -/
def Point.Counts (retry : Retry) (attempt : Nat) : Point → Prop
  | .beginning count | .opening count _ | .watching count _ | .awaiting count _
  | .judging count _ => count = attempt ∨ count = 0
  | .timing count | .pausing count _ => (count = attempt ∨ count = 0) ∧ count < retry.maxRetries
  | .settled _ => True

theorem Goes.counts {op : Op} {answer : op.Answer} (goes : Goes retry point op answer after)
    (counts : point.Counts retry attempt) : after.Counts retry attempt := by
  cases goes with
  | seen count reader => exact .inr rfl
  | retries count error few => exact ⟨counts, few⟩
  | unauthorized | finished | aborted | stopped | gaveUp | stranded | roused | rested => trivial
  | authorized | opened | unseen | failed | pauses => exact counts

theorem points_of_trace (trace : Trace Activity.GoesOn (round retry attempt) history work) :
    ∃ point : Point, work = point.work retry ∧ point.Counts retry attempt := by
  induction trace with
  | nil => exact ⟨.beginning attempt, rfl, .inl rfl⟩
  | snoc trace next ih =>
    obtain ⟨point, same, counts⟩ := ih
    cases next with
    | answer op next answer =>
      obtain ⟨after, goes, leads⟩ := point.goes same.symm answer
      exact ⟨after, leads, goes.counts counts⟩

theorem Goes.goesOn {op : Op} {answer : op.Answer} (goes : Goes retry point op answer after) :
    (point.work retry).GoesOn ⟨op, answer⟩ (after.work retry) := by
  obtain ⟨next, asks, leads⟩ := goes.asks
  rw [asks, ← leads]
  exact .answer op next answer

theorem timing_reached (few : attempt < retry.maxRetries) (session : Session) (reader : ReaderId)
    (error : TransportError) :
    Trace Activity.GoesOn (round retry attempt)
      [⟨.session, some session⟩, ⟨.startReader session.key, reader⟩, ⟨.awaitReading reader, false⟩,
        ⟨.awaitResult reader, .error (.transport error)⟩, ⟨.stopRequested, false⟩]
      (fromTiming retry attempt) :=
  ((((Trace.nil.snoc (Goes.authorized attempt session).goesOn).snoc
    (Goes.opened attempt session.key reader).goesOn).snoc
    (Goes.unseen attempt reader).goesOn).snoc
    (Goes.failed attempt reader error).goesOn).snoc
    (Goes.retries attempt error few).goesOn

/-- What follows on the time: a pause if the clock reaches its end, else a crash. -/
theorem timed {now : Instant}
    (trace : Trace Activity.GoesOn (round retry attempt) (history ++ [⟨.now, now⟩]) work) :
    ∃ count, (count = attempt ∨ count = 0) ∧ count < retry.maxRetries ∧
      (now.Reaches (retry.delay count) →
        work = fromPausing count (now + Instant.ceil (retry.delay count).nanos)) ∧
      (¬ now.Reaches (retry.delay count) → work = .done .crashed) := by
  obtain ⟨before, trace, next⟩ := trace.last_step
  obtain ⟨point, stands, counts⟩ := points_of_trace trace
  cases next with
  | answer _ next _ =>
    obtain ⟨after, goes, leads⟩ := point.goes stands.symm now
    cases goes with
    | stranded count now unreached =>
      refine ⟨count, counts.1, counts.2, fun reached => ?_, fun _ => leads⟩
      rw [Instant.after?_of_reaches reached] at unreached
      cases unreached
    | pauses count now time within =>
      refine ⟨count, counts.1, counts.2, fun reached => ?_, fun far => ?_⟩
      · rw [Instant.after?_of_reaches reached] at within
        cases within
        exact leads
      · rw [Instant.after?_of_not_reaches far] at within
        cases within

end Monitor

open Monitor Rehearsal

/-- What needs a time that the clock reaches begins, and what needs one beyond crashes; nothing is
registered then. That goes for every wait that ends after a span, at any time, and for every pause
of a monitor, after any count of failures: each count that the policy allows comes to a pause. No
pause of a policy crashes at a time from which the clock reaches the limit of the policy. -/
theorem Instant.timed_exactly_within_reach {kind : EventKind} {pattern : Pattern} {span : Duration}
    {wait crash : Activity Outcome} {follow : Except WaitError (Option Event) → Activity Outcome}
    (timed : TimedWait kind pattern span wait follow crash) (stage : Stage) (id : TaskId)
    (retry : Retry) (attempt : Nat) (now : Instant) :
    (stage.now.Reaches span → Stage.pursue id wait stage =
      Stage.pursue id
        (.step (.awaitEvent kind pattern (some (stage.now + Instant.ceil span.nanos))) follow)
        (stage.clearTimers id)) ∧
    (¬ stage.now.Reaches span →
      Stage.pursue id wait stage = Stage.pursue id crash (stage.clearTimers id)) ∧
    (stage.now.Reaches span → 0 < span.nanos → id < stage.tasks.length →
      stage.queue.closed = none → stage.queue.outcome? stage.queue.nextId = none →
      (Stage.pursue id wait stage).Waits stage.queue id kind pattern
        (stage.now + Instant.ceil span.nanos) follow) ∧
    (attempt < retry.maxRetries →
      ∃ history, Trace Activity.GoesOn (round retry attempt) history (fromTiming retry attempt)) ∧
    (∀ history work,
      Trace Activity.GoesOn (round retry attempt) (history ++ [⟨.now, now⟩]) work →
        ∃ count, (count = attempt ∨ count = 0) ∧ count < retry.maxRetries ∧
          (now.Reaches (retry.delay count) →
            work = fromPausing count (now + Instant.ceil (retry.delay count).nanos)) ∧
          (¬ now.Reaches (retry.delay count) → work = .done .crashed)) ∧
    (retry.maxDelay.seconds < Duration.bound → now.Reaches retry.maxDelay →
      now.Reaches (retry.delay attempt)) := by
  refine ⟨timed.pursue_of_reaches, timed.pursue_of_not_reaches, ?_, fun few => ?_,
    fun history work trace => Monitor.timed trace,
    fun inside reached => reached.of_le (retry.delay_le inside attempt)⟩
  · intro reached some_span present opened unsent
    rw [timed.pursue_of_reaches reached]
    have later : stage.now < stage.now + Instant.ceil span.nanos :=
      Nat.lt_add_of_pos_right (Instant.ceil_pos some_span)
    exact Stage.waits_until later present opened unsent
  · exact ⟨_, timing_reached few ⟨"key", ⟨10⟩⟩ 0 (.connectionClosed "reset by peer")⟩

def Rehearsal.idle : Stage := Stage.start ⟨[], []⟩ [] true false

def Duration.longest : Duration := .ofSeconds 18446744073709551615

/-- From the first moment, half a minute is within reach, for a wait and for the default policy, and
the longest time is not. -/
theorem Instant.half_minute_timed :
    (0 : Instant).Reaches (.ofSeconds 30) ∧ ¬ (0 : Instant).Reaches .longest ∧
      (Stage.pursue 0 (Stage.waiting .groupMessage .any (.within (.ofSeconds 30))) idle).Waits
        idle.queue 0 .groupMessage .any 30000 (fun result => .done (.named (.waited result))) ∧
      Stage.pursue 0 (Stage.waiting .groupMessage .any (.within .longest)) idle =
        Stage.pursue 0 (.done .silent) (idle.clearTimers 0) ∧
      (∃ history, Trace Activity.GoesOn (round .default 2) history (fromTiming .default 2)) ∧
      (∃ history work, Trace Activity.GoesOn (round .default 2) (history ++ [⟨.now, 0⟩]) work ∧
        ∃ count, (count = 2 ∨ count = 0) ∧ work = fromPausing count (Instant.ceil
          (Retry.default.delay count).nanos)) ∧
      (0 : Instant).Reaches (Retry.default.delay 2) := by
  have brief : TimedWait .groupMessage .any (.ofSeconds 30) _ _ _ := .task
  have endless : TimedWait .groupMessage .any .longest _ _ _ := .task
  have near (attempt : Nat) : (0 : Instant).Reaches (Retry.default.delay attempt) :=
    (timed_exactly_within_reach brief idle 0 .default attempt 0).2.2.2.2.2 (by decide) (by decide)
  obtain ⟨-, -, waits, reached, paces, -⟩ := timed_exactly_within_reach brief idle 0 .default 2 0
  obtain ⟨-, crashes, -⟩ := timed_exactly_within_reach endless idle 0 .default 2 0
  refine ⟨by decide, by decide, ?_, crashes (by decide), reached (by decide), ?_, near 2⟩
  · exact waits (by decide) (by decide) (by decide) rfl rfl
  · obtain ⟨history, trace⟩ := reached (by decide)
    have paused := trace.snoc (Goes.pauses 2 0 _ (Instant.after?_of_reaches (near 2))).goesOn
    obtain ⟨count, which, -, within, -⟩ := paces _ _ paused
    exact ⟨history, _, paused, count, which, (within (near count)).trans (by rw [Nat.zero_add])⟩

def Retry.patient : Retry := ⟨3, .longest, .longest, 2⟩

theorem Retry.patient_unreached : Instant.after? 0 (Retry.patient.delay 0) = none := by
  decide +kernel

/-- A policy that is accepted, and a monitor that crashes on its first pause. -/
theorem Instant.longest_delay_crashes :
    Retry.patient.check = .ok () ∧ Retry.patient.maxDelay.seconds < Duration.bound ∧
      Trace Activity.GoesOn (round .patient 0)
        [⟨.session, some ⟨"session-key", ⟨10⟩⟩⟩, ⟨.startReader "session-key", 0⟩,
          ⟨.awaitReading 0, false⟩,
          ⟨.awaitResult 0, .error (.transport (.connectionClosed "reset by peer"))⟩,
          ⟨.stopRequested, false⟩, ⟨.now, 0⟩] (.done .crashed) := by
  refine ⟨by decide +kernel, by decide, ?_⟩
  have begun := timing_reached (by decide : 0 < Retry.patient.maxRetries)
    ⟨"session-key", ⟨10⟩⟩ 0 (.connectionClosed "reset by peer")
  exact begun.snoc (Goes.stranded 0 0 Retry.patient_unreached).goesOn

end Switchboard
