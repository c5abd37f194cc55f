import Switchboard.Proofs.Waiter.Ledger
import Switchboard.Proofs.Waiter.Uninterrupted

set_option autoImplicit false

namespace Switchboard
namespace Hall

variable {answers : Answers} {hall : Hall} {history : List Act} {errand : ErrandId} {event : Event}

/-- Every pattern comes to a verdict on every event. -/
def Responsive (answers : Answers) : Prop := ∀ slot event, ∃ verdict, answers slot event verdict

theorem evaluated_responsive : Responsive evaluated := fun _ _ => ⟨_, rfl⟩

theorem Reached.exists_unasked (reached : Reached answers history hall) :
    ∃ errand, hall.errands errand = .unasked := by
  suffices ∃ bound, ∀ errand, bound ≤ errand → hall.errands errand = .unasked by
    obtain ⟨bound, fresh⟩ := this
    exact ⟨bound, fresh bound (Nat.le_refl _)⟩
  induction reached with
  | nil => exact ⟨0, fun _ _ => rfl⟩
  | @snoc history hall next act run step ih =>
    obtain ⟨bound, fresh⟩ := ih
    refine ⟨max bound (act.errand?.elim 0 Nat.succ), fun errand beyond => ?_⟩
    have other : act.errand? ≠ some errand := by
      intro own
      rw [own] at beyond
      exact Nat.not_succ_le_self errand (Nat.le_trans (Nat.le_max_right _ _) beyond)
    rw [(step.errand_frame other).1]
    exact fresh errand (Nat.le_trans (Nat.le_max_left _ _) beyond)

section Responsive

variable (responsive : Responsive answers)

include responsive

/-- A pattern that looks at an event answers, and the search goes on or is over. -/
theorem leads_verdict {findings : Findings} {slot : Slot} {rest : List Slot}
    (held : hall.lock = .consulting errand event findings slot rest) :
    ∃ next found left, Leads answers hall next ∧ next.errands = hall.errands ∧
      next.lock = .searching errand event found left ∧ (left = [] ∨ left = rest) := by
  obtain ⟨verdict, answer⟩ := responsive slot event
  cases judged : hall.queue.judge findings slot.id verdict with
  | mk found queue =>
    have judges : Step answers hall _ _ :=
      .judge errand event findings found slot rest verdict queue held answer judged
    refine ⟨_, found, _, judges.leads, rfl, rfl, ?_⟩
    split
    · exact .inl rfl
    · exact .inr rfl

theorem leads_search_end (rest : List Slot) {findings : Findings}
    (held : hall.lock = .searching errand event findings rest) :
    ∃ next found, Leads answers hall next ∧ next.errands = hall.errands ∧
      next.lock = .searching errand event found [] := by
  induction rest generalizing hall findings with
  | nil => exact ⟨hall, findings, .refl hall, rfl, held⟩
  | cons slot rest ih =>
    have proceed {middle : Hall} {found : Findings} (leads : Leads answers hall middle)
        (kept : middle.errands = hall.errands)
        (searching : middle.lock = .searching errand event found rest) :
        ∃ next found, Leads answers hall next ∧ next.errands = hall.errands ∧
          next.lock = .searching errand event found [] := by
      obtain ⟨next, found, others, same, ceased⟩ := ih searching
      exact ⟨next, found, leads.trans others, same.trans kept, ceased⟩
    by_cases won : slot.id ∈ hall.queue.won
    · exact proceed (Step.passWon errand event findings slot rest held won).leads rfl rfl
    · by_cases other : slot.kind = event.kind
      · have consults : Leads answers hall _ :=
          (Step.consult errand event findings slot rest held won other).leads
        obtain ⟨judged, found, left, judges, kept, searching, rfl | rfl⟩ :=
          leads_verdict responsive
            (rfl : ({ hall with lock := .consulting errand event findings slot rest } : Hall).lock =
              _)
        · exact ⟨judged, found, consults.trans judges, kept, searching⟩
        · exact proceed (consults.trans judges) kept searching
      · exact proceed (Step.passKind errand event findings slot rest held won other).leads rfl rfl

theorem leads_left (held : hall.lock.errand? = some errand) :
    ∃ next request reply letters, Leads answers hall next ∧ next.lock = .free ∧
      next.errands = Function.update hall.errands errand (.telling request reply letters) := by
  have leave {hall : Hall} {event : Event} {findings : Findings}
      (ceased : hall.lock = .searching errand event findings []) :
      ∃ next request reply letters, Leads answers hall next ∧ next.lock = .free ∧
        next.errands = Function.update hall.errands errand (.telling request reply letters) :=
    ⟨_, _, _, _, (Step.leaveSearch errand event findings ceased).leads, rfl, rfl⟩
  cases lock : hall.lock with
  | free =>
    rw [lock] at held
    cases held
  | searching owner event findings rest =>
    rw [lock] at held
    cases held
    obtain ⟨searched, found, searches, same, ceased⟩ := leads_search_end responsive rest lock
    obtain ⟨next, request, reply, letters, leaves, free, told⟩ := leave ceased
    exact ⟨next, request, reply, letters, searches.trans leaves, free, same ▸ told⟩
  | consulting owner event findings slot rest =>
    rw [lock] at held
    cases held
    obtain ⟨judged, _, left, judges, kept, searching, -⟩ := leads_verdict responsive lock
    obtain ⟨searched, found, searches, same, ceased⟩ := leads_search_end responsive left searching
    obtain ⟨next, request, reply, letters, leaves, free, told⟩ := leave ceased
    exact ⟨next, request, reply, letters, (judges.trans searches).trans leaves, free,
      same.trans kept ▸ told⟩
  | sweeping owner reason closing rest won =>
    rw [lock] at held
    cases held
    have leaves : Leads answers hall _ :=
      (leads_sweep rest won lock).snoc (.leaveSweep errand reason closing _ rfl)
    exact ⟨_, _, _, _, leaves, rfl, rfl⟩

/-- The lock comes to be free, and nobody else has done anything until then. -/
theorem leads_free :
    ∃ next, Leads answers hall next ∧ next.lock = .free ∧
      ∀ errand, hall.lock.errand? ≠ some errand → next.errands errand = hall.errands errand := by
  cases held : hall.lock.errand? with
  | none =>
    refine ⟨hall, .refl hall, ?_, fun _ _ => rfl⟩
    cases lock : hall.lock with
    | free => rfl
    | searching | consulting | sweeping =>
      rw [lock] at held
      cases held
  | some owner =>
    obtain ⟨next, request, reply, letters, leaves, free, told⟩ := leads_left responsive held
    refine ⟨next, leaves, free, fun errand other => ?_⟩
    rw [told, Function.update_of_ne]
    rintro rfl
    exact other rfl

theorem leads_entered {request : Errand} (asked : hall.errands errand = .asked request)
    (waits : hall.lock.errand? ≠ some errand) :
    ∃ next, Leads answers hall next ∧ next.lock.errand? = some errand := by
  obtain ⟨next, frees, free, same⟩ := leads_free responsive
  have still := (same errand waits).trans asked
  cases request with
  | offer event => exact ⟨_, frees.snoc (.enterSearch errand event free still), rfl⟩
  | sweep reason closing =>
    exact ⟨_, frees.snoc (.enterSweep errand reason closing free still), rfl⟩

theorem leads_answered (asked : hall.errands errand ≠ .unasked) :
    ∃ next request reply, Leads answers hall next ∧
      next.errands errand = .answered request reply := by
  have tell {hall : Hall} {request : Errand} {reply : Reply}
      {letters : List (WaiterId × Resolution)}
      (telling : hall.errands errand = .telling request reply letters) :
      ∃ next request reply, Leads answers hall next ∧
        next.errands errand = .answered request reply :=
    ⟨_, request, reply, leads_tell letters telling, setErrand_errands ..⟩
  have finish {hall : Hall} (held : hall.lock.errand? = some errand) :
      ∃ next request reply, Leads answers hall next ∧
        next.errands errand = .answered request reply := by
    obtain ⟨left, _, _, letters, leaves, -, told⟩ := leads_left responsive held
    obtain ⟨next, request, reply, tells, answered⟩ := tell
      ((congrFun told errand).trans (Function.update_self ..))
    exact ⟨next, request, reply, leaves.trans tells, answered⟩
  cases stage : hall.errands errand with
  | unasked => exact absurd stage asked
  | asked request =>
    by_cases held : hall.lock.errand? = some errand
    · exact finish held
    · obtain ⟨entered, enters, held⟩ := leads_entered responsive stage held
      obtain ⟨next, request, reply, others, answered⟩ := finish held
      exact ⟨next, request, reply, enters.trans others, answered⟩
  | telling request reply letters => exact tell stage
  | answered request reply => exact ⟨hall, request, reply, .refl hall, stage⟩

end Responsive

end Hall
end Switchboard
