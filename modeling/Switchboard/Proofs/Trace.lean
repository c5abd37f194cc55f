import Mathlib.Data.List.Induction
import Switchboard.Activity.Basic

set_option autoImplicit false

namespace Switchboard

/-- Steps in a row, with all that happens by them. -/
inductive Trace {α β : Type} (step : α → β → α → Prop) (first : α) : List β → α → Prop
  | nil : Trace step first [] first
  | snoc {history : List β} {before after : α} {event : β}
      (trace : Trace step first history before) (next : step before event after) :
      Trace step first (history ++ [event]) after

namespace Trace

variable {α β : Type} {step : α → β → α → Prop} {first middle last : α} {earlier later : List β}
  {event : β}

theorem single (next : step first event last) : Trace step first [event] last :=
  Trace.nil.snoc next

theorem append (begun : Trace step first earlier middle) (ended : Trace step middle later last) :
    Trace step first (earlier ++ later) last := by
  induction ended with
  | nil => rwa [List.append_nil]
  | snoc trace next ih =>
    rw [← List.append_assoc]
    exact ih.snoc next

theorem last_step (trace : Trace step first (earlier ++ [event]) last) :
    ∃ before, Trace step first earlier before ∧ step before event last := by
  generalize whole : earlier ++ [event] = history at trace
  cases trace with
  | nil => exact absurd whole (List.concat_ne_nil _ _)
  | snoc trace next =>
    obtain ⟨rfl, same⟩ := List.append_inj' whole rfl
    cases same
    exact ⟨_, trace, next⟩

theorem split (trace : Trace step first (earlier ++ later) last) :
    ∃ middle, Trace step first earlier middle ∧ Trace step middle later last := by
  induction later using List.reverseRecOn generalizing last with
  | nil =>
    rw [List.append_nil] at trace
    exact ⟨last, trace, .nil⟩
  | append_singleton later event ih =>
    rw [← List.append_assoc] at trace
    obtain ⟨before, trace, next⟩ := trace.last_step
    obtain ⟨middle, begun, ended⟩ := ih trace
    exact ⟨middle, begun, ended.snoc next⟩

theorem split_at (trace : Trace step first (earlier ++ event :: later) last) :
    ∃ before after, Trace step first earlier before ∧ step before event after ∧
      Trace step after later last := by
  rw [List.append_cons] at trace
  obtain ⟨after, begun, ended⟩ := trace.split
  obtain ⟨before, begun, next⟩ := begun.last_step
  exact ⟨before, after, begun, next, ended⟩

theorem eq_of_nil (trace : Trace step first [] last) : last = first := by
  generalize whole : [] = history at trace
  cases trace with
  | nil => rfl
  | snoc trace next => exact absurd whole.symm (List.concat_ne_nil _ _)

theorem first_step (trace : Trace step first (event :: later) last) :
    ∃ after, step first event after ∧ Trace step after later last := by
  have trace : Trace step first ([] ++ event :: later) last := trace
  obtain ⟨before, after, begun, next, ended⟩ := trace.split_at
  rw [begun.eq_of_nil] at next
  exact ⟨after, next, ended⟩

theorem cons (next : step first event middle) (trace : Trace step middle later last) :
    Trace step first (event :: later) last :=
  (single next).append trace

end Trace

/-- An operation that was answered. -/
structure Exchange where
  op : Op
  answer : op.Answer

/-- An activity goes on with an answer. -/
inductive Activity.GoesOn {α : Type} : Activity α → Exchange → Activity α → Prop
  | answer (op : Op) (next : op.Answer → Activity α) (answer : op.Answer) :
      GoesOn (.step op next) ⟨op, answer⟩ (next answer)

end Switchboard
