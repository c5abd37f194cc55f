import Mathlib.Data.List.SplitBy
import Switchboard.Repeater.History

set_option autoImplicit false

/- Runs of equal texts. A history keeps two things of the texts of a group: the last one, and
whether the one before it was the same. That is enough to tell, for the next text, whether it is the
second of its run, whatever comes after it. -/

namespace Switchboard.Repeater

def runs (texts : List String) : List (List String) := texts.splitBy (· == ·)

/-- The text at a position is the second one of its run. -/
def SecondOfRun (texts : List String) (position : Nat) : Prop :=
  ∃ earlier run later, runs texts = earlier ++ run :: later ∧ 2 ≤ run.length ∧
    position = earlier.flatten.length + 1

/-- What is kept of texts: the last one, and whether the one before it was the same. -/
def mark (texts : List String) : String × Bool :=
  match texts.reverse with
  | [] => ("", false)
  | [text] => (text, false)
  | text :: previous :: _ => (text, previous == text)

variable {texts before after : List String} {text : String}

theorem mark_fst (texts : List String) : (mark texts).1 = texts.getLast?.getD "" := by
  rw [mark, List.getLast?_eq_head?_reverse]
  rcases texts.reverse with - | ⟨text, - | ⟨previous, rest⟩⟩ <;> rfl

theorem mark_concat (spoken : text ≠ "") :
    mark (texts ++ [text]) = (text, decide ((mark texts).1 = text)) := by
  rw [mark, List.reverse_append, List.reverse_singleton, List.singleton_append, mark]
  rcases texts.reverse with - | ⟨last, - | ⟨previous, rest⟩⟩
  · simp [spoken.symm]
  · rfl
  · rfl

theorem exists_of_mark (spoken : text ≠ "") (marked : mark before = (text, false)) :
    ∃ front, before = front ++ [text] ∧ ∀ last ∈ front.getLast?, (last == text) = false := by
  rcases List.eq_nil_or_concat before with rfl | ⟨front, last, rfl⟩
  · simp [mark, spoken.symm] at marked
  · have same : last = text := by
      simpa [mark_fst] using congrArg Prod.fst marked
    subst same
    rw [List.concat_eq_append, mark_concat spoken, mark_fst] at marked
    refine ⟨front, List.concat_eq_append, fun previous ends => ?_⟩
    simpa [Option.mem_def.mp ends] using congrArg Prod.snd marked

theorem runs_cons_cons (text : String) (rest : List String) :
    ∃ run later, runs (text :: text :: rest) = run :: later ∧ 2 ≤ run.length := by
  have whole := List.flatten_splitBy (· == ·) (text :: text :: rest)
  have parted := List.isChain_getLast_head_splitBy (· == ·) (text :: text :: rest)
  have filled := List.nil_notMem_splitBy (· == ·) (text :: text :: rest)
  rw [runs]
  rcases cut : (text :: text :: rest).splitBy (· == ·) with - | ⟨run, later⟩
  · exact absurd cut (List.splitBy_ne_nil.mpr (List.cons_ne_nil _ _))
  · rw [cut] at whole parted filled
    refine ⟨run, later, rfl, ?_⟩
    by_contra short
    obtain ⟨only, rfl⟩ : ∃ only, run = [only] := by
      apply List.length_eq_one_iff.mp
      have nonempty := List.length_pos_iff.mpr fun (empty : run = []) => filled (by simp [empty])
      omega
    obtain ⟨rfl, others⟩ := List.cons.inj whole
    rcases later with - | ⟨next, later⟩
    · cases others
    · obtain ⟨_, nonempty, unlike⟩ := List.rel_of_isChain_cons_cons parted
      obtain ⟨head, tail, rfl⟩ := List.exists_cons_of_ne_nil nonempty
      obtain ⟨rfl, -⟩ := List.cons.inj others
      simp at unlike

theorem secondOfRun_iff (spoken : text ≠ "") :
    SecondOfRun (before ++ text :: after) before.length ↔ mark before = (text, false) := by
  constructor
  · rintro ⟨earlier, run, later, cut, long, place⟩
    obtain ⟨first, second, rest, rfl⟩ : ∃ first second rest, run = first :: second :: rest := by
      rcases run with - | ⟨first, - | ⟨second, rest⟩⟩
      · simp at long
      · simp at long
      · exact ⟨first, second, rest, rfl⟩
    have whole := List.flatten_splitBy (· == ·) (before ++ text :: after)
    have parted := List.isChain_getLast_head_splitBy (· == ·) (before ++ text :: after)
    have alike : first = second := by
      have chained := List.isChain_of_mem_splitBy (r := (· == ·)) (l := before ++ text :: after)
        (m := first :: second :: rest) (by rw [← runs, cut]; simp)
      exact eq_of_beq (List.isChain_cons_cons.mp chained).1
    subst alike
    rw [← runs, cut] at whole parted
    have split : earlier.flatten ++ [first] = before ∧
        first :: (rest ++ later.flatten) = text :: after :=
      List.append_inj (by simpa using whole) (by simp [place])
    obtain ⟨rfl, same⟩ := split
    obtain ⟨rfl, -⟩ := List.cons.inj same
    rw [mark_concat spoken, mark_fst]
    rcases List.eq_nil_or_concat earlier with rfl | ⟨earlier, previous, rfl⟩
    · simp [spoken.symm]
    · rw [List.concat_eq_append, List.isChain_append] at parted
      obtain ⟨nonempty, _, unlike⟩ := parted.2.2 previous (by simp) _ rfl
      have ends : (earlier ++ [previous]).flatten.getLast? = some (previous.getLast nonempty) := by
        simp [List.getLast?_append, List.getLast?_eq_some_getLast nonempty]
      rw [List.concat_eq_append, ends]
      simpa using unlike
  · intro marked
    obtain ⟨front, rfl, unlike⟩ := exists_of_mark spoken marked
    obtain ⟨run, later, cut, long⟩ := runs_cons_cons text after
    refine ⟨runs front, run, later, ?_, long, ?_⟩
    · rw [runs, List.append_assoc, List.singleton_append, List.splitBy_append_cons _ unlike]
      exact congrArg _ cut
    · rw [runs, List.flatten_splitBy, List.length_append, List.length_singleton]

namespace History

variable {history : History} {group : GroupId}

@[simp] theorem last_put_self (text : String) (repeated : Bool) :
    (history.put group text repeated).last group = (text, repeated) := by
  simp [last, put]

@[simp] theorem last_put_of_ne {other : GroupId} (different : other ≠ group) (text : String)
    (repeated : Bool) : (history.put group text repeated).last other = history.last other := by
  have kept : (history.filter fun entry => decide (entry.1 ≠ group)).find?
      (fun entry => decide (entry.1 = other)) = history.find? fun entry => entry.1 = other := by
    rw [List.find?_filter]
    congr 1
    funext entry
    by_cases same : entry.1 = other
    · simp [same, different]
    · simp [same]
  simp only [last, put, List.find?_cons_of_neg (l := _) (a := (group, text, repeated))
    (p := fun entry => decide (entry.1 = other)) (by simpa using different.symm), kept]

theorem last_record_of_ne {other : GroupId} (different : other ≠ group) (text : String) :
    (history.record group text).2.last other = history.last other := by
  rw [record]
  dsimp only
  split <;> exact last_put_of_ne different _ _

/-- A history that holds the mark of what was said tells whether a text is the second of its run,
and holds the mark of it then. -/
theorem record_of_mark (marked : history.last group = mark texts) (spoken : text ≠ "") :
    history.record group text = (decide (mark texts = (text, false)),
      history.put group text (mark (texts ++ [text])).2) := by
  rw [record, marked, mark_concat spoken]
  obtain ⟨last, repeated⟩ := mark texts
  by_cases same : last = text
  · cases repeated <;> simp [same]
  · simp [same]

end History
end Switchboard.Repeater
