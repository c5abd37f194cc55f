
set_option autoImplicit false

namespace Switchboard.Text

/-- Does a list of characters stand somewhere in a text? -/
def occursIn (part : List Char) : List Char → Bool
  | [] => part.isEmpty
  | c :: rest => part.isPrefixOf (c :: rest) || occursIn part rest

/-- The parts of a text between its separators; there is always one part more than separators. -/
def partsBetween (separator : Char) : List Char → List (List Char)
  | [] => [[]]
  | c :: rest =>
    if c = separator then [] :: partsBetween separator rest
    else
      match partsBetween separator rest with
      | [] => [[c]]
      | first :: others => (c :: first) :: others

theorem partsBetween_ne_nil (separator : Char) (text : List Char) :
    partsBetween separator text ≠ [] := by
  cases text with
  | nil => simp [partsBetween]
  | cons c rest =>
    unfold partsBetween
    split
    · simp
    · split <;> simp

theorem partsBetween_of_not_mem {separator : Char} {text : List Char} (free : separator ∉ text) :
    partsBetween separator text = [text] := by
  induction text with
  | nil => rfl
  | cons c text ih =>
    obtain ⟨differs, free⟩ := List.ne_and_not_mem_of_not_mem_cons free
    rw [partsBetween, if_neg (Ne.symm differs), ih free]

theorem partsBetween_append {separator : Char} {text : List Char} (free : separator ∉ text)
    (rest : List Char) :
    partsBetween separator (text ++ separator :: rest) = text :: partsBetween separator rest := by
  induction text with
  | nil => rw [List.nil_append, partsBetween, if_pos rfl]
  | cons c text ih =>
    obtain ⟨differs, free⟩ := List.ne_and_not_mem_of_not_mem_cons free
    rw [List.cons_append, partsBetween, if_neg (Ne.symm differs), ih free]

end Switchboard.Text
