
set_option autoImplicit false

namespace Switchboard.Text

def isBlank (c : Char) : Bool :=
  let n := c.toNat
  (9 ≤ n && n ≤ 13) || n = 0x20 || n = 0x85 || n = 0xA0 || n = 0x1680 ||
    (0x2000 ≤ n && n ≤ 0x200A) || n = 0x2028 || n = 0x2029 || n = 0x202F || n = 0x205F ||
    n = 0x3000

/-- The characters without white space at both ends. -/
def trimChars (text : List Char) : List Char :=
  ((text.dropWhile isBlank).reverse.dropWhile isBlank).reverse

def trim (text : String) : String :=
  String.ofList (trimChars text.toList)

def isAllBlank (text : String) : Bool :=
  text.toList.all isBlank

theorem dropWhile_isBlank {before rest : List Char} (blank : ∀ c ∈ before, isBlank c = true)
    (visible : ∀ c ∈ rest.head?, isBlank c = false) :
    (before ++ rest).dropWhile isBlank = rest := by
  induction before with
  | nil =>
    cases rest with
    | nil => rfl
    | cons c rest => exact List.dropWhile_cons_of_neg (Bool.not_eq_true _ ▸ visible c rfl)
  | cons c before ih =>
    obtain ⟨first, others⟩ := List.forall_mem_cons.mp blank
    rw [List.cons_append, List.dropWhile_cons_of_pos first, ih others]

theorem trimChars_append {before body after : List Char}
    (blank_before : ∀ c ∈ before, isBlank c = true) (blank_after : ∀ c ∈ after, isBlank c = true)
    (first : ∀ c ∈ body.head?, isBlank c = false)
    (last : ∀ c ∈ body.getLast?, isBlank c = false) :
    trimChars (before ++ body ++ after) = body := by
  have blank_reversed : ∀ c ∈ after.reverse, isBlank c = true :=
    fun c member => blank_after c (List.mem_reverse.mp member)
  have last_reversed : ∀ c ∈ body.reverse.head?, isBlank c = false := by
    rwa [List.head?_reverse]
  have front : (before ++ (body ++ after)).dropWhile isBlank = body ++ after ∨ body = [] := by
    cases body with
    | nil => exact .inr rfl
    | cons c body => exact .inl (dropWhile_isBlank blank_before first)
  rw [trimChars, List.append_assoc]
  rcases front with dropped | rfl
  · rw [dropped, List.reverse_append, dropWhile_isBlank blank_reversed last_reversed,
      List.reverse_reverse]
  · have all_dropped := @dropWhile_isBlank (before ++ after) []
      (List.forall_mem_append.mpr ⟨blank_before, blank_after⟩) nofun
    rw [List.append_nil] at all_dropped
    rw [List.nil_append, all_dropped]
    rfl

theorem trimChars_of_noBlank {text : List Char} (noBlank : text.any isBlank = false) :
    trimChars text = text := by
  have visible : ∀ c ∈ text, isBlank c = false := by
    simpa only [List.any_eq_false, Bool.not_eq_true] using noBlank
  have trimmed := @trimChars_append [] text [] nofun nofun
    (fun c member => visible c (List.mem_of_mem_head? member))
    (fun c member => visible c (List.mem_of_mem_getLast? member))
  rwa [List.nil_append, List.append_nil] at trimmed

theorem exists_eq_append_trimChars (text : List Char) :
    ∃ before after, text = before ++ trimChars text ++ after ∧
      (∀ c ∈ before, isBlank c = true) ∧ ∀ c ∈ after, isBlank c = true := by
  have blank : ∀ chars : List Char, ∀ c ∈ chars.takeWhile isBlank, isBlank c = true :=
    fun chars c member => List.all_eq_true.mp List.all_takeWhile c member
  have split := List.takeWhile_append_dropWhile (p := isBlank) (l := text)
  refine ⟨text.takeWhile isBlank,
    ((text.dropWhile isBlank).reverse.takeWhile isBlank).reverse, ?_, blank text, ?_⟩
  · rw [trimChars, List.append_assoc, ← List.reverse_append, List.takeWhile_append_dropWhile,
      List.reverse_reverse, List.takeWhile_append_dropWhile]
  · intro c member
    exact blank _ c (List.mem_reverse.mp member)

end Switchboard.Text
