import Mathlib.Data.List.TakeWhile
import Switchboard.Decimal.Read

set_option autoImplicit false

namespace Switchboard.Decimal

def digitOf (c : Char) : Nat := c.toNat - '0'.toNat

theorem digit?_eq (c : Char) : digit? c = if c.isDigit then some (digitOf c) else none := rfl

theorem takeDigits_eq (text : List Char) :
    takeDigits text =
      ((text.takeWhile Char.isDigit).map digitOf, text.dropWhile Char.isDigit) := by
  induction text with
  | nil => rfl
  | cons c rest ih =>
    rw [takeDigits, digit?_eq]
    cases digit : c.isDigit with
    | true =>
      rw [if_pos rfl, ih, List.takeWhile_cons_of_pos digit, List.dropWhile_cons_of_pos digit]
      rfl
    | false =>
      have stop : ¬ c.isDigit = true := Bool.not_eq_true _ ▸ digit
      rw [if_neg Bool.false_ne_true, List.takeWhile_cons_of_neg stop,
        List.dropWhile_cons_of_neg stop]
      rfl

theorem digitsValue_map (digits : List Char) :
    digitsValue (digits.map digitOf) = Nat.ofDigitChars 10 digits 0 := by
  suffices same : ∀ value,
      (digits.map digitOf).foldl (fun value digit => value * 10 + digit) value =
        Nat.ofDigitChars 10 digits value from same 0
  induction digits with
  | nil => exact fun _ => rfl
  | cons c digits ih =>
    intro value
    rw [List.map_cons, List.foldl_cons, ih, Nat.ofDigitChars_cons, Nat.mul_comm 10]
    rfl

/-- A sign, or nothing in its place. -/
def IsSign (text : List Char) : Prop := text = [] ∨ text = ['+'] ∨ text = ['-']

/-- Decimal digits, at least one. -/
def IsDigits (text : List Char) : Prop := text ≠ [] ∧ ∀ c ∈ text, c.isDigit

/-- A power of ten behind a number, or nothing in its place. -/
inductive IsPower : List Char → Prop
  | unwritten : IsPower []
  | written {letter : Char} {sign digits : List Char} (marked : letter = 'e' ∨ letter = 'E')
      (signed : IsSign sign) (all : IsDigits digits) : IsPower (letter :: (sign ++ digits))

/-- A number with a point: digits on at least one side of it, and perhaps a power of ten. -/
inductive IsFraction : List Char → Prop
  | intro {sign whole fraction power : List Char} (signed : IsSign sign)
      (before : ∀ c ∈ whole, c.isDigit) (behind : ∀ c ∈ fraction, c.isDigit)
      (digits : whole ≠ [] ∨ fraction ≠ []) (scaled : IsPower power) :
      IsFraction (sign ++ (whole ++ '.' :: (fraction ++ power)))

theorem takeSign_append {sign rest : List Char} (signed : IsSign sign)
    (other : ∀ c ∈ rest.head?, c ≠ '+' ∧ c ≠ '-') :
    takeSign (sign ++ rest) = (decide (sign = ['-']), rest) := by
  rcases signed with rfl | rfl | rfl
  · rw [List.nil_append, takeSign]
    · rfl
    · rintro more rfl
      exact (other _ rfl).1 rfl
    · rintro more rfl
      exact (other _ rfl).2 rfl
  · rfl
  · rfl

theorem exists_sign (text : List Char) :
    ∃ sign, IsSign sign ∧ text = sign ++ (takeSign text).2 ∧
      (takeSign text).1 = decide (sign = ['-']) := by
  fun_cases takeSign text with
  | case1 rest => exact ⟨['+'], .inr (.inl rfl), rfl, rfl⟩
  | case2 rest => exact ⟨['-'], .inr (.inr rfl), rfl, rfl⟩
  | case3 => exact ⟨[], .inl rfl, rfl, rfl⟩

theorem takeDigits_append {digits rest : List Char} (all : ∀ c ∈ digits, c.isDigit)
    (stop : ∀ c ∈ rest.head?, ¬ c.isDigit) :
    takeDigits (digits ++ rest) = (digits.map digitOf, rest) := by
  have behind : rest.takeWhile Char.isDigit = [] ∧ rest.dropWhile Char.isDigit = rest := by
    cases rest with
    | nil => exact ⟨rfl, rfl⟩
    | cons c rest =>
      exact ⟨List.takeWhile_cons_of_neg (stop c rfl), List.dropWhile_cons_of_neg (stop c rfl)⟩
  rw [takeDigits_eq, List.takeWhile_append_of_pos all, List.dropWhile_append_of_pos all,
    behind.1, behind.2, List.append_nil]

theorem not_sign_of_isDigit {c : Char} (digit : c.isDigit) : c ≠ '+' ∧ c ≠ '-' := by
  constructor
  · rintro rfl
    exact absurd digit (by decide)
  · rintro rfl
    exact absurd digit (by decide)

theorem takeDigits_all_iff {text : List Char} {digits : List Nat} (nonempty : digits ≠ []) :
    takeDigits text = (digits, []) ↔ IsDigits text ∧ digits = text.map digitOf := by
  constructor
  · intro taken
    rw [takeDigits_eq, Prod.mk.injEq] at taken
    obtain ⟨rfl, all⟩ := taken
    have every : ∀ c ∈ text, c.isDigit := List.dropWhile_eq_nil_iff.mp all
    rw [List.takeWhile_eq_self_iff.mpr every] at nonempty ⊢
    exact ⟨⟨fun empty => nonempty (congrArg _ empty), every⟩, rfl⟩
  · rintro ⟨all, rfl⟩
    have taken := @takeDigits_append text [] all.2 nofun
    rwa [List.append_nil] at taken

theorem IsDigits.taken {text : List Char} (all : IsDigits text) :
    ∃ first others, takeDigits text = (first :: others, []) ∧
      text.map digitOf = first :: others := by
  have nonempty : text.map digitOf ≠ [] := fun empty => all.1 (List.map_eq_nil_iff.mp empty)
  obtain ⟨first, others, same⟩ := List.exists_cons_of_ne_nil nonempty
  exact ⟨first, others, same ▸ (takeDigits_all_iff nonempty).mpr ⟨all, rfl⟩, same⟩

theorem IsDigits.behind_sign {sign digits : List Char} (all : IsDigits digits)
    (signed : IsSign sign) : takeSign (sign ++ digits) = (decide (sign = ['-']), digits) := by
  apply takeSign_append signed
  intro c first
  exact not_sign_of_isDigit (all.2 c (List.mem_of_mem_head? first))

theorem powerOf?_isSome_iff {text : List Char} : (powerOf? text).isSome ↔ IsPower text := by
  constructor
  · intro read
    cases text with
    | nil => exact .unwritten
    | cons letter rest =>
      rw [powerOf?] at read
      split at read
      · next marked =>
        obtain ⟨sign, signed, split, -⟩ := exists_sign rest
        dsimp only at read
        split at read
        · cases read
        · next nonempty taken =>
          obtain ⟨all, -⟩ := (takeDigits_all_iff nonempty).mp taken
          rw [split]
          exact .written (by simpa using marked) signed all
        · cases read
      · cases read
  · intro power
    cases power with
    | unwritten => rfl
    | @written letter sign digits marked signed all =>
      obtain ⟨first, others, taken, -⟩ := all.taken
      rw [powerOf?, if_pos (by simpa using marked), all.behind_sign signed]
      dsimp only
      rw [taken]
      rfl

theorem IsPower.no_point {text : List Char} (power : IsPower text) : '.' ∉ text := by
  cases power with
  | unwritten => exact List.not_mem_nil
  | @written letter sign digits marked signed all =>
    intro point
    rcases List.mem_cons.mp point with same | point
    · rcases marked with rfl | rfl <;> cases same
    · rcases List.mem_append.mp point with point | point
      · rcases signed with rfl | rfl | rfl <;> simp at point
      · exact absurd (all.2 _ point) (by decide)

theorem IsPower.head {text : List Char} (power : IsPower text) :
    ∀ c ∈ text.head?, ¬ c.isDigit := by
  intro c first
  cases power with
  | unwritten => cases first
  | written marked signed all =>
    cases first
    rcases marked with rfl | rfl
    · decide
    · decide

theorem isFraction_of_ofText? {text : List Char} (point : '.' ∈ text)
    (read : (Literal.ofText? text).isSome) : IsFraction text := by
  obtain ⟨sign, signed, split, -⟩ := exists_sign text
  rw [Literal.ofText?] at read
  dsimp only at read
  generalize (takeSign text).2 = unsigned at split read
  rw [takeDigits_eq] at read
  have parts := unsigned.takeWhile_append_dropWhile (p := Char.isDigit)
  have before := fun c => unsigned.mem_takeWhile_imp (p := Char.isDigit) (x := c)
  generalize unsigned.takeWhile Char.isDigit = whole at parts before read
  generalize unsigned.dropWhile Char.isDigit = rest at parts read
  dsimp only at read
  split at read
  · next behind =>
    rw [takeDigits_eq] at read
    dsimp only at read
    split at read
    · cases read
    · next digits =>
      rw [Option.isSome_map] at read
      rw [split, ← parts, ← behind.takeWhile_append_dropWhile (p := Char.isDigit)]
      refine .intro signed before (fun c => List.mem_takeWhile_imp) ?_
        (powerOf?_isSome_iff.mp read)
      rw [Bool.and_eq_true, List.isEmpty_iff, List.isEmpty_iff, List.map_eq_nil_iff,
        List.map_eq_nil_iff, Decidable.not_and_iff_or_not] at digits
      exact digits
  · -- what stands behind the digits is a power of ten, and there is no point in it
    split at read
    · cases read
    · rw [Option.isSome_map] at read
      rw [split, ← parts] at point
      rcases List.mem_append.mp point with point | point
      · rcases signed with rfl | rfl | rfl <;> simp at point
      · rcases List.mem_append.mp point with point | point
        · exact absurd (before _ point) (by decide)
        · exact absurd point (powerOf?_isSome_iff.mp read).no_point

theorem IsFraction.ofText? {text : List Char} (fraction : IsFraction text) :
    (Literal.ofText? text).isSome := by
  obtain @⟨sign, whole, fraction, power, signed, before, behind, digits, scaled⟩ := fraction
  have unsigned : ∀ c ∈ (whole ++ '.' :: (fraction ++ power)).head?, c ≠ '+' ∧ c ≠ '-' := by
    intro c first
    cases whole with
    | nil =>
      cases first
      decide
    | cons d whole =>
      cases first
      exact not_sign_of_isDigit (before c List.mem_cons_self)
  have point : ∀ c ∈ ('.' :: (fraction ++ power)).head?, ¬ c.isDigit := by
    rintro c ⟨⟩
    decide
  have some_digit : ¬ ((whole.map digitOf).isEmpty && (fraction.map digitOf).isEmpty) = true := by
    rw [Bool.and_eq_true, List.isEmpty_iff, List.isEmpty_iff, List.map_eq_nil_iff,
      List.map_eq_nil_iff, Decidable.not_and_iff_or_not]
    exact digits
  rw [Literal.ofText?, takeSign_append signed unsigned]
  dsimp only
  rw [takeDigits_append before point]
  change (if ((whole.map digitOf).isEmpty && (takeDigits (fraction ++ power)).1.isEmpty) = true
    then none else (powerOf? (takeDigits (fraction ++ power)).2).map _).isSome = true
  rw [takeDigits_append behind scaled.head, if_neg some_digit, Option.isSome_map]
  exact powerOf?_isSome_iff.mpr scaled

theorem IsSign.mem {sign : List Char} (signed : IsSign sign) : ∀ c ∈ sign, c = '+' ∨ c = '-' := by
  rcases signed with rfl | rfl | rfl
  · exact nofun
  · exact List.forall_mem_singleton.mpr (.inl rfl)
  · exact List.forall_mem_singleton.mpr (.inr rfl)

end Switchboard.Decimal
