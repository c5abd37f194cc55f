import Mathlib.Data.List.Basic
import Switchboard.Duration

set_option autoImplicit false

namespace Switchboard.Duration

theorem isDigit_iff {c : Char} : c.isDigit ↔ '0' ≤ c ∧ c ≤ '9' := by
  rw [Char.isDigit, Bool.and_eq_true, decide_eq_true_eq, decide_eq_true_eq]
  rfl

theorem isBlank_of_isDigit {c : Char} (digit : c.isDigit) : Text.isBlank c = false := by
  obtain ⟨low, high⟩ := isDigit_iff.mp digit
  have least : 48 ≤ c.toNat := low
  have greatest : c.toNat ≤ 57 := high
  simp only [Text.isBlank, Bool.or_eq_false_iff, Bool.and_eq_false_iff, decide_eq_false_iff_not]
  omega

theorem le_ofDigitChars (digits : List Char) (value : Nat) :
    value ≤ Nat.ofDigitChars 10 digits value := by
  induction digits generalizing value with
  | nil => exact Nat.le_refl value
  | cons c digits ih =>
    rw [Nat.ofDigitChars_cons]
    apply Nat.le_trans _ (ih _)
    omega

theorem appendDigits_eq_ok_iff {value : Nat} (fits : value < bound) {text : List Char}
    {result : Nat} :
    appendDigits value text = .ok result ↔
      (∀ c ∈ text, c.isDigit) ∧ Nat.ofDigitChars 10 text value = result ∧ result < bound := by
  induction text generalizing value with
  | nil =>
    rw [appendDigits, Nat.ofDigitChars_nil]
    constructor
    · intro same
      cases same
      exact ⟨fun c member => (List.not_mem_nil member).elim, rfl, fits⟩
    · rintro ⟨_, rfl, _⟩
      rfl
  | cons c text ih =>
    rw [appendDigits, List.forall_mem_cons, Nat.ofDigitChars_cons, isDigit_iff, Nat.mul_comm 10]
    by_cases digit : '0' ≤ c ∧ c ≤ '9'
    · rw [if_pos digit]
      dsimp only
      by_cases small : value * 10 + (c.toNat - '0'.toNat) < bound
      · rw [if_pos small, ih small]
        exact ⟨fun ⟨others, rest⟩ => ⟨⟨digit, others⟩, rest⟩, fun ⟨⟨_, others⟩, rest⟩ =>
          ⟨others, rest⟩⟩
      · rw [if_neg small]
        refine iff_of_false nofun ?_
        rintro ⟨_, rfl, below⟩
        exact small (Nat.lt_of_le_of_lt (le_ofDigitChars text _) below)
    · rw [if_neg digit]
      exact iff_of_false nofun fun ⟨⟨digit', _⟩, _⟩ => digit digit'

/-- Decimal digits, perhaps behind a plus sign, and the number that they stand for. -/
inductive IsNumber : List Char → Nat → Prop
  | unsigned {digits : List Char} (nonempty : digits ≠ []) (all : ∀ c ∈ digits, c.isDigit) :
      IsNumber digits (Nat.ofDigitChars 10 digits 0)
  | signed {digits : List Char} (nonempty : digits ≠ []) (all : ∀ c ∈ digits, c.isDigit) :
      IsNumber ('+' :: digits) (Nat.ofDigitChars 10 digits 0)

theorem IsNumber.ne_nil {text : List Char} {count : Nat} (number : IsNumber text count) :
    text ≠ [] := by
  cases number with
  | unsigned nonempty all => exact nonempty
  | signed nonempty all => exact List.cons_ne_nil _ _

theorem IsNumber.digit_or_plus {text : List Char} {count : Nat} (number : IsNumber text count) :
    ∀ c ∈ text, c.isDigit ∨ c = '+' := by
  cases number with
  | unsigned nonempty all => exact fun c member => .inl (all c member)
  | signed nonempty all =>
    exact List.forall_mem_cons.mpr ⟨.inr rfl, fun c member => .inl (all c member)⟩

theorem parseNumber_of_ne {c : Char} (unsigned : c ≠ '+') (rest : List Char) :
    parseNumber (c :: rest) = appendDigits 0 (c :: rest) := by
  rw [parseNumber]
  · exact List.cons_ne_nil c rest
  · exact fun signed => unsigned (List.cons.inj signed).1
  · exact fun _ signed => unsigned (List.cons.inj signed).1

theorem parseNumber_eq_ok_iff {text : List Char} {count : Nat} :
    parseNumber text = .ok count ↔ IsNumber text count ∧ count < bound := by
  have zero_fits : 0 < bound := by decide
  constructor
  · fun_cases parseNumber text with
    | case1 => exact nofun
    | case2 => exact nofun
    | case3 digits more =>
      rw [appendDigits_eq_ok_iff zero_fits]
      rintro ⟨all, rfl, fits⟩
      exact ⟨.signed more all, fits⟩
    | case4 digits nonempty =>
      rw [appendDigits_eq_ok_iff zero_fits]
      rintro ⟨all, rfl, fits⟩
      exact ⟨.unsigned nonempty all, fits⟩
  · rintro ⟨number, fits⟩
    cases number with
    | @unsigned digits nonempty all =>
      obtain ⟨c, rest, rfl⟩ := List.exists_cons_of_ne_nil nonempty
      have unsigned : c ≠ '+' := by
        rintro rfl
        exact absurd (all '+' List.mem_cons_self) (by decide)
      rw [parseNumber_of_ne unsigned]
      exact (appendDigits_eq_ok_iff zero_fits).mpr ⟨all, rfl, fits⟩
    | @signed digits nonempty all =>
      rw [parseNumber]
      · exact (appendDigits_eq_ok_iff zero_fits).mpr ⟨all, rfl, fits⟩
      · exact nonempty

/-- The letters that name a unit. Without any, seconds are meant. -/
def Unit.spellings : Unit → List (List Char)
  | .millis => [['m', 's']]
  | .seconds => [['s'], []]
  | .minutes => [['m']]

theorem splitUnit_named (text : List Char) :
    ∃ letters ∈ (splitUnit text.reverse).1.spellings,
      text = (splitUnit text.reverse).2 ++ letters := by
  obtain ⟨reversed, rfl⟩ : ∃ reversed, text = List.reverse reversed :=
    ⟨text.reverse, text.reverse_reverse.symm⟩
  rw [List.reverse_reverse]
  fun_cases splitUnit reversed with
  | case1 rest =>
    refine ⟨['m', 's'], List.mem_cons_self, ?_⟩
    rw [List.reverse_cons, List.reverse_cons, List.append_assoc]
    rfl
  | case2 rest other => exact ⟨['s'], List.mem_cons_self, List.reverse_cons⟩
  | case3 rest => exact ⟨['m'], List.mem_cons_self, List.reverse_cons⟩
  | case4 => exact ⟨[], List.mem_cons_of_mem _ List.mem_cons_self, (List.append_nil _).symm⟩

/-- A unit is cut off what stands before it, if that is not a letter of a unit itself. -/
theorem splitUnit_append {front letters : List Char} {unit : Unit}
    (other : ∀ c ∈ front, c ≠ 'm' ∧ c ≠ 's') (named : letters ∈ unit.spellings) :
    splitUnit (front ++ letters).reverse = (unit, front) := by
  have last : ∀ c ∈ front.reverse, c ≠ 'm' ∧ c ≠ 's' :=
    fun c member => other c (List.mem_reverse.mp member)
  rw [List.reverse_append]
  cases unit with
  | millis =>
    cases List.mem_singleton.mp named
    change splitUnit ('s' :: 'm' :: front.reverse) = _
    rw [splitUnit, List.reverse_reverse]
  | minutes =>
    cases List.mem_singleton.mp named
    change splitUnit ('m' :: front.reverse) = _
    rw [splitUnit, List.reverse_reverse]
  | seconds =>
    rcases List.mem_cons.mp named with rfl | unnamed
    · change splitUnit ('s' :: front.reverse) = _
      rw [splitUnit, List.reverse_reverse]
      intro more same
      exact (last 'm' (same ▸ List.mem_cons_self)).1 rfl
    · cases List.mem_singleton.mp unnamed
      change splitUnit front.reverse = _
      rw [splitUnit, List.reverse_reverse]
      · intro more same
        exact (last 's' (same ▸ List.mem_cons_self)).2 rfl
      · intro more same
        exact (last 's' (same ▸ List.mem_cons_self)).2 rfl
      · intro more same
        exact (last 'm' (same ▸ List.mem_cons_self)).1 rfl

/-- White space, a number, white space, the letters of a unit, and white space. -/
inductive Spells (text : List Char) (count : Nat) (unit : Unit) : Prop
  | intro {before number between letters after : List Char}
      (split : text = before ++ number ++ between ++ letters ++ after)
      (isNumber : IsNumber number count) (named : letters ∈ unit.spellings)
      (blank_before : ∀ c ∈ before, Text.isBlank c = true)
      (blank_between : ∀ c ∈ between, Text.isBlank c = true)
      (blank_after : ∀ c ∈ after, Text.isBlank c = true)

theorem IsNumber.no_blank {text : List Char} {count : Nat} (number : IsNumber text count) :
    ∀ c ∈ text, Text.isBlank c = false := by
  intro c member
  rcases number.digit_or_plus c member with digit | rfl
  · exact isBlank_of_isDigit digit
  · rfl

theorem IsNumber.no_letter {text between : List Char} {count : Nat} (number : IsNumber text count)
    (blank : ∀ c ∈ between, Text.isBlank c = true) : ∀ c ∈ text ++ between, c ≠ 'm' ∧ c ≠ 's' := by
  refine List.forall_mem_append.mpr ⟨fun c member => ?_, fun c member => ?_⟩
  · rcases number.digit_or_plus c member with digit | rfl
    · constructor
      · rintro rfl
        exact absurd digit (by decide)
      · rintro rfl
        exact absurd digit (by decide)
    · decide
  · have seen := blank c member
    constructor
    · rintro rfl
      exact absurd seen (by decide)
    · rintro rfl
      exact absurd seen (by decide)

theorem Unit.spellings_no_blank {unit : Unit} {letters : List Char}
    (named : letters ∈ unit.spellings) : ∀ c ∈ letters, Text.isBlank c = false := by
  have shown : letters.any Text.isBlank = false := by
    revert letters
    cases unit <;> decide
  simpa only [List.any_eq_false, Bool.not_eq_true] using shown

variable {text : List Char} {count : Nat} {unit : Unit}

theorem Spells.trimmed (spells : Spells text count unit) :
    ∃ number between letters, Text.trimChars text = number ++ between ++ letters ∧
      IsNumber number count ∧ letters ∈ unit.spellings ∧
      ∀ c ∈ between, Text.isBlank c = true := by
  obtain ⟨rfl, isNumber, named, blank_before, blank_between, blank_after⟩ := spells
  next before number between letters after =>
  have visible := isNumber.no_blank
  have first : ∀ rest, ∀ c ∈ (number ++ rest).head?, Text.isBlank c = false := by
    intro rest c head
    rw [List.head?_append_of_ne_nil _ isNumber.ne_nil] at head
    exact visible c (List.mem_of_mem_head? head)
  cases letters with
  | nil =>
    -- without letters, the white space behind the number is all at the end
    refine ⟨number, [], [], ?_, isNumber, named, nofun⟩
    rw [List.append_nil, List.append_nil, List.append_nil, List.append_assoc (before ++ number)]
    refine Text.trimChars_append blank_before
      (List.forall_mem_append.mpr ⟨blank_between, blank_after⟩) ?_ ?_
    · exact fun c head => visible c (List.mem_of_mem_head? head)
    · exact fun c last => visible c (List.mem_of_mem_getLast? last)
  | cons letter letters =>
    refine ⟨number, between, letter :: letters, ?_, isNumber, named, blank_between⟩
    have regrouped : before ++ number ++ between ++ letter :: letters ++ after =
        before ++ (number ++ between ++ letter :: letters) ++ after := by
      simp only [List.append_assoc]
    rw [regrouped]
    refine Text.trimChars_append blank_before blank_after ?_ ?_
    · rw [List.append_assoc]
      exact first _
    · rw [List.getLast?_append_of_ne_nil _ (List.cons_ne_nil letter letters)]
      exact fun c last => Unit.spellings_no_blank named c (List.mem_of_mem_getLast? last)

theorem Spells.found (spells : Spells text count unit) :
    ∃ number, splitUnit (Text.trimChars text).reverse = (unit, number) ∧
      IsNumber (Text.trimChars number) count := by
  obtain ⟨number, between, letters, trimmed, isNumber, named, blank⟩ := spells.trimmed
  refine ⟨number ++ between, ?_, ?_⟩
  · rw [trimmed, splitUnit_append (isNumber.no_letter blank) named]
  · have alone := @Text.trimChars_append [] number between nofun blank
      (fun c member => isNumber.no_blank c (List.mem_of_mem_head? member))
      (fun c member => isNumber.no_blank c (List.mem_of_mem_getLast? member))
    rw [List.nil_append] at alone
    rwa [alone]

theorem IsNumber.unique {text : List Char} {count other : Nat} (number : IsNumber text count)
    (number' : IsNumber text other) : count = other := by
  have plus_no_digit : ¬ ('+'.isDigit = true) := by decide
  cases number with
  | unsigned nonempty all =>
    cases number' with
    | unsigned => rfl
    | signed => exact absurd (all '+' List.mem_cons_self) plus_no_digit
  | signed nonempty all =>
    cases number' with
    | unsigned _ digits => exact absurd (digits '+' List.mem_cons_self) plus_no_digit
    | signed => rfl

theorem Spells.unique {count' : Nat} {unit' : Unit} (spells : Spells text count unit)
    (spells' : Spells text count' unit') : count = count' ∧ unit = unit' := by
  obtain ⟨number, found, isNumber⟩ := spells.found
  obtain ⟨number', found', isNumber'⟩ := spells'.found
  obtain ⟨same_unit, rfl⟩ := Prod.mk.inj (found.symm.trans found')
  exact ⟨isNumber.unique isNumber', same_unit⟩

theorem Spells.parsed {text : String} (policy : Overflow) (spells : Spells text.toList count unit)
    (fits : count < bound) : parse policy text = ofUnits policy count unit := by
  obtain ⟨number, found, isNumber⟩ := spells.found
  unfold parse
  dsimp only
  rw [found]
  dsimp only
  rw [parseNumber_eq_ok_iff.mpr ⟨isNumber, fits⟩]

/-- Any other text is refused: it is quoted, with the fault of its number. -/
theorem spells_or_refused (policy : Overflow) (text : String) :
    (∃ count unit, Spells text.toList count unit ∧ count < bound) ∨ ∃ fault : NumberFault,
      parse policy text =
        .error (.refused ("'" ++ Text.trim text ++ "': " ++ fault.message)) := by
  obtain ⟨before, after, trimmed, blank_before, blank_after⟩ :=
    Text.exists_eq_append_trimChars text.toList
  obtain ⟨letters, named, split⟩ := splitUnit_named (Text.trimChars text.toList)
  rcases found : splitUnit (Text.trimChars text.toList).reverse with ⟨unit, rest⟩
  rw [found] at named split
  obtain ⟨lead, between, numbered, blank_lead, blank_between⟩ :=
    Text.exists_eq_append_trimChars rest
  cases number : parseNumber (Text.trimChars rest) with
  | error fault =>
    refine .inr ⟨fault, ?_⟩
    unfold parse
    dsimp only
    rw [found]
    dsimp only
    rw [number]
    rfl
  | ok count =>
    obtain ⟨isNumber, fits⟩ := parseNumber_eq_ok_iff.mp number
    refine .inl ⟨count, unit, ?_, fits⟩
    refine @Spells.intro _ _ _ (before ++ lead) (Text.trimChars rest) between letters after ?_
      isNumber named (List.forall_mem_append.mpr ⟨blank_before, blank_lead⟩) blank_between
      blank_after
    calc text.toList
        = before ++ (rest ++ letters) ++ after := by rw [← split, ← trimmed]
      _ = before ++ (lead ++ Text.trimChars rest ++ between ++ letters) ++ after := by
        rw [← numbered]
      _ = _ := by simp only [List.append_assoc]

end Switchboard.Duration
