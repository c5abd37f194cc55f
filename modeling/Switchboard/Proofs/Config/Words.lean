import Switchboard.Config.Variable
import Switchboard.Proofs.Decimal.Grammar
import Switchboard.Proofs.Duration.Reading

set_option autoImplicit false

namespace Switchboard.Variable

open Decimal

def isNumeric (c : Char) : Bool := c.isDigit || ['+', '-', '.', 'e', 'E'].contains c

/-- A whole number that 64 bits hold: with a minus sign one that a signed number can be, without it
one that an unsigned number can be. -/
inductive IsWhole : List Char → Prop
  | unsigned {sign digits : List Char} (signed : sign = [] ∨ sign = ['+']) (all : IsDigits digits)
      (fits : Nat.ofDigitChars 10 digits 0 < 18446744073709551616) : IsWhole (sign ++ digits)
  | negative {digits : List Char} (all : IsDigits digits)
      (fits : Nat.ofDigitChars 10 digits 0 ≤ 9223372036854775808) : IsWhole ('-' :: digits)

theorem isWhole_of_integer? {text : List Char} (read : (integer? text).isSome) :
    IsWhole text := by
  obtain ⟨sign, signed, split, negative⟩ := exists_sign text
  rw [integer?] at read
  dsimp only at read
  rw [negative] at read
  generalize (takeSign text).2 = unsigned at split read
  rw [split]
  split at read
  · cases read
  · next nonempty taken =>
    obtain ⟨all, rfl⟩ := (takeDigits_all_iff nonempty).mp taken
    rw [digitsValue_map] at read
    rcases signed with rfl | rfl | rfl
    · rw [if_neg (by decide)] at read
      split at read
      · next fits => exact .unsigned (.inl rfl) all fits
      · cases read
    · rw [if_neg (by decide)] at read
      split at read
      · next fits => exact .unsigned (.inr rfl) all fits
      · cases read
    · rw [if_pos (by decide)] at read
      split at read
      · next fits => exact .negative all fits
      · cases read
  · cases read

theorem IsWhole.integer? {text : List Char} (whole : IsWhole text) :
    (Variable.integer? text).isSome := by
  cases whole with
  | @unsigned sign digits signed all fits =>
    have sign_or : IsSign sign := signed.imp_right .inl
    have positive : ¬ decide (sign = ['-']) = true := by
      rcases signed with rfl | rfl
      · decide
      · decide
    obtain ⟨first, others, taken, same⟩ := all.taken
    rw [Variable.integer?, all.behind_sign sign_or]
    dsimp only
    rw [taken]
    dsimp only
    rw [← same, digitsValue_map, if_neg positive, if_pos fits]
    rfl
  | @negative digits all fits =>
    obtain ⟨first, others, taken, same⟩ := all.taken
    rw [Variable.integer?, takeSign]
    dsimp only
    rw [taken]
    dsimp only
    rw [← same, digitsValue_map, if_pos rfl, if_pos fits]
    rfl

theorem IsWhole.numeric {text : List Char} (whole : IsWhole text) :
    ∀ c ∈ text, isNumeric c ∧ c ≠ '.' := by
  have digit : ∀ c : Char, c.isDigit → isNumeric c ∧ c ≠ '.' := by
    intro c digit
    refine ⟨by rw [isNumeric, digit, Bool.true_or], ?_⟩
    rintro rfl
    exact absurd digit (by decide)
  cases whole with
  | unsigned signed all fits =>
    refine List.forall_mem_append.mpr ⟨?_, fun c member => digit c (all.2 c member)⟩
    rcases signed with rfl | rfl
    · exact nofun
    · exact List.forall_mem_singleton.mpr (by decide)
  | negative all fits =>
    exact List.forall_mem_cons.mpr ⟨by decide, fun c member => digit c (all.2 c member)⟩

theorem numeric_of_isFraction {text : List Char} (fraction : IsFraction text) :
    ∀ c ∈ text, isNumeric c := by
  have digit : ∀ c : Char, c.isDigit → isNumeric c := by
    intro c digit
    rw [isNumeric, digit, Bool.true_or]
  have sign : ∀ text, IsSign text → ∀ c ∈ text, isNumeric c := by
    intro text signed c member
    rcases signed.mem c member with rfl | rfl
    · decide
    · decide
  obtain ⟨signed, before, behind, digits, scaled⟩ := fraction
  refine List.forall_mem_append.mpr ⟨sign _ signed, List.forall_mem_append.mpr
    ⟨fun c member => digit c (before c member), List.forall_mem_cons.mpr ⟨by decide,
      List.forall_mem_append.mpr ⟨fun c member => digit c (behind c member), ?_⟩⟩⟩⟩
  cases scaled with
  | unwritten => exact nofun
  | written marked signed all =>
    refine List.forall_mem_cons.mpr ⟨?_, List.forall_mem_append.mpr
      ⟨sign _ signed, fun c member => digit c (all.2 c member)⟩⟩
    rcases marked with rfl | rfl
    · decide
    · decide

theorem word_of_not_number {text : List Char} (whole : ¬ IsWhole text)
    (fraction : ¬ IsFraction text) : word text = .str (String.ofList text) := by
  have no_literal : (if text.contains '.' then Literal.ofText? text else none) = none := by
    apply Option.not_isSome_iff_eq_none.mp
    intro read
    split at read
    · next point => exact fraction (isFraction_of_ofText? (List.contains_iff_mem.mp point) read)
    · cases read
  have no_integer : integer? text = none :=
    Option.not_isSome_iff_eq_none.mp fun read => whole (isWhole_of_integer? read)
  rw [word, no_literal, no_integer]

theorem word_of_isFraction {text : List Char} (fraction : IsFraction text) :
    ∃ value, word text = .float value := by
  obtain ⟨literal, read⟩ := Option.isSome_iff_exists.mp fraction.ofText?
  have point : text.contains '.' = true := by
    obtain ⟨signed, before, behind, digits, scaled⟩ := fraction
    exact List.contains_iff_mem.mpr (by simp)
  rw [word, if_pos point, read]
  exact ⟨_, rfl⟩

theorem word_of_isWhole {text : List Char} (whole : IsWhole text) :
    ∃ value, word text = .int value := by
  obtain ⟨value, read⟩ := Option.isSome_iff_exists.mp whole.integer?
  have no_point : ¬ text.contains '.' = true :=
    fun point => (whole.numeric _ (List.contains_iff_mem.mp point)).2 rfl
  rw [word, if_neg no_point, read]
  exact ⟨_, rfl⟩

/-- A text with no white space at its ends. -/
def Trimmed (text : String) : Prop :=
  ∀ c, c ∈ text.toList.head? ∨ c ∈ text.toList.getLast? → Text.isBlank c = false

/-- The characters that start a table, a list, or a text in quotes. -/
def marks : List Char := ['{', '[', '"', '\'']

/-- A text that starts with no quote and no bracket. -/
def Unmarked (text : String) : Prop := ∀ c ∈ text.toList.head?, c ∉ marks

/-- A text that is read as a truth value or as a number. -/
inductive IsScalar : String → Prop
  | yes : IsScalar "true"
  | no : IsScalar "false"
  | whole {text : List Char} (whole : IsWhole text) : IsScalar (String.ofList text)
  | fraction {text : List Char} (fraction : IsFraction text) : IsScalar (String.ofList text)

theorem isBlank_of_isSpace {c : Char} (space : isSpace c = true) : Text.isBlank c = true := by
  simp only [isSpace, Bool.or_eq_true, decide_eq_true_eq] at space
  rcases space with (((rfl | rfl) | rfl) | rfl) | rfl
  all_goals rfl

theorem skipSpace_cons {c : Char} (visible : isSpace c = false) (rest : List Char) :
    skipSpace (c :: rest) = c :: rest :=
  List.dropWhile_cons_of_neg (Bool.not_eq_true _ ▸ visible)

theorem skipSpace_ne_nil {text : List Char} (nonempty : text ≠ [])
    (last : ∀ c ∈ text.getLast?, Text.isBlank c = false) : skipSpace text ≠ [] := by
  intro skipped
  have space := List.dropWhile_eq_nil_iff.mp skipped _ (List.getLast_mem nonempty)
  have visible := last _ (List.getLast?_eq_some_getLast nonempty)
  rw [isBlank_of_isSpace space] at visible
  cases visible

theorem takeValue_word {text : List Char}
    (start : ∀ c ∈ text.head?, isSpace c = false ∧ c ∉ marks)
    (not_true : ¬ "true".toList <+: text) (not_false : ¬ "false".toList <+: text) (fuel : Nat) :
    takeValue (fuel + 1) text = some (word (Text.trimChars (text.takeWhile isWordChar)),
      skipSpace (text.dropWhile isWordChar)) := by
  have whole : skipSpace text = text := by
    cases text with
    | nil => rfl
    | cons c rest => exact skipSpace_cons (start c rfl).1 rest
  rw [takeValue.eq_def]
  dsimp only
  rw [whole]
  split
  · exact absurd ⟨_, rfl⟩ not_true
  · exact absurd ⟨_, rfl⟩ not_false
  · exact absurd (by decide) (start _ rfl).2
  · exact absurd (by decide) (start _ rfl).2
  · exact absurd (by decide) (start _ rfl).2
  · exact absurd (by decide) (start _ rfl).2
  · exact absurd (by decide) (start _ rfl).2
  · rfl

theorem value_of_taken {text : String} {read : Json} {after : List Char}
    (taken : ∀ fuel, takeValue (fuel + 1) text.toList = some (read, after)) :
    value text = if after = [] then read else .str text := by
  rw [value, taken]
  cases after with
  | nil => rfl
  | cons c after => rfl

/-- A text behind which more stands than white space is read as what it begins with only if nothing
stands behind that. -/
theorem value_word_before {text : String} {word more : List Char} (trimmed : Trimmed text)
    (split : text.toList = word ++ more) (nonempty : more ≠ []) {read : Json}
    (taken : ∀ fuel, takeValue (fuel + 1) text.toList = some (read, skipSpace more)) :
    value text = .str text := by
  rw [value_of_taken taken, if_neg]
  apply skipSpace_ne_nil nonempty
  intro c last
  apply trimmed c (.inr _)
  rw [split, List.getLast?_append_of_ne_nil _ nonempty]
  exact last

/-- A text stays as it is if it starts with no mark and is neither a truth value nor a number. -/
theorem value_verbatim {text : String} (trimmed : Trimmed text) (unmarked : Unmarked text)
    (no_scalar : ¬ IsScalar text) : value text = .str text := by
  have same : String.ofList text.toList = text := String.ofList_toList
  by_cases yes : "true".toList <+: text.toList
  · obtain ⟨more, split⟩ := yes
    refine value_word_before trimmed split.symm ?_ fun fuel => by rw [← split]; rfl
    rintro rfl
    rw [← same, ← split] at no_scalar
    exact no_scalar .yes
  by_cases no : "false".toList <+: text.toList
  · obtain ⟨more, split⟩ := no
    refine value_word_before trimmed split.symm ?_ fun fuel => by rw [← split]; rfl
    rintro rfl
    rw [← same, ← split] at no_scalar
    exact no_scalar .no
  have start : ∀ c ∈ text.toList.head?, isSpace c = false ∧ c ∉ marks := by
    intro c first
    refine ⟨?_, unmarked c first⟩
    rw [← Bool.not_eq_true]
    intro space
    cases (isBlank_of_isSpace space).symm.trans (trimmed c (.inl first))
  have taken := takeValue_word start yes no
  have halves := text.toList.takeWhile_append_dropWhile (p := isWordChar)
  by_cases all : text.toList.dropWhile isWordChar = []
  · have trim : Text.trimChars text.toList = text.toList := by
      have cut := @Text.trimChars_append [] text.toList [] nofun nofun
        (fun c first => trimmed c (.inl first)) fun c last => trimmed c (.inr last)
      rwa [List.nil_append, List.append_nil] at cut
    rw [all, List.append_nil] at halves
    rw [value_of_taken taken, all, halves, trim, if_pos (show skipSpace [] = [] from rfl),
      word_of_not_number, same]
    · exact fun whole => no_scalar (same ▸ .whole whole)
    · exact fun fraction => no_scalar (same ▸ .fraction fraction)
  · exact value_word_before trimmed halves.symm all taken

theorem numeric_ne {c other : Char} (numeric : isNumeric c = true)
    (not_numeric : isNumeric other = false) : c ≠ other := by
  rintro rfl
  cases numeric.symm.trans not_numeric

theorem numeric_visible {c : Char} (numeric : isNumeric c = true) : Text.isBlank c = false := by
  rw [isNumeric, Bool.or_eq_true, List.contains_iff_mem] at numeric
  rcases numeric with digit | listed
  · exact Duration.isBlank_of_isDigit digit
  · simp only [List.mem_cons, List.not_mem_nil, or_false] at listed
    rcases listed with rfl | rfl | rfl | rfl | rfl <;> rfl

theorem value_of_numeric {text : List Char} (nonempty : text ≠ []) (all : ∀ c ∈ text, isNumeric c) :
    value (String.ofList text) = word text := by
  have first : ∀ c ∈ text.head?, isNumeric c = true :=
    fun c first => all c (List.mem_of_mem_head? first)
  have start : ∀ c ∈ text.head?, isSpace c = false ∧ c ∉ marks := by
    intro c head
    constructor
    · rw [← Bool.not_eq_true]
      intro space
      cases (isBlank_of_isSpace space).symm.trans (numeric_visible (first c head))
    · intro mark
      have none_numeric : marks.any isNumeric = false := by decide
      exact List.any_eq_false.mp none_numeric c mark (first c head)
  have begins : ∀ {letter : Char} {word : List Char}, isNumeric letter = false →
      ¬ (letter :: word) <+: text := by
    rintro letter word other ⟨more, rfl⟩
    exact numeric_ne (first letter rfl) other rfl
  have words : ∀ c ∈ text, isWordChar c = true := by
    intro c member
    have none_numeric : [',', '{', '}', '[', ']'].any isNumeric = false := by decide
    have other : ∀ stop ∈ [',', '{', '}', '[', ']'], c ≠ stop := by
      rintro stop listed rfl
      exact List.any_eq_false.mp none_numeric c listed (all c member)
    simpa [isWordChar, and_assoc] using other
  have visible : text.any Text.isBlank = false := by
    rw [List.any_eq_false]
    intro c member
    rw [numeric_visible (all c member)]
    exact Bool.false_ne_true
  have taken : ∀ fuel, takeValue (fuel + 1) (String.ofList text).toList = some (word text, []) := by
    intro fuel
    have none_left : text.dropWhile isWordChar = [] := List.dropWhile_eq_nil_iff.mpr words
    rw [String.toList_ofList, takeValue_word start (begins (by decide)) (begins (by decide)),
      List.takeWhile_eq_self_iff.mpr words, none_left, Text.trimChars_of_noBlank visible]
    rfl
  rw [value_of_taken taken, if_pos rfl]

theorem value_of_isScalar {text : String} (scalar : IsScalar text) :
    ∀ other, Shape.text (value text) ≠ .ok other := by
  cases scalar with
  | yes => exact fun _ => nofun
  | no => exact fun _ => nofun
  | @whole text whole =>
    have nonempty : text ≠ [] := by
      cases whole with
      | unsigned signed all fits => exact List.append_ne_nil_of_right_ne_nil _ all.1
      | negative all fits => exact List.cons_ne_nil _ _
    obtain ⟨number, read⟩ := word_of_isWhole whole
    rw [value_of_numeric nonempty fun c member => (whole.numeric c member).1, read]
    exact fun _ => nofun
  | @fraction text fraction =>
    have nonempty : text ≠ [] := by
      obtain ⟨signed, before, behind, digits, scaled⟩ := fraction
      exact List.append_ne_nil_of_right_ne_nil _
        (List.append_ne_nil_of_right_ne_nil _ (List.cons_ne_nil _ _))
    obtain ⟨number, read⟩ := word_of_isFraction fraction
    rw [value_of_numeric nonempty (numeric_of_isFraction fraction), read]
    exact fun _ => nofun

theorem takeValue_bracket {fuel : Nat} {bracket : Char} {rest after : List Char} {read : Json}
    (opens : bracket = '[' ∨ bracket = '{')
    (taken : takeValue (fuel + 1) (bracket :: rest) = some (read, after)) :
    (∃ items, read = .array items) ∨ ∃ members, read = .object members := by
  have visible : skipSpace (bracket :: rest) = bracket :: rest := by
    apply skipSpace_cons
    rcases opens with rfl | rfl
    · decide
    · decide
  rw [takeValue.eq_def] at taken
  dsimp only at taken
  rw [visible] at taken
  rcases opens with rfl | rfl
  all_goals
    obtain ⟨⟨found, _⟩, once, taken⟩ := Option.bind_eq_some_iff.mp taken
    cases taken
    obtain ⟨_, _, same⟩ := Option.map_eq_some_iff.mp once
    cases same
  · exact .inl ⟨_, rfl⟩
  · exact .inr ⟨_, rfl⟩

theorem takeEscape_length {text after : List Char} {c : Char}
    (taken : Toml.takeEscape text = some (c, after)) : after.length < text.length := by
  have dropped : ∀ (rest : List Char) (count : Nat), (rest.drop count).length < rest.length + 1 :=
    fun rest count => by rw [List.length_drop]; omega
  rw [Toml.takeEscape.eq_def] at taken
  split at taken
  · split at taken
    · cases taken
    · obtain ⟨_, _, same⟩ := Option.map_eq_some_iff.mp taken
      cases same
      exact dropped _ 4
  · split at taken
    · cases taken
    · obtain ⟨_, _, same⟩ := Option.map_eq_some_iff.mp taken
      cases same
      exact dropped _ 8
  · obtain ⟨_, _, same⟩ := Option.map_eq_some_iff.mp taken
    cases same
    exact Nat.lt_succ_self _
  · cases taken

theorem takeBasic_length {fuel : Nat} {text chars after : List Char}
    (taken : Toml.takeBasic fuel text = some (chars, after)) :
    chars.length + after.length < text.length := by
  induction fuel generalizing text chars after with
  | zero => cases taken
  | succ fuel ih =>
    rw [Toml.takeBasic.eq_def] at taken
    dsimp only at taken
    split at taken
    · cases taken
    · cases taken
      exact Nat.lt_succ_iff.mpr (Nat.le_of_eq (Nat.zero_add _))
    · obtain ⟨⟨c, rest⟩, escape, taken⟩ := Option.bind_eq_some_iff.mp taken
      obtain ⟨⟨others, behind⟩, later, taken⟩ := Option.bind_eq_some_iff.mp taken
      cases taken
      have first := takeEscape_length escape
      have rest := ih later
      dsimp only at rest
      simp only [List.length_cons]
      omega
    · split at taken
      · obtain ⟨⟨others, behind⟩, later, same⟩ := Option.map_eq_some_iff.mp taken
        cases same
        have rest := ih later
        simp only [List.length_cons]
        omega
      · cases taken

theorem takeValue_quote {fuel : Nat} {quote : Char} {rest after : List Char} {read : Json}
    (opens : quote = '"' ∨ quote = '\'')
    (taken : takeValue (fuel + 1) (quote :: rest) = some (read, after)) :
    ∃ chars, Shape.text read = .ok (String.ofList chars) ∧ chars.length < rest.length := by
  have visible : skipSpace (quote :: rest) = quote :: rest := by
    apply skipSpace_cons
    rcases opens with rfl | rfl
    · decide
    · decide
  rw [takeValue.eq_def] at taken
  dsimp only at taken
  rw [visible] at taken
  rcases opens with rfl | rfl
  · obtain ⟨⟨found, _⟩, once, taken⟩ := Option.bind_eq_some_iff.mp taken
    cases taken
    obtain ⟨⟨chars, behind⟩, inside, same⟩ := Option.map_eq_some_iff.mp once
    cases same
    have shorter := takeBasic_length inside
    exact ⟨chars, rfl, by omega⟩
  · split at taken
    case h_6 c more same =>
      cases same
      cases taken
      exact ⟨[c], rfl, Nat.lt_of_sub_eq_succ rfl⟩
    case h_7 => cases taken
    case h_8 other => exact (other rest rfl).elim
    all_goals
      rename_i same
      cases same

theorem value_cases (text : String) :
    value text = .str text ∨ ∃ fuel, takeValue (fuel + 1) text.toList = some (value text, []) := by
  cases taken : takeValue (2 * text.toList.length + 2) text.toList with
  | none => exact .inl (by rw [value, taken])
  | some pair =>
    obtain ⟨read, after⟩ := pair
    cases after with
    | nil =>
      have same : value text = read := by rw [value, taken]
      exact .inr ⟨_, same ▸ taken⟩
    | cons c after => exact .inl (by rw [value, taken])

/-- A text that starts with a bracket is a list or a table, or stays as it is. -/
theorem value_bracketed {text : String} {bracket : Char} (first : bracket ∈ text.toList.head?)
    (opens : bracket = '[' ∨ bracket = '{') :
    value text = .str text ∨ (∃ items, value text = .array items) ∨
      ∃ members, value text = .object members := by
  refine (value_cases text).imp_right ?_
  rintro ⟨fuel, taken⟩
  obtain ⟨rest, split⟩ := List.head?_eq_some_iff.mp first
  rw [split] at taken
  exact takeValue_bracket opens taken

theorem value_quoted {text : String} {quote : Char} (first : quote ∈ text.toList.head?)
    (opens : quote = '"' ∨ quote = '\'') :
    value text = .str text ∨
      ∃ inner, Shape.text (value text) = .ok inner ∧ inner.length < text.length := by
  refine (value_cases text).imp_right ?_
  rintro ⟨fuel, taken⟩
  obtain ⟨rest, split⟩ := List.head?_eq_some_iff.mp first
  rw [split] at taken
  obtain ⟨chars, read, shorter⟩ := takeValue_quote opens taken
  refine ⟨_, read, ?_⟩
  rw [String.length_ofList, ← String.length_toList, split, List.length_cons]
  omega

theorem takeBasic_plain {body : List Char}
    (plain : ∀ c ∈ body, c ≠ '"' ∧ c ≠ '\\' ∧ Toml.isPlain c = true) (fuel : Nat)
    (enough : body.length ≤ fuel) :
    Toml.takeBasic (fuel + 1) (body ++ ['"']) = some (body, []) := by
  induction body generalizing fuel with
  | nil => rfl
  | cons c body ih =>
    obtain ⟨⟨no_quote, no_escape, shown⟩, others⟩ := List.forall_mem_cons.mp plain
    cases fuel with
    | zero => cases enough
    | succ fuel =>
      rw [List.cons_append, Toml.takeBasic, if_pos shown,
        ih others fuel (Nat.le_of_succ_le_succ enough)]
      · rfl
      · exact no_quote
      · exact no_escape

theorem value_in_quotes {body : List Char}
    (plain : ∀ c ∈ body, c ≠ '"' ∧ c ≠ '\\' ∧ Toml.isPlain c = true) :
    value (String.ofList ('"' :: (body ++ ['"']))) = .str (String.ofList body) := by
  have taken : ∀ fuel, takeValue (fuel + 1) (String.ofList ('"' :: (body ++ ['"']))).toList =
      some (.str (String.ofList body), []) := by
    intro fuel
    rw [String.toList_ofList, takeValue.eq_def]
    dsimp only
    rw [skipSpace_cons (by decide)]
    have inside := takeBasic_plain plain (body ++ ['"']).length (by simp)
    change ((Toml.takeBasic _ _).map _ >>= _) = _
    rw [inside]
    rfl
  rw [value_of_taken taken, if_pos rfl]

end Switchboard.Variable
