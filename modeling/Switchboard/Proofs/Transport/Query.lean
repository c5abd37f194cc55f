import Mathlib.Data.List.Basic
import Switchboard.Text.Parts
import Switchboard.Transport.Url

set_option autoImplicit false

namespace Switchboard.Url

/-- The characters that stand for themselves in every address. -/
def Unreserved (c : Char) : Prop :=
  c.isAlphanum = true ∨ c ∈ ['-', '_', '.', '~']

instance : DecidablePred Unreserved := fun c =>
  inferInstanceAs (Decidable (c.isAlphanum = true ∨ c ∈ ['-', '_', '.', '~']))

/-- The upper-case hexadecimal digits, each at its value. -/
def hexDigits : List Char :=
  ['0', '1', '2', '3', '4', '5', '6', '7', '8', '9', 'A', 'B', 'C', 'D', 'E', 'F']

/-- Texts of unreserved characters, bytes in hexadecimal, and the given separators. -/
inductive Encoded (separators : List Char) : List Char → Prop
  | nil : Encoded separators []
  | unreserved {c : Char} {rest : List Char} (free : Unreserved c)
      (more : Encoded separators rest) : Encoded separators (c :: rest)
  | byte {high low : Char} {rest : List Char} (high_digit : high ∈ hexDigits)
      (low_digit : low ∈ hexDigits) (more : Encoded separators rest) :
      Encoded separators ('%' :: high :: low :: rest)
  | separator {c : Char} {rest : List Char} (listed : c ∈ separators)
      (more : Encoded separators rest) : Encoded separators (c :: rest)

variable {separators : List Char}

theorem Encoded.append {front back : List Char} (first : Encoded separators front)
    (second : Encoded separators back) : Encoded separators (front ++ back) := by
  induction first with
  | nil => exact second
  | unreserved free _ ih => exact .unreserved free ih
  | byte high low _ ih => exact .byte high low ih
  | separator listed _ ih => exact .separator listed ih

theorem Encoded.not_mem {text : List Char} (encoded : Encoded [] text) {c : Char}
    (reserved : ¬ Unreserved c) (other : c ≠ '%') : c ∉ text := by
  have digit_free : ∀ digit ∈ hexDigits, Unreserved digit := by
    simpa only [List.all_eq_true, decide_eq_true_eq] using
      (by decide : hexDigits.all (fun digit => decide (Unreserved digit)) = true)
  have differs : ∀ {c' : Char}, Unreserved c' → c ≠ c' := fun free same => reserved (same ▸ free)
  induction encoded with
  | nil => exact List.not_mem_nil
  | unreserved free _ ih =>
    exact List.not_mem_cons_of_ne_of_not_mem (differs free) ih
  | byte high low _ ih =>
    apply List.not_mem_cons_of_ne_of_not_mem other
    apply List.not_mem_cons_of_ne_of_not_mem (differs (digit_free _ high))
    exact List.not_mem_cons_of_ne_of_not_mem (differs (digit_free _ low)) ih
  | separator listed _ _ => cases listed

def hexValue? (digit : Char) : Option Nat := hexDigits.idxOf? digit.toUpper

/-- The bytes that a text stands for: two digits behind a percent sign are a byte, and every other
character is its own UTF-8 form. -/
def unescape : List Char → Option (List UInt8)
  | [] => some []
  | '%' :: high :: low :: rest =>
    match hexValue? high, hexValue? low, unescape rest with
    | some high, some low, some bytes => some (.ofNat (16 * high + low) :: bytes)
    | _, _, _ => none
  | '%' :: _ => none
  | c :: rest => (unescape rest).map (String.utf8EncodeChar c ++ ·)

def readText (text : List Char) : Option String :=
  (unescape text).bind fun bytes => String.fromUTF8? bytes.toByteArray

def readParameter (text : List Char) : Option (String × String) :=
  match Text.partsBetween '=' text with
  | [key, value] => (readText key).bind fun key => (readText value).map fun value => (key, value)
  | _ => none

def readQuery (text : List Char) : Option (List (String × String)) :=
  (Text.partsBetween '&' text).mapM readParameter

theorem unreserved_byte {byte : UInt8} (free : isUnreserved byte = true) :
    Unreserved (Char.ofNat byte.toNat) ∧
      String.utf8EncodeChar (Char.ofNat byte.toNat) = [byte] := by
  have all : ∀ n < 256, isUnreserved (.ofNat n) = true →
      Unreserved (Char.ofNat n) ∧ String.utf8EncodeChar (Char.ofNat n) = [.ofNat n] := by
    decide +kernel
  have this := all byte.toNat byte.toNat_lt
  rw [UInt8.ofNat_toNat] at this
  exact this free

theorem hexDigit_mem (n : Nat) : hexDigit n ∈ hexDigits := by
  have all : ∀ n < 16, (Nat.digitChar n).toUpper ∈ hexDigits := by decide
  exact all (n % 16) (Nat.mod_lt n (by decide))

theorem hexValue?_hexDigit (n : Nat) : hexValue? (hexDigit n) = some (n % 16) := by
  have all : ∀ n < 16, hexValue? (Nat.digitChar n).toUpper = some n := by decide
  exact all (n % 16) (Nat.mod_lt n (by decide))

theorem unescape_of_ne {c : Char} (other : c ≠ '%') (rest : List Char) :
    unescape (c :: rest) = (unescape rest).map (String.utf8EncodeChar c ++ ·) := by
  rw [unescape]
  · exact fun _ _ _ same => absurd same other
  · exact fun same => absurd same other

theorem unescape_escapeByte (byte : UInt8) (rest : List Char) :
    unescape (escapeByte byte ++ rest) = (unescape rest).map (byte :: ·) := by
  unfold escapeByte
  split
  · next free =>
    obtain ⟨unreserved, encoded⟩ := unreserved_byte free
    have other : Char.ofNat byte.toNat ≠ '%' := by
      intro same
      rw [same] at unreserved
      exact absurd unreserved (by decide)
    rw [List.singleton_append, unescape_of_ne other, encoded]
    rfl
  · have whole : 16 * (byte.toNat / 16 % 16) + byte.toNat % 16 = byte.toNat := by
      have := byte.toNat_lt
      omega
    rw [List.cons_append, List.cons_append, List.singleton_append, unescape, hexValue?_hexDigit,
      hexValue?_hexDigit]
    cases unescape rest with
    | none => rfl
    | some bytes =>
      dsimp only
      rw [whole, UInt8.ofNat_toNat]
      rfl

theorem escapeByte_encoded (byte : UInt8) : Encoded separators (escapeByte byte) := by
  unfold escapeByte
  split
  · next free => exact .unreserved (unreserved_byte free).1 .nil
  · exact .byte (hexDigit_mem _) (hexDigit_mem _) .nil

theorem escape_encoded (text : String) : Encoded separators (escape text) := by
  unfold escape
  induction text.toUTF8.data.toList with
  | nil => exact .nil
  | cons byte bytes ih =>
    rw [List.flatMap_cons]
    exact (escapeByte_encoded byte).append ih

theorem not_mem_escape {c : Char} (reserved : ¬ Unreserved c) (other : c ≠ '%') (text : String) :
    c ∉ escape text :=
  (escape_encoded text).not_mem reserved other

theorem unescape_escape (text : String) :
    unescape (escape text) = some text.toUTF8.data.toList := by
  unfold escape
  induction text.toUTF8.data.toList with
  | nil => rfl
  | cons byte bytes ih =>
    rw [List.flatMap_cons, unescape_escapeByte, ih]
    rfl

theorem readText_escape (text : String) : readText (escape text) = some text := by
  have bytes : text.toUTF8.data.toList.toByteArray = text.toUTF8 :=
    ByteArray.ext (by rw [List.data_toByteArray, Array.toArray_toList])
  rw [readText, unescape_escape, Option.bind_some, bytes]
  simp only [String.fromUTF8?, String.toUTF8_eq_toByteArray, dif_pos text.isValidUTF8]
  rfl

def parameterText (parameter : String × String) : List Char :=
  escape parameter.1 ++ '=' :: escape parameter.2

theorem readParameter_parameterText (parameter : String × String) :
    readParameter (parameterText parameter) = some parameter := by
  have free := not_mem_escape (c := '=') (by decide) (by decide)
  rw [readParameter, parameterText, Text.partsBetween_append (free _),
    Text.partsBetween_of_not_mem (free _)]
  dsimp only
  rw [readText_escape, readText_escape]
  rfl

theorem parameterText_encoded (parameter : String × String) :
    Encoded ['=', '&'] (parameterText parameter) :=
  (escape_encoded parameter.1).append
    (.separator List.mem_cons_self (escape_encoded parameter.2))

theorem not_mem_parameterText (parameter : String × String) : '&' ∉ parameterText parameter := by
  have free := not_mem_escape (c := '&') (by decide) (by decide)
  apply List.not_mem_append (free _)
  exact List.not_mem_cons_of_ne_of_not_mem (by decide) (free _)

variable {query : List (String × String)}

theorem queryText_encoded (query : List (String × String)) :
    Encoded ['=', '&'] (queryText query) := by
  fun_induction queryText query with
  | case1 => exact .nil
  | case2 key value => exact parameterText_encoded (key, value)
  | case3 key value next rest ih =>
    exact (parameterText_encoded (key, value)).append
      (.separator (List.mem_cons_of_mem _ List.mem_cons_self) ih)

theorem partsBetween_queryText (some_parameter : query ≠ []) :
    Text.partsBetween '&' (queryText query) = query.map parameterText := by
  fun_induction queryText query with
  | case1 => exact absurd rfl some_parameter
  | case2 key value => exact Text.partsBetween_of_not_mem (not_mem_parameterText (key, value))
  | case3 key value next rest ih =>
    rw [List.map_cons, ← ih (List.cons_ne_nil next rest)]
    exact Text.partsBetween_append (not_mem_parameterText (key, value)) _

theorem readQuery_queryText (some_parameter : query ≠ []) :
    readQuery (queryText query) = some query := by
  rw [readQuery, partsBetween_queryText some_parameter]
  clear some_parameter
  induction query with
  | nil => rfl
  | cons parameter query ih =>
    rw [List.map_cons, List.mapM_cons, readParameter_parameterText, ih]
    rfl

/-- A base without the slashes at its end, one slash, and a path without its leading slashes. -/
def Joined (base path joined : List Char) : Prop :=
  ∃ trunk branch, joined = trunk ++ '/' :: branch ∧
    (∃ slashes, base = trunk ++ slashes ∧ ∀ c ∈ slashes, c = '/') ∧ trunk.getLast? ≠ some '/' ∧
    (∃ slashes, path = slashes ++ branch ∧ ∀ c ∈ slashes, c = '/') ∧ branch.head? ≠ some '/'

theorem leading_slashes (text : List Char) :
    (∃ slashes, text = slashes ++ text.dropWhile (· = '/') ∧ ∀ c ∈ slashes, c = '/') ∧
      (text.dropWhile (· = '/')).head? ≠ some '/' := by
  constructor
  · refine ⟨text.takeWhile (· = '/'), List.takeWhile_append_dropWhile.symm, fun c member => ?_⟩
    exact of_decide_eq_true (List.all_eq_true.mp List.all_takeWhile c member)
  · intro head
    have kept := List.head?_dropWhile_not (· = '/') text
    rw [head] at kept
    exact absurd kept (by decide)

theorem joined (base path : String) :
    Joined base.toList path.toList
      (withoutTrailingSlashes base.toList ++ '/' :: path.toList.dropWhile (· = '/')) := by
  obtain ⟨⟨slashes, split, all⟩, head⟩ := leading_slashes base.toList.reverse
  obtain ⟨leading, no_slash⟩ := leading_slashes path.toList
  refine ⟨_, _, rfl, ⟨slashes.reverse, ?_, ?_⟩, ?_, leading, no_slash⟩
  · rw [withoutTrailingSlashes, ← List.reverse_append, ← split, List.reverse_reverse]
  · exact fun c member => all c (List.mem_reverse.mp member)
  · rwa [withoutTrailingSlashes, List.getLast?_reverse]

/-- The question mark and the query, if there are any parameters. -/
def suffix (query : List (String × String)) : List Char :=
  if query.isEmpty then [] else '?' :: queryText query

theorem build_toList (base path : String) (query : List (String × String)) :
    (build base path query).toList =
      withoutTrailingSlashes base.toList ++ '/' :: path.toList.dropWhile (· = '/') ++
        suffix query := by
  rw [build, String.toList_ofList, List.append_assoc]
  rfl

theorem suffix_of_ne_nil (some_parameter : query ≠ []) : suffix query = '?' :: queryText query := by
  rw [suffix, if_neg (by simpa using some_parameter)]

theorem suffix_eq_nil_iff : suffix query = [] ↔ query = [] := by
  constructor
  · intro empty
    by_contra some_parameter
    rw [suffix_of_ne_nil some_parameter] at empty
    exact List.cons_ne_nil _ _ empty
  · rintro rfl
    rfl

theorem suffix_injective {other : List (String × String)} (same : suffix other = suffix query) :
    other = query := by
  by_cases empty : query = []
  · rw [suffix_eq_nil_iff.mpr empty] at same
    rw [suffix_eq_nil_iff.mp same, empty]
  · have filled : other ≠ [] := fun none => empty (suffix_eq_nil_iff.mp (by rw [← same, none]; rfl))
    rw [suffix_of_ne_nil empty, suffix_of_ne_nil filled, List.cons.injEq] at same
    have read := readQuery_queryText filled
    rw [same.2, readQuery_queryText empty] at read
    exact (Option.some.inj read).symm

/-- The query of an address is read back, one part for each parameter, and no other query has the
same address. -/
theorem query_read_back (base path : String) (query : List (String × String)) :
    ∃ stem suffix, Joined base.toList path.toList stem ∧
      (build base path query).toList = stem ++ suffix ∧
      (suffix = [] ↔ query = []) ∧
      (query ≠ [] → ∃ text, suffix = '?' :: text ∧ Encoded ['=', '&'] text ∧
        Text.partsBetween '&' text = query.map parameterText ∧ readQuery text = some query) ∧
      ∀ other, build base path other = build base path query → other = query := by
  refine ⟨_, suffix query, joined base path, build_toList base path query, suffix_eq_nil_iff,
    fun filled => ⟨queryText query, suffix_of_ne_nil filled, queryText_encoded query,
      partsBetween_queryText filled, readQuery_queryText filled⟩, fun other same => ?_⟩
  have texts := congrArg String.toList same
  rw [build_toList, build_toList] at texts
  exact suffix_injective (List.append_cancel_left texts)

example :
    build "http://h:1/" "/all" [("sessionKey", "a=b&c"), ("", "ä%")] =
      "http://h:1/all?sessionKey=a%3Db%26c&=%C3%A4%25" := by decide +kernel

end Switchboard.Url
