import Switchboard.Proofs.Duration.Reading

set_option autoImplicit false

namespace Switchboard.Duration

theorem parse_count (policy : Overflow) {count : Nat} (fits : count < bound) (unit : Unit)
    (letters : List Char) (named : letters ∈ unit.spellings) {text : String}
    (chars : text.toList = Nat.toDigits 10 count ++ letters) :
    parse policy text = ofUnits policy count unit := by
  have digits : IsNumber (Nat.toDigits 10 count) count := by
    have number := IsNumber.unsigned (@Nat.toDigits_ne_nil count 10) fun c member =>
      Nat.isDigit_of_mem_toDigits (by omega) (by omega) member
    rwa [Nat.ofDigitChars_ten_toDigits] at number
  refine Spells.parsed policy ?_ fits
  refine @Spells.intro _ _ _ [] (Nat.toDigits 10 count) [] letters [] ?_ digits named nofun nofun
    nofun
  rw [chars, List.nil_append, List.append_nil, List.append_nil]

variable {d : Duration}

/-- The number in the text of the duration is of 64 bits. -/
def Writable (d : Duration) : Prop :=
  if d.subMillis = 0 then d.seconds < bound else d.millis < bound

instance (d : Duration) : Decidable d.Writable :=
  inferInstanceAs (Decidable (if d.subMillis = 0 then d.seconds < bound else d.millis < bound))

/-- The duration without what lies below its milliseconds. -/
def rounded (d : Duration) : Duration := ofMillis d.millis

theorem rounded_eq_self (whole : d.nanos % 1000000 = 0) : d.rounded = d := by
  unfold rounded ofMillis millis
  congr 1
  omega

theorem ofSeconds_seconds (even : d.subMillis = 0) : ofSeconds d.seconds = d.rounded := by
  have counted : d.nanos / 1000000000 * 1000000000 = d.nanos / 1000000 * 1000000 := by
    unfold subMillis subNanos at even
    omega
  exact congrArg Duration.mk counted

/-- The text of the duration says all of it, and can be read. -/
structure Exact (d : Duration) : Prop where
  whole : d.nanos % 1000000 = 0
  writable : d.Writable

theorem parse_render (policy : Overflow) (writable : d.Writable) :
    parse policy d.render = .ok d.rounded := by
  unfold Writable at writable
  unfold render
  split
  · next even =>
    rw [if_pos even] at writable
    rw [← ofSeconds_seconds even]
    apply parse_count policy writable .seconds ['s'] List.mem_cons_self
    rw [String.toList_append, Nat.toString_eq_ofList_toDigits, String.toList_ofList]
    rfl
  · next uneven =>
    rw [if_neg uneven] at writable
    apply parse_count policy writable .millis ['m', 's'] List.mem_cons_self
    rw [String.toList_append, Nat.toString_eq_ofList_toDigits, String.toList_ofList]
    rfl

theorem decode_encode (writable : d.Writable) : decode d.encode = .ok d.rounded := by
  rw [encode, decode, parse_render .panics writable]
  rfl

def Unit.nanos : Unit → Nat
  | .millis => 1000000
  | .seconds => 1000000000
  | .minutes => 60000000000

/-- A text says so many of a unit; the number and the whole seconds are of 64 bits. -/
def Means (text : String) (d : Duration) : Prop :=
  ∃ count unit, Spells text.toList count unit ∧ count < bound ∧ d.nanos = count * unit.nanos ∧
    d.seconds < bound

/-- A text says so many minutes that their seconds are not of 64 bits. -/
structure Overruns (text : String) (count : Nat) : Prop where
  spells : Spells text.toList count .minutes
  fits : count < bound
  runs : bound ≤ count * 60

theorem Means.not_overruns {text : String} {count : Nat} (means : Means text d) :
    ¬ Overruns text count := by
  rintro ⟨spelled, -, too_long⟩
  obtain ⟨count', unit, spells, -, total, short⟩ := means
  obtain ⟨rfl, rfl⟩ := spells.unique spelled
  rw [seconds, total, Unit.nanos] at short
  omega

theorem ofUnits_eq (policy : Overflow) {count : Nat} {unit : Unit}
    (short : count * unit.nanos / 1000000000 < bound) :
    ofUnits policy count unit = .ok ⟨count * unit.nanos⟩ := by
  cases unit with
  | millis => rfl
  | seconds => rfl
  | minutes =>
    have fits : count * 60 < bound := by
      rw [Unit.nanos] at short
      omega
    rw [ofUnits, policy.product_of_lt fits, Except.map, ofSeconds, Nat.mul_assoc]
    rfl

theorem ofUnits_overrun (policy : Overflow) {count : Nat} (runs : bound ≤ count * 60) :
    ofUnits policy count .minutes = match policy with
      | .panics => .error .overflow
      | .wraps => .ok (ofSeconds (count * 60 % bound)) := by
  rw [ofUnits, policy.product_of_le runs]
  cases policy <;> rfl

theorem short_or_overrun {count : Nat} (fits : count < bound) (unit : Unit) :
    count * unit.nanos / 1000000000 < bound ∨ unit = .minutes ∧ bound ≤ count * 60 := by
  cases unit with
  | millis => left; rw [Unit.nanos]; omega
  | seconds => left; rw [Unit.nanos]; omega
  | minutes =>
    rw [Unit.nanos]
    by_cases runs : bound ≤ count * 60
    · exact .inr ⟨rfl, runs⟩
    · left; omega

theorem Means.parsed (policy : Overflow) {text : String} (means : Means text d) :
    parse policy text = .ok d := by
  obtain ⟨count, unit, spells, fits, total, short⟩ := means
  rw [seconds, total] at short
  rw [spells.parsed policy fits, ofUnits_eq policy short, ← total]

theorem Overruns.parsed (policy : Overflow) {text : String} {count : Nat}
    (overruns : Overruns text count) : parse policy text = match policy with
      | .panics => .error .overflow
      | .wraps => .ok (ofSeconds (count * 60 % bound)) :=
  (overruns.spells.parsed policy overruns.fits).trans (ofUnits_overrun policy overruns.runs)

theorem means_overruns_or_refused (policy : Overflow) (text : String) :
    (∃ d, Means text d) ∨ (∃ count, Overruns text count) ∨ ∃ fault : NumberFault,
      parse policy text =
        .error (.refused ("'" ++ Text.trim text ++ "': " ++ fault.message)) := by
  rcases spells_or_refused policy text with ⟨count, unit, spells, fits⟩ | refused
  · rcases short_or_overrun fits unit with short | ⟨rfl, runs⟩
    · exact .inl ⟨⟨count * unit.nanos⟩, count, unit, spells, fits, rfl, short⟩
    · exact .inr (.inl ⟨count, spells, fits, runs⟩)
  · exact .inr (.inr refused)

theorem parse_eq_ok_iff {policy : Overflow} {text : String} :
    parse policy text = .ok d ↔ Means text d ∨
      policy = .wraps ∧ ∃ count, Overruns text count ∧ d = ofSeconds (count * 60 % bound) := by
  constructor
  · intro read
    rcases means_overruns_or_refused policy text with
      ⟨d', means⟩ | ⟨count, overruns⟩ | ⟨fault, refused⟩
    · cases read.symm.trans (means.parsed policy)
      exact .inl means
    · cases policy with
      | panics => cases read.symm.trans (overruns.parsed .panics)
      | wraps =>
        cases read.symm.trans (overruns.parsed .wraps)
        exact .inr ⟨rfl, count, overruns, rfl⟩
    · cases read.symm.trans refused
  · rintro (means | ⟨rfl, count, overruns, rfl⟩)
    · exact means.parsed policy
    · exact overruns.parsed .wraps

theorem parse_eq_overflow_iff {policy : Overflow} {text : String} :
    parse policy text = .error .overflow ↔
      policy = .panics ∧ ∃ count, Overruns text count := by
  constructor
  · intro read
    rcases means_overruns_or_refused policy text with
      ⟨d', means⟩ | ⟨count, overruns⟩ | ⟨fault, refused⟩
    · cases read.symm.trans (means.parsed policy)
    · cases policy with
      | panics => exact ⟨rfl, count, overruns⟩
      | wraps => cases read.symm.trans (overruns.parsed .wraps)
    · cases read.symm.trans refused
  · rintro ⟨rfl, count, overruns⟩
    exact overruns.parsed .panics

theorem exact_ofSeconds {seconds : Nat} (below : seconds < bound) : (ofSeconds seconds).Exact := by
  constructor
  · simp only [ofSeconds]
    omega
  · have even : (ofSeconds seconds).subMillis = 0 := by
      simp only [subMillis, subNanos, ofSeconds, Nat.mul_mod_left, Nat.zero_div]
    rw [Writable, if_pos even]
    simpa only [Duration.seconds, ofSeconds, Nat.mul_div_cancel _ (by decide : 0 < 1000000000)]

theorem exact_ofMillis {millis : Nat} (below : millis < bound) : (ofMillis millis).Exact := by
  constructor
  · simp only [ofMillis, Nat.mul_mod_left]
  · unfold Writable
    split
    · simp only [seconds, ofMillis]
      omega
    · simpa only [Duration.millis, ofMillis, Nat.mul_div_cancel _ (by decide : 0 < 1000000)]

theorem Means.exact {text : String} (means : Means text d) : d.Exact := by
  obtain ⟨count, unit, -, fits, total, short⟩ := means
  have counted : d = ⟨count * unit.nanos⟩ := congrArg Duration.mk total
  cases unit with
  | millis => exact counted ▸ exact_ofMillis fits
  | seconds => exact counted ▸ exact_ofSeconds fits
  | minutes =>
    have even : d = ofSeconds (count * 60) := by
      rw [counted, Unit.nanos, ofSeconds, Nat.mul_assoc]
    rw [even] at short ⊢
    rw [seconds, ofSeconds, Nat.mul_div_cancel _ (by decide : 0 < 1000000000)] at short
    exact exact_ofSeconds short

theorem parse_render_of_parse {policy : Overflow} {text : String}
    (read : parse policy text = .ok d) : parse policy d.render = .ok d := by
  have exactly : d.Exact := by
    rcases parse_eq_ok_iff.mp read with means | ⟨-, count, -, rfl⟩
    · exact means.exact
    · exact exact_ofSeconds (Nat.mod_lt _ (by decide))
  rw [parse_render policy exactly.writable, rounded_eq_self exactly.whole]

/-- A text is read exactly, or the seconds of its minutes overflow, or it is refused; and what is
read is read again from its own text. Where they overflow, a build that checks its arithmetic
panics, and one that does not reads what is left of them. -/
theorem parse_exact_or_overflow (policy : Overflow) (text : String) :
    (∀ d, parse policy text = .ok d ↔ Means text d ∨
        policy = .wraps ∧ ∃ count, Overruns text count ∧ d = ofSeconds (count * 60 % bound)) ∧
      (parse policy text = .error .overflow ↔ policy = .panics ∧ ∃ count, Overruns text count) ∧
      ((∀ d, ¬ Means text d) → (∀ count, ¬ Overruns text count) → ∃ fault : NumberFault,
        parse policy text =
          .error (.refused ("'" ++ Text.trim text ++ "': " ++ fault.message))) ∧
      (∀ d count, Means text d → ¬ Overruns text count) ∧
      ∀ d, parse policy text = .ok d → parse policy d.render = .ok d := by
  refine ⟨fun d => parse_eq_ok_iff, parse_eq_overflow_iff, fun meaningless short => ?_,
    fun d count means => means.not_overruns, fun d => parse_render_of_parse⟩
  rcases means_overruns_or_refused policy text with ⟨d, means⟩ | ⟨count, overruns⟩ | refused
  · exact absurd means (meaningless d)
  · exact absurd overruns (short count)
  · exact refused

/-- White space, a plus sign and leading zeros are read, and not written again. -/
theorem spaced_millis_read :
    parse .panics " +007 ms " = .ok (ofMillis 7) ∧
      parse .panics (ofMillis 7).render = .ok (ofMillis 7) := by
  have seven : IsNumber ['+', '0', '0', '7'] 7 :=
    @IsNumber.signed ['0', '0', '7'] nofun (List.all_eq_true.mp (by decide))
  have space : ∀ c ∈ [' '], Text.isBlank c = true := List.all_eq_true.mp (by decide)
  have means : Means " +007 ms " (ofMillis 7) :=
    ⟨7, .millis, @Spells.intro _ _ _ [' '] ['+', '0', '0', '7'] [' '] ['m', 's'] [' '] rfl seven
      List.mem_cons_self space space space, by decide, rfl, by decide⟩
  obtain ⟨reads, -, -, -, again⟩ := parse_exact_or_overflow .panics " +007 ms "
  have read := (reads (ofMillis 7)).mpr (.inl means)
  exact ⟨read, again _ read⟩

/-- More minutes than 64 bits have seconds for are not refused: their reading panics, also as the
value of a setting, and without checks they are 44 seconds. -/
theorem long_minutes_overflow :
    parse .panics "307445734561825861m" = .error .overflow ∧
      decode (.str "307445734561825861m") =
        .error (.here (.panicked "attempt to multiply with overflow")) ∧
      parse .wraps "307445734561825861m" = .ok (ofSeconds 44) ∧
      Spells "307445734561825861m".toList 307445734561825861 .minutes ∧
      ∀ d, ¬ Means "307445734561825861m" d := by
  have digits : IsNumber "307445734561825861".toList 307445734561825861 :=
    .unsigned (by decide) (List.all_eq_true.mp (by decide))
  have spells : Spells "307445734561825861m".toList 307445734561825861 .minutes :=
    @Spells.intro _ _ _ [] "307445734561825861".toList [] ['m'] [] rfl digits List.mem_cons_self
      nofun nofun nofun
  have overruns : Overruns "307445734561825861m" 307445734561825861 :=
    ⟨spells, by decide, by decide⟩
  have panics := overruns.parsed .panics
  refine ⟨panics, ?_, overruns.parsed .wraps, spells, fun d means => means.not_overruns overruns⟩
  rw [decode, panics]
  rfl

end Switchboard.Duration
