import Switchboard.Proofs.Double.Rounding

set_option autoImplicit false

namespace Switchboard.Double

open Float.Model Float.Model.UnpackedFloat

/-- The bits that are kept, with the next one, are not above a number. -/
def Below (digits : ExtendedMantissa) (q : ℚ) : Prop :=
  (digits.mantissa : ℚ) + (if digits.roundBit then 1 / 2 else 0) ≤ q

variable {digits : ExtendedMantissa} {q : ℚ}

theorem Below.mantissa_le (below : Below digits q) : (digits.mantissa : ℚ) ≤ q := by
  have nonneg : (0 : ℚ) ≤ if digits.roundBit then 1 / 2 else 0 := by
    split
    · norm_num
    · exact le_refl _
  exact le_trans (le_add_of_nonneg_right nonneg) below

theorem Below.shiftRightOne (below : Below digits q) : Below digits.shiftRightOne (q / 2) := by
  have kept := below.mantissa_le
  have parts : (digits.mantissa : ℚ) =
      2 * (digits.mantissa / 2 : Nat) + (digits.mantissa % 2 : Nat) := by
    exact_mod_cast (Nat.div_add_mod digits.mantissa 2).symm
  rw [Below, ExtendedMantissa.shiftRightOne]
  dsimp only
  rcases Nat.mod_two_eq_zero_or_one digits.mantissa with even | odd
  · rw [even] at parts ⊢
    norm_num at parts ⊢
    linarith
  · rw [odd] at parts ⊢
    norm_num at parts ⊢
    linarith

theorem Below.shiftRight (below : Below digits q) (count : Nat) :
    Below (digits >>> count) (q / 2 ^ count) := by
  induction count with
  | zero =>
    rw [pow_zero, div_one]
    exact below
  | succ count ih =>
    rw [pow_succ, ← div_div]
    exact ih.shiftRightOne

theorem mantissa_shiftRight (digits : ExtendedMantissa) (count : Nat) :
    (digits >>> count).mantissa = digits.mantissa / 2 ^ count := by
  induction count with
  | zero => rw [pow_zero, Nat.div_one]; rfl
  | succ count ih =>
    rw [pow_succ, ← Nat.div_div_eq_div_mul, ← ih]
    rfl

theorem mantissa_le_rounded (digits : ExtendedMantissa) :
    digits.mantissa ≤ digits.roundedMantissa ∧ digits.roundedMantissa ≤ digits.mantissa + 1 := by
  obtain ⟨mantissa, round, sticky⟩ := digits
  rcases round with _ | _ <;> rcases sticky with _ | _
  · exact ⟨Nat.le_refl _, Nat.le_succ _⟩
  · exact ⟨Nat.le_refl _, Nat.le_succ _⟩
  · change mantissa ≤ mantissa + mantissa % 2 ∧ mantissa + mantissa % 2 ≤ mantissa + 1
    omega
  · exact ⟨Nat.le_succ _, Nat.le_refl _⟩

/-- Rounding goes up by a half at most, because it goes up only if the next bit is set. -/
theorem Below.rounded_le (below : Below digits q) : (digits.roundedMantissa : ℚ) ≤ q + 1 / 2 := by
  have upper : (digits.roundedMantissa : ℚ) ≤ digits.mantissa + 1 := by
    exact_mod_cast (mantissa_le_rounded digits).2
  obtain ⟨mantissa, round, sticky⟩ := digits
  rw [Below] at below
  cases round with
  | true =>
    rw [if_pos rfl] at below
    dsimp only at below upper
    linarith
  | false =>
    have same : ExtendedMantissa.roundedMantissa ⟨mantissa, false, sticky⟩ = mantissa := by
      cases sticky <;> rfl
    rw [if_neg Bool.false_ne_true] at below
    rw [same]
    dsimp only at below
    linarith

def target (significand : Nat) (exponent : Int) : Int :=
  max ((significand.log2 : Int) + exponent - 52) (-1074)

theorem targetExponent_eq (significand : Nat) (exponent : Int) :
    Format.binary64.targetExponent (totalExponent significand exponent) =
      target significand exponent := by
  rw [target, Format.targetExponent, totalExponent]
  congr 1
  change (significand.log2 : Int) + 1 + exponent - 53 = _
  ring

/-- A double of one sign stands for a number. -/
inductive Stands (sign : Sign) : UnpackedFloat → ℚ → Prop
  | zero : Stands sign (.zero sign) 0
  | finite {significand : Nat} {exponent : Int} (pos : 0 < significand)
      (canonical : Canonical significand exponent) :
      Stands sign (.finite sign significand exponent pos) (number significand exponent)

/-- What the second shift leaves: it is needed only if rounding has filled the next bit. -/
theorem stands_of_rounded (sign : Sign) {rounded : Nat} {exponent : Int}
    (fits : rounded ≤ 2 ^ 53) (least : -1074 ≤ exponent)
    (full : 2 ^ 52 ≤ rounded ∨ exponent = -1074) :
    Stands sign
      (let shifted := shiftToTargetExponent Format.binary64 rounded exponent .exact
      if none_left : shifted.1.mantissa = 0 then .zero sign
      else .finite sign shifted.1.mantissa shifted.2 (Nat.pos_of_ne_zero none_left))
      (number rounded exponent) := by
  rcases Nat.lt_or_eq_of_le fits with fits | rfl
  · have short : rounded.log2 ≤ 52 := by
      rcases Nat.eq_zero_or_pos rounded with rfl | pos
      · decide
      · exact Nat.le_of_lt_succ ((Nat.log2_lt pos.ne').mpr fits)
    have unmoved : (target rounded exponent - exponent).toNat = 0 := by
      rw [target]
      omega
    have kept : shiftToTargetExponent Format.binary64 rounded exponent .exact =
        (⟨rounded, false, false⟩, exponent) := by
      rw [shiftToTargetExponent, targetExponent_eq, shiftToExponent, unmoved]
      exact Prod.ext rfl (add_zero exponent)
    rw [kept]
    dsimp only
    split
    · next none_left =>
      rw [none_left, number, Nat.cast_zero, zero_mul]
      exact .zero
    · next some_left => exact .finite _ ⟨fits, least, full⟩
  · have moved : (target (2 ^ 53) exponent - exponent).toNat = 1 := by
      rw [target, Nat.log2_two_pow]
      omega
    have kept : shiftToTargetExponent Format.binary64 (2 ^ 53) exponent .exact =
        (⟨2 ^ 52, false, false⟩, exponent + 1) := by
      rw [shiftToTargetExponent, targetExponent_eq, shiftToExponent, moved]
      rfl
    have same : number (2 ^ 53) exponent = number (2 ^ 52) (exponent + 1) := by
      rw [number_two_pow, number_two_pow]
      congr 1
      omega
    rw [kept, same]
    dsimp only
    rw [dif_neg (by decide)]
    exact .finite _ ⟨by decide, by omega, .inl (Nat.le_refl _)⟩

/-- A significand with a note on what was cut off, and the bits that are shifted out of it. -/
theorem shifted_eq {significand : Nat} {exponent : Int} (accuracy : Accuracy)
    (enough : exponent ≤ target significand exponent) :
    shiftToTargetExponent Format.binary64 significand exponent accuracy =
      (ExtendedMantissa.ofMantissaAndAccuracy significand accuracy >>>
        (target significand exponent - exponent).toNat, target significand exponent) := by
  rw [shiftToTargetExponent, targetExponent_eq, shiftToExponent]
  refine Prod.ext rfl ?_
  change exponent + ((target significand exponent - exponent).toNat : Int) = _
  omega

theorem ofMantissaAndAccuracy_mantissa (significand : Nat) (accuracy : Accuracy) :
    (ExtendedMantissa.ofMantissaAndAccuracy significand accuracy).mantissa = significand := by
  rcases accuracy with _ | order
  · rfl
  · cases order <;> rfl

/-- The significand of a number fills the bits of a double, with those that are shifted out. -/
theorem significand_bounds {significand count : Nat} {exponent : Int}
    (moved : target significand exponent = exponent + count) :
    significand < 2 ^ (53 + count) ∧
      (2 ^ (52 + count) ≤ significand ∨ exponent + count = -1074) := by
  rw [target] at moved
  constructor
  · exact Nat.lt_of_lt_of_le Nat.lt_log2_self (Nat.pow_le_pow_right two_pos (by omega))
  · rcases lt_or_ge (-1074) (significand.log2 + exponent - 52) with large | small
    · have bits : significand.log2 = 52 + count := by omega
      have some_bit : significand ≠ 0 := by
        rintro rfl
        rw [Nat.log2_zero] at bits
        omega
      exact .inl (bits ▸ Nat.log2_self_le some_bit)
    · exact .inr (by omega)

theorem roundWithAccuracy_near (sign : Sign) {significand : Nat} {exponent : Int}
    {accuracy : Accuracy} {p : ℚ}
    (enough : exponent ≤ target significand exponent)
    (below : Below (.ofMantissaAndAccuracy significand accuracy) p) (above : p < significand + 1) :
    ∃ v, Stands sign (roundWithAccuracy Format.binary64 sign significand exponent accuracy) v ∧
      Near (p * 2 ^ exponent) v (target significand exponent) := by
  obtain ⟨count, moved⟩ : ∃ count : Nat, target significand exponent = exponent + count :=
    ⟨_, by rw [Int.toNat_of_nonneg (Int.sub_nonneg_of_le enough)]; ring⟩
  obtain ⟨fits, full⟩ := significand_bounds moved
  have shifts : (target significand exponent - exponent).toNat = count := by omega
  have least : -1074 ≤ target significand exponent := le_max_right _ _
  have le_p : (significand : ℚ) ≤ p := by
    have kept := below.mantissa_le
    rwa [ofMantissaAndAccuracy_mantissa] at kept
  have rounds := (below.shiftRight count).rounded_le
  have between := mantissa_le_rounded
    (ExtendedMantissa.ofMantissaAndAccuracy significand accuracy >>> count)
  rw [mantissa_shiftRight, ofMantissaAndAccuracy_mantissa] at between
  have whole := shifted_eq accuracy enough
  rw [shifts] at whole
  generalize ExtendedMantissa.ofMantissaAndAccuracy significand accuracy >>> count = digits
    at rounds between whole
  refine ⟨number digits.roundedMantissa (target significand exponent), ?_, ?_⟩
  · rw [roundWithAccuracy, whole]
    refine stands_of_rounded sign ?_ least ?_
    · have short : significand / 2 ^ count < 2 ^ 53 := by
        rw [Nat.div_lt_iff_lt_mul (Nat.two_pow_pos count), ← Nat.pow_add]
        exact fits
      omega
    · refine full.imp (fun long => ?_) fun least => moved.trans least
      refine Nat.le_trans ?_ between.1
      rw [Nat.le_div_iff_mul_le (Nat.two_pow_pos count), ← Nat.pow_add]
      exact long
  · have split : (2 : ℚ) ^ (exponent + count) = 2 ^ exponent * 2 ^ count := by
      rw [zpow_add₀ two_ne_zero, zpow_natCast]
    have pos := two_zpow_pos exponent
    refine ⟨⟨_, rfl⟩, ?_, least, ?_, ?_⟩
    · rw [half_zpow, moved, number, split]
      have scaled := mul_le_mul_of_nonneg_right rounds (mul_pos pos (pow_pos two_pos count)).le
      refine scaled.trans_eq ?_
      have cancel : (2 : ℚ) ^ count ≠ 0 := pow_ne_zero count two_ne_zero
      rw [add_mul, mul_left_comm, div_mul_cancel₀ _ cancel]
      ring
    · rw [moved]
      refine full.symm.imp id fun long => ?_
      have low := (number_le_iff exponent).mpr long
      rw [number_two_pow] at low
      calc (2 : ℚ) ^ (exponent + count + 52) = 2 ^ (exponent + (52 + count : Nat)) := by
            congr 1
            push_cast
            ring
        _ ≤ number significand exponent := low
        _ ≤ p * 2 ^ exponent := mul_le_mul_of_nonneg_right le_p pos.le
    · rw [moved]
      have high := (number_le_iff exponent).mpr (Nat.succ_le_of_lt fits)
      rw [number_two_pow] at high
      calc p * 2 ^ exponent < (significand + 1) * 2 ^ exponent := mul_lt_mul_of_pos_right above pos
        _ = number significand.succ exponent := by rw [number, Nat.cast_succ]
        _ ≤ 2 ^ (exponent + (53 + count : Nat)) := high
        _ = 2 ^ (exponent + count + 53) := by
            congr 1
            push_cast
            ring

end Switchboard.Double
