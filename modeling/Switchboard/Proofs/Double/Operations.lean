import Switchboard.Proofs.Double.Shifting

set_option autoImplicit false

namespace Switchboard.Double

open Float.Model Float.Model.UnpackedFloat

theorem number_shiftLeft (significand : Nat) (exponent : Int) (count : Nat) :
    number (significand <<< count) (exponent - count) = number significand exponent := by
  rw [number_shift significand (Int.sub_le_self exponent (Int.natCast_nonneg count)),
    Nat.shiftLeft_eq]
  congr 3
  omega

theorem log2_shiftLeft {significand : Nat} (pos : significand ≠ 0) (count : Nat) :
    (significand <<< count).log2 = significand.log2 + count := by
  induction count with
  | zero => rfl
  | succ count ih =>
    rw [Nat.shiftLeft_succ, Nat.log2_two_mul (by rw [Ne, Nat.shiftLeft_eq_zero_iff]; exact pos), ih,
      Nat.add_assoc]

theorem target_shiftLeft {significand : Nat} (pos : significand ≠ 0) (exponent : Int)
    (count : Nat) :
    target (significand <<< count) (exponent - count) = target significand exponent := by
  rw [target, target, log2_shiftLeft pos]
  congr 1
  push_cast
  ring

theorem below_exact (significand : Nat) :
    Below (.ofMantissaAndAccuracy significand .exact) significand := by
  change (significand : ℚ) + 0 ≤ significand
  rw [add_zero]

theorem round_eq (sign : Sign) (significand : Nat) (exponent : Int) :
    round Format.binary64 sign significand exponent =
      roundWithAccuracy Format.binary64 sign
        (significand <<< (exponent - target significand exponent).toNat)
        (exponent - ((exponent - target significand exponent).toNat : Int)) .exact := by
  rw [UnpackedFloat.round, targetExponent_eq, decreaseExponent]

theorem round_near (sign : Sign) {significand : Nat} (pos : significand ≠ 0) (exponent : Int) :
    ∃ v, Stands sign (round Format.binary64 sign significand exponent) v ∧
      Near (number significand exponent) v (target significand exponent) := by
  have enough : exponent - ((exponent - target significand exponent).toNat : Int) ≤
      target significand exponent := by omega
  rw [round_eq]
  generalize (exponent - target significand exponent).toNat = count at enough
  rw [← target_shiftLeft pos exponent count] at enough ⊢
  rw [← number_shiftLeft significand exponent count]
  exact roundWithAccuracy_near sign enough (below_exact _) (lt_add_one _)

theorem near_zero : Near 0 0 (-1074) where
  multiple := ⟨0, by rw [number, Nat.cast_zero, zero_mul]⟩
  close := by
    rw [zero_add]
    exact (two_zpow_pos _).le
  least := le_refl _
  low := .inl rfl
  high := two_zpow_pos _

theorem normalize_near (significand : Nat) (exponent : Int) :
    ∃ v power, Stands .positive (normalize Format.binary64 significand exponent .positive) v ∧
      Near (number significand exponent) v power := by
  rcases Nat.eq_zero_or_pos significand with rfl | pos
  · refine ⟨0, -1074, .zero, ?_⟩
    rw [number, Nat.cast_zero, zero_mul]
    exact near_zero
  · have more : compare (significand : Int) 0 = .gt := by
      rw [compare_gt_iff_gt]
      exact_mod_cast pos
    obtain ⟨v, stands, near⟩ := round_near .positive pos.ne' exponent
    refine ⟨v, _, ?_, near⟩
    rw [UnpackedFloat.normalize, more]
    exact stands

theorem ofNat_near (n : Nat) :
    ∃ v power, Stands .positive (UnpackedFloat.ofNat Format.binary64 n) v ∧ Near n v power := by
  have near := normalize_near n 0
  rwa [number, zpow_zero, mul_one] at near

namespace Stands

variable {sign : Sign} {a b : UnpackedFloat} {v w : ℚ}

theorem nonneg (stands : Stands sign a v) : 0 ≤ v := by
  cases stands with
  | zero => exact le_refl _
  | finite pos canonical => exact mul_nonneg (Nat.cast_nonneg _) (two_zpow_pos _).le

theorem near (stands : Stands sign a v) : ∃ power, Near v v power := by
  cases stands with
  | zero => exact ⟨_, near_zero⟩
  | @finite significand exponent pos canonical =>
    have above := two_zpow_pos (exponent - 1)
    refine ⟨exponent, ⟨_, rfl⟩, (lt_add_of_pos_right _ above).le, canonical.least, ?_, ?_⟩
    · refine canonical.full.symm.imp id fun full => ?_
      have low := (number_le_iff exponent).mpr full
      rwa [number_two_pow] at low
    · have high := (number_lt_iff exponent).mpr canonical.fits
      rwa [number_two_pow] at high

theorem holdable (stands : Stands sign a v) : Holdable v := by
  cases stands with
  | zero => exact ⟨0, 0, by decide, by decide, by rw [number, Nat.cast_zero, zero_mul]⟩
  | finite pos canonical => exact ⟨_, _, canonical.fits, canonical.least, rfl⟩

end Stands

variable {a b : UnpackedFloat} {v w : ℚ}

theorem add_near (first : Stands .positive a v) (second : Stands .positive b w) :
    ∃ sum power, Stands .positive (add Format.binary64 a b) sum ∧ Near (v + w) sum power := by
  cases first with
  | zero =>
    obtain ⟨power, near⟩ := second.near
    rw [zero_add]
    cases second with
    | zero => exact ⟨_, power, .zero, near⟩
    | finite pos canonical => exact ⟨_, power, .finite pos canonical, near⟩
  | @finite m e pos canonical =>
    cases second with
    | zero =>
      have itself : Stands .positive (.finite .positive m e pos) (number m e) :=
        .finite pos canonical
      obtain ⟨power, near⟩ := itself.near
      rw [add_zero]
      exact ⟨_, power, itself, near⟩
    | @finite n f pos' canonical' =>
      have exact_sum : number m e + number n f =
          number (m <<< (e - min e f).toNat + n <<< (f - min e f).toNat) (min e f) := by
        rw [number_shift m (min_le_left e f), number_shift n (min_le_right e f), number, number,
          number, Nat.cast_add, add_mul, Nat.shiftLeft_eq, Nat.shiftLeft_eq]
      rw [exact_sum]
      exact normalize_near _ _

theorem below_fraction (num : Nat) {den : Nat} (pos : 0 < den) :
    Below (.ofMantissaAndAccuracy (num / den) (accuracyOfFraction (num % den) den))
      ((num : ℚ) / den) := by
  have real : (0 : ℚ) < den := by exact_mod_cast pos
  have parts : (num : ℚ) = (num / den : Nat) * den + (num % den : Nat) := by
    exact_mod_cast (Nat.div_add_mod' num den).symm
  have whole : ((num / den : Nat) : ℚ) ≤ num / den := by
    rw [le_div_iff₀ real]
    linarith [(Nat.cast_nonneg (num % den) : (0 : ℚ) ≤ _)]
  have half (more : den ≤ 2 * (num % den)) : ((num / den : Nat) : ℚ) + 1 / 2 ≤ num / den := by
    have more' : (den : ℚ) ≤ 2 * (num % den : Nat) := by exact_mod_cast more
    rw [le_div_iff₀ real]
    linarith
  rw [Below, accuracyOfFraction]
  split
  · simpa [ExtendedMantissa.ofMantissaAndAccuracy] using whole
  · cases order : compare (2 * (num % den)) den with
    | lt => simpa [ExtendedMantissa.ofMantissaAndAccuracy] using whole
    | eq =>
      have same := compare_eq_iff_eq.mp order
      simpa [ExtendedMantissa.ofMantissaAndAccuracy] using half same.ge
    | gt =>
      have more := compare_gt_iff_gt.mp order
      simpa [ExtendedMantissa.ofMantissaAndAccuracy] using half more.le

theorem quotient_full {m n count : Nat} (pos : 0 < m) (pos' : 0 < n)
    (enough : n.log2 + 53 ≤ m.log2 + count) : 52 ≤ ((m <<< count) / n).log2 := by
  have long : 2 ^ 52 ≤ (m <<< count) / n := by
    rw [Nat.le_div_iff_mul_le pos', Nat.shiftLeft_eq]
    calc 2 ^ 52 * n ≤ 2 ^ 52 * 2 ^ (n.log2 + 1) := Nat.mul_le_mul_left _ Nat.lt_log2_self.le
      _ = 2 ^ (n.log2 + 53) := by rw [← Nat.pow_add, Nat.add_comm, Nat.add_assoc]
      _ ≤ 2 ^ (m.log2 + count) := Nat.pow_le_pow_right two_pos enough
      _ = 2 ^ m.log2 * 2 ^ count := Nat.pow_add _ _ _
      _ ≤ m * 2 ^ count := Nat.mul_le_mul_right _ (Nat.log2_self_le pos.ne')
  have some_bit : (m <<< count) / n ≠ 0 := (Nat.lt_of_lt_of_le (Nat.two_pow_pos 52) long).ne'
  exact (Nat.le_log2 some_bit).mpr long

def quotientExponent (m : Nat) (e : Int) (n : Nat) (f : Int) : Int :=
  min (e - f) (Format.binary64.targetExponent (totalExponent m e - totalExponent n f))

theorem divCore_eq (m : Nat) (e : Int) (n : Nat) (f : Int) {count : Nat}
    (added : e - f - quotientExponent m e n f = count) :
    divCore Format.binary64 m e n f =
      ((m <<< count) / n, quotientExponent m e n f, accuracyOfFraction ((m <<< count) % n) n) := by
  have count_eq : (e - f - quotientExponent m e n f).toNat = count := by
    rw [added, Int.toNat_natCast]
  rw [← count_eq]
  rfl

theorem quotientExponent_le {m n count : Nat} {e f : Int} (pos : 0 < m) (pos' : 0 < n)
    (added : e - f - quotientExponent m e n f = count) :
    quotientExponent m e n f ≤ target ((m <<< count) / n) (quotientExponent m e n f) := by
  have least : quotientExponent m e n f ≤ max ((m.log2 : Int) + e - n.log2 - f - 53) (-1074) := by
    refine (min_le_right _ _).trans_eq ?_
    rw [Format.targetExponent, totalExponent, totalExponent]
    congr 1
    change (m.log2 : Int) + 1 + e - (n.log2 + 1 + f) - 53 = _
    ring
  generalize quotientExponent m e n f = exponent at added least ⊢
  rcases le_or_gt exponent (-1074) with small | large
  · exact small.trans (le_max_right _ _)
  · have enough : n.log2 + 53 ≤ m.log2 + count := by omega
    have full := quotient_full pos pos' enough
    exact le_trans (by omega) (le_max_left _ _)

theorem quotient_value (m n : Nat) {count : Nat} {e f exponent : Int}
    (added : e - f - exponent = count) :
    ((m <<< count : Nat) : ℚ) / n * 2 ^ exponent = number m e / number n f := by
  have scale : (2 : ℚ) ^ count * 2 ^ exponent = 2 ^ e / 2 ^ f := by
    rw [← zpow_sub₀ two_ne_zero, ← zpow_natCast, ← zpow_add₀ two_ne_zero]
    congr 1
    omega
  calc ((m <<< count : Nat) : ℚ) / n * 2 ^ exponent
      = m / n * (2 ^ count * 2 ^ exponent) := by
        rw [Nat.shiftLeft_eq, Nat.cast_mul, Nat.cast_pow, Nat.cast_ofNat]
        ring
    _ = m / n * (2 ^ e / 2 ^ f) := by rw [scale]
    _ = number m e / number n f := div_mul_div_comm _ _ _ _

theorem div_near (first : Stands .positive a v) (second : Stands .positive b w) (some_b : w ≠ 0) :
    ∃ quotient power, Stands .positive (div Format.binary64 a b) quotient ∧
      Near (v / w) quotient power := by
  cases second with
  | zero => exact absurd rfl some_b
  | @finite n f pos' canonical' =>
    cases first with
    | zero =>
      rw [zero_div]
      exact ⟨0, _, .zero, near_zero⟩
    | @finite m e pos canonical =>
      obtain ⟨count, added⟩ : ∃ count : Nat, e - f - quotientExponent m e n f = count :=
        Int.eq_ofNat_of_zero_le (Int.sub_nonneg_of_le (min_le_left _ _))
      have real : (0 : ℚ) < n := by exact_mod_cast pos'
      have above : ((m <<< count : Nat) : ℚ) / n < ((m <<< count) / n : Nat) + 1 := by
        rw [div_lt_iff₀ real]
        exact_mod_cast Nat.lt_mul_of_div_lt (Nat.lt_succ_self _) pos'
      obtain ⟨quotient, stands, near⟩ := roundWithAccuracy_near (.positive / .positive)
        (quotientExponent_le pos pos' added) (below_fraction (m <<< count) pos') above
      rw [quotient_value m n added] at near
      refine ⟨quotient, _, ?_, near⟩
      rw [UnpackedFloat.div, divCore_eq m e n f added]
      exact stands

end Switchboard.Double
