import Mathlib

set_option autoImplicit false

namespace Switchboard.Double

open Float.Model Float.Model.UnpackedFloat

/-- A significand and an exponent as a double stores them: the significand fills its bits, unless
the exponent is the least one. -/
structure Canonical (significand : Nat) (exponent : Int) : Prop where
  fits : significand < 2 ^ 53
  least : -1074 ≤ exponent
  full : 2 ^ 52 ≤ significand ∨ exponent = -1074

def number (significand : Nat) (exponent : Int) : ℚ := significand * 2 ^ exponent

/-- A number that a double holds, but for its size. -/
def Holdable (y : ℚ) : Prop :=
  ∃ (significand : Nat) (exponent : Int),
    significand < 2 ^ 53 ∧ -1074 ≤ exponent ∧ y = number significand exponent

/-- A number and what it is rounded to: a multiple of the power of two that goes with its magnitude,
greater than the number by half of that power at most. -/
structure Near (q v : ℚ) (power : Int) : Prop where
  multiple : ∃ count : Nat, v = number count power
  close : v ≤ q + 2 ^ (power - 1)
  least : -1074 ≤ power
  low : power = -1074 ∨ (2 : ℚ) ^ (power + 52) ≤ q
  high : q < (2 : ℚ) ^ (power + 53)

theorem two_zpow_pos (e : Int) : (0 : ℚ) < 2 ^ e := zpow_pos two_pos e

theorem zpow_le {e f : Int} (below : e ≤ f) : (2 : ℚ) ^ e ≤ 2 ^ f :=
  zpow_le_zpow_right₀ one_le_two below

theorem of_zpow_lt {e f : Int} (below : (2 : ℚ) ^ e < 2 ^ f) : e < f :=
  (zpow_lt_zpow_iff_right₀ one_lt_two).mp below

theorem number_shift (significand : Nat) {e f : Int} (below : e ≤ f) :
    number significand f = number (significand * 2 ^ (f - e).toNat) e := by
  have whole : ((f - e).toNat : Int) = f - e := Int.toNat_of_nonneg (Int.sub_nonneg_of_le below)
  have power : (2 : ℚ) ^ (f - e).toNat * 2 ^ e = 2 ^ f := by
    rw [← zpow_natCast, whole, ← zpow_add₀ two_ne_zero, Int.sub_add_cancel]
  rw [number, number, Nat.cast_mul, Nat.cast_pow, Nat.cast_ofNat, mul_assoc, power]

theorem number_le_iff {m n : Nat} (e : Int) : number m e ≤ number n e ↔ m ≤ n := by
  rw [number, number, mul_le_mul_iff_left₀ (two_zpow_pos e), Nat.cast_le]

theorem number_lt_iff {m n : Nat} (e : Int) : number m e < number n e ↔ m < n := by
  rw [← not_le, number_le_iff, not_le]

theorem number_two_pow (count : Nat) (e : Int) : number (2 ^ count) e = 2 ^ (e + count) := by
  rw [number, zpow_add₀ two_ne_zero, zpow_natCast, Nat.cast_pow, Nat.cast_ofNat, mul_comm]

theorem number_succ (count : Nat) (e : Int) :
    number (count + 1) e = number count e + 2 ^ e := by
  rw [number, number, Nat.cast_add_one]
  ring

theorem half_zpow (e : Int) : (2 : ℚ) ^ (e - 1) = 2 ^ e / 2 := by
  rw [zpow_sub_one₀ two_ne_zero]
  ring

namespace Near

variable {q v : ℚ} {power : Int}

theorem le_multiple (near : Near q v power) {count : Nat}
    (above : q < number count power + 2 ^ (power - 1)) : v ≤ number count power := by
  obtain ⟨other, rfl⟩ := near.multiple
  have close := near.close
  rw [half_zpow] at close above
  have less : number other power < number (count + 1) power := by
    rw [number_succ]
    linarith
  rw [number_lt_iff] at less
  exact (number_le_iff power).mpr (Nat.le_of_lt_succ less)

theorem le_of_le (near : Near q v power) {y : ℚ} (holdable : Holdable y) (above : q ≤ y) :
    v ≤ y := by
  obtain ⟨significand, exponent, fits, least, rfl⟩ := holdable
  by_cases order : power ≤ exponent
  · rw [number_shift significand order] at above ⊢
    apply near.le_multiple
    have pos := two_zpow_pos (power - 1)
    linarith
  · -- with a smaller exponent it would be below the magnitude of what is rounded
    exfalso
    have small := (number_lt_iff exponent).mpr fits
    rw [number_two_pow] at small
    rcases near.low with same | low
    · omega
    · have order' : (2 : ℚ) ^ (exponent + (53 : Nat)) ≤ 2 ^ (power + 52) := zpow_le (by omega)
      linarith

/-- A double with a full significand that is below a number by less than half of its last bit is not
below what the number is rounded to. -/
theorem le_of_lt_half (near : Near q v power) {significand : Nat} {exponent : Int}
    (fits : significand < 2 ^ 53) (full : 2 ^ 52 ≤ significand) (least : -1074 ≤ exponent)
    (above : q < number significand exponent + 2 ^ (exponent - 1)) :
    v ≤ number significand exponent := by
  by_cases within : q ≤ number significand exponent
  · exact near.le_of_le ⟨_, _, fits, least, rfl⟩ within
  · have low := (number_le_iff exponent).mpr full
    have high := (number_le_iff exponent).mpr (Nat.succ_le_of_lt fits)
    rw [number_two_pow] at low high
    rw [number_succ] at high
    have half := half_zpow exponent
    have pos := two_zpow_pos exponent
    -- the number has the magnitude of the double, so it is rounded to multiples of the same power
    have not_less : exponent + (52 : Nat) < power + 53 := of_zpow_lt (by linarith [near.high])
    have not_more : power ≤ exponent := by
      rcases near.low with same | low'
      · omega
      · have order : power + 52 < exponent + (53 : Nat) := of_zpow_lt (by linarith)
        omega
    have same : power = exponent := by omega
    subst same
    exact near.le_multiple above

end Near

end Switchboard.Double
