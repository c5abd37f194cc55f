import Switchboard.Proofs.Double.Arithmetic
import Switchboard.Transport.Retry

set_option autoImplicit false

namespace Switchboard.Retry

open Double

theorem is_of_unpack {x : Float} {m : Nat} {e : Int} (pos : 0 < m) (canonical : Canonical m e)
    (parts : x.toModel.unpack = .finite .positive m e pos) : Is x (number m e) := by
  rw [Is, parts]
  exact .finite pos canonical

theorem one_is : Is 1 (number 4503599627370496 (-52)) :=
  is_of_unpack (by decide) ⟨by decide, by decide, by decide⟩ rfl

theorem billion_is : Is 1000000000 1000000000 := by
  have is : Is 1000000000 (number 8388608000000000 (-23)) :=
    is_of_unpack (by decide) ⟨by decide, by decide, by decide⟩ rfl
  have same : number 8388608000000000 (-23) = 1000000000 := by
    rw [number]
    norm_num
  rwa [same] at is

theorem near_fraction {q v : ℚ} {p : Int} (near : Near q v p) (below : q < 1) :
    v ≤ q + 2 ^ (-54 : Int) := by
  have small : p ≤ -53 := by
    rcases near.low with least | low
    · omega
    · have order : p + 52 < 0 := of_zpow_lt (lt_of_le_of_lt low (by rwa [zpow_zero]))
      omega
  exact near.close.trans (add_le_add_right (zpow_le (by omega)) q)

theorem fraction_is {nanos : Nat} (less : nanos < 1000000000) :
    ∃ part, Is ((UInt64.ofNat nanos).toFloat / 1000000000) part ∧
      part ≤ nanos / 1000000000 + 2 ^ (-54 : Int) := by
  obtain ⟨count, p, is, near⟩ := Is.ofUInt64 (UInt64.ofNat nanos)
  have same : (UInt64.ofNat nanos).toNat = nanos := by
    rw [UInt64.toNat_ofNat']
    omega
  rw [same] at near
  have exactly : count ≤ nanos :=
    near.le_of_le ⟨nanos, 0, by omega, by decide, by rw [number, zpow_zero, mul_one]⟩ (le_refl _)
  have real : (nanos : ℚ) < 1000000000 := by exact_mod_cast less
  have below : count / 1000000000 < 1 := by linarith
  obtain ⟨part, p', is', near'⟩ := is.div billion_is (by norm_num)
    (below.le.trans (one_le_zpow₀ one_le_two (by decide)))
  refine ⟨part, is', (near_fraction near' below).trans ?_⟩
  linarith

/-- The seconds of a duration are a whole number and a part of a second, both rounded, and their sum
is rounded again. -/
theorem secondsOf_is (d : Duration) :
    ∃ (whole part sum : ℚ) (p p' : Int),
      Near (d.seconds % Duration.bound : Nat) whole p ∧ 0 ≤ part ∧
      part ≤ d.subNanos / 1000000000 + 2 ^ (-54 : Int) ∧
      Is (secondsOf d) sum ∧ Near (whole + part) sum p' := by
  have within : d.subNanos < 1000000000 := Nat.mod_lt _ (by decide)
  obtain ⟨whole, p, is, near⟩ := Is.ofUInt64 (UInt64.ofNat d.seconds)
  obtain ⟨part, is', close⟩ := fraction_is within
  rw [UInt64.toNat_ofNat'] at near
  have whole_le : whole ≤ 2 ^ (64 : Int) := by
    refine near.le_of_le ⟨1, 64, by decide, by decide, by rw [number, Nat.cast_one, one_mul]⟩ ?_
    exact_mod_cast (Nat.mod_lt _ (by decide)).le
  have part_le : part ≤ 2 := by
    have real : (d.subNanos : ℚ) < 1000000000 := by exact_mod_cast within
    have tiny : (2 : ℚ) ^ (-54 : Int) ≤ 1 := zpow_le_one_of_nonpos₀ one_le_two (by decide)
    linarith
  have moderate : whole + part ≤ 2 ^ (1000 : Int) := by
    have room : (2 : ℚ) ^ (64 : Int) + 2 ≤ 2 ^ (65 : Int) := by norm_num
    exact (add_le_add whole_le part_le).trans (room.trans (zpow_le (by decide)))
  obtain ⟨sum, p', is_sum, near_sum⟩ := is.add is' moderate
  exact ⟨whole, part, sum, p, p', near, is'.nonneg, close, is_sum, near_sum⟩

theorem secondsOf_hasNoSign (d : Duration) : HasNoSign (secondsOf d) := by
  obtain ⟨_, _, _, _, _, _, _, _, is, _⟩ := secondsOf_is d
  exact is.hasNoSign

theorem powerFrom_hasNoSign {result base : Float} (steps : Nat) (exponent : Nat)
    (first : HasNoSign result) (second : HasNoSign base) :
    HasNoSign (powerFrom result base exponent steps) := by
  induction steps generalizing result base exponent with
  | zero => exact first
  | succ steps ih =>
    have next : HasNoSign (if exponent % 2 = 1 then result * base else result) := by
      split
      · exact first.mul second
      · exact first
    rw [powerFrom]
    split
    · exact next
    · exact ih _ next (second.mul second)

theorem hasNoSign_of_one_lt {x : Float} (more : 1 < x) : HasNoSign x := by
  have order : (1 : Float).toModel.unpack.lt x.toModel.unpack = true := of_decide_eq_true more
  have parts : (1 : Float).toModel.unpack =
      .finite .positive 4503599627370496 (-52) (by decide) := rfl
  rw [parts] at order
  rw [HasNoSign]
  cases shown : x.toModel.unpack with
  | notANumber => trivial
  | zero sign =>
    rw [shown] at order
    cases order
  | infinity sign | finite sign =>
    rw [shown] at order
    cases sign with
    | positive => rfl
    | negative => cases order

theorem growth_hasNoSign (retry : Retry) : HasNoSign retry.growth := by
  rw [growth]
  split
  · next more => exact hasNoSign_of_one_lt more
  · exact one_is.hasNoSign

theorem roundHalfEven_le {num den limit : Nat} (below : 2 * num < (2 * limit + 1) * den) :
    roundHalfEven num den ≤ limit := by
  have parts := Nat.div_add_mod num den
  rw [roundHalfEven]
  generalize num / den = quotient at parts ⊢
  generalize num % den = rest at parts ⊢
  rcases lt_trichotomy quotient limit with less | rfl | more
  · split
    · omega
    · split <;> omega
  · have short : 2 * rest < den := by
      rw [Nat.add_mul, one_mul, Nat.mul_assoc, Nat.mul_comm quotient] at below
      omega
    rw [if_pos short]
  · exfalso
    have large := Nat.mul_le_mul_left den (Nat.succ_le_of_lt more)
    rw [Nat.add_mul, one_mul, Nat.mul_assoc, Nat.mul_comm limit] at below
    rw [Nat.succ_eq_add_one, Nat.mul_add, mul_one] at large
    omega

theorem ofSecondsFloat_le {x : Float} {negative lowest : Bool} {m limit : Nat} {e : Int}
    (parts : Decimal.classify x = .finite ⟨negative, m, e, lowest⟩)
    (below : number m e * 1000000000 < limit + 1 / 2) : (ofSecondsFloat x).nanos ≤ limit := by
  rw [ofSecondsFloat, parts]
  rw [number] at below
  rcases e with k | k
  · rw [Int.ofNat_eq_natCast, zpow_natCast] at below
    have less : ((m * 2 ^ k * 1000000000 : Nat) : ℚ) < (limit + 1 : Nat) := by
      push_cast
      linarith
    exact Nat.le_of_lt_succ (Nat.cast_lt.mp less)
  · have scale : (0 : ℚ) < 2 ^ (k + 1) := pow_pos two_pos _
    rw [zpow_negSucc, ← div_eq_mul_inv, div_mul_eq_mul_div, div_lt_iff₀ scale] at below
    have less : ((2 * (m * 1000000000) : Nat) : ℚ) < ((2 * limit + 1) * 2 ^ (k + 1) : Nat) := by
      push_cast
      linarith
    exact roundHalfEven_le (Nat.cast_lt.mp less)

/-- A double that is below the seconds of a duration stands for fewer nanoseconds, or is rounded to
as many. -/
theorem lt_of_not_secondsOf_le {d : Duration} {x : Float} {v : ℚ}
    (inside : d.seconds < Duration.bound) (is : Is x v) (less : ¬ secondsOf d ≤ x) :
    v * 1000000000 < d.nanos + 1 / 2 := by
  obtain ⟨whole, part, sum, p, p', near, nonneg, close, is_sum, near_sum⟩ := secondsOf_is d
  rw [Nat.mod_eq_of_lt inside] at near
  have below_sum : v < sum := lt_of_not_ge fun above => less (is_sum.le is above)
  have below : v < whole + part := lt_of_not_ge fun above =>
    not_le_of_gt below_sum (near_sum.le_of_le is.holdable above)
  have nanos : (d.nanos : ℚ) = 1000000000 * d.seconds + d.subNanos := by
    exact_mod_cast (Nat.div_add_mod d.nanos 1000000000).symm
  have tiny : (2 : ℚ) ^ (-54 : Int) * 1000000000 < 1 / 2 := by norm_num
  by_cases exactly : d.seconds < 2 ^ 53
  · have whole_le : whole ≤ d.seconds := near.le_of_le
      ⟨d.seconds, 0, exactly, by decide, by rw [number, zpow_zero, mul_one]⟩ (le_refl _)
    linarith
  · -- Here doubles are whole numbers, so that the part of a second is lost.
    by_contra above
    have subNanos : (d.subNanos : ℚ) ≤ 999999999 := by
      exact_mod_cast Nat.le_of_lt_succ (Nat.mod_lt d.nanos (by decide))
    have more : (d.seconds : ℚ) < v := by
      have some_part : (0 : ℚ) ≤ d.subNanos := Nat.cast_nonneg _
      linarith
    have whole_le : whole ≤ v := near.le_of_le is.holdable more.le
    have large : (2 : ℚ) ^ (53 : Int) ≤ d.seconds := by exact_mod_cast Nat.le_of_not_lt exactly
    obtain ⟨m, e, canonical, rfl⟩ := is.exists_canonical (by linarith [two_zpow_pos 53])
    have long : 1 ≤ e := by
      have bits := (number_lt_iff e).mpr canonical.fits
      rw [number_two_pow] at bits
      have order : (53 : Int) < e + (53 : Nat) := of_zpow_lt ((large.trans_lt more).trans bits)
      omega
    have full := canonical.full.resolve_right fun same => by omega
    have unit : (1 : ℚ) ≤ 2 ^ (e - 1) := one_le_zpow₀ one_le_two (by omega)
    have close' : whole + part < number m e + 2 ^ (e - 1) := by linarith
    have rounded := near_sum.le_of_lt_half canonical.fits full canonical.least close'
    linarith

theorem delay_le (retry : Retry) (inside : retry.maxDelay.seconds < Duration.bound)
    (attempt : Nat) : (retry.delay attempt).nanos ≤ retry.maxDelay.nanos := by
  have unsigned : HasNoSign (secondsOf retry.initialDelay *
      power retry.growth (min attempt maxExponent)) :=
    (secondsOf_hasNoSign _).mul (powerFrom_hasNoSign _ _ one_is.hasNoSign retry.growth_hasNoSign)
  rw [delay]
  generalize secondsOf retry.initialDelay * power retry.growth (min attempt maxExponent) = seconds
    at unsigned ⊢
  split
  · exact Nat.le_refl _
  · next short =>
    simp only [Bool.or_eq_true, Bool.not_eq_eq_eq_not, Bool.not_true, decide_eq_true_eq, not_or,
      Bool.not_eq_false] at short
    obtain ⟨negative, lowest, m, e, parts, is⟩ := unsigned.is_of_isFinite short.1
    exact ofSecondsFloat_le parts (lt_of_not_secondsOf_le inside is short.2)

end Switchboard.Retry
