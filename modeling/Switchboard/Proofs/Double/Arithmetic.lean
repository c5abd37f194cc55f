import Switchboard.Proofs.Double.Operations
import Switchboard.Proofs.Double.Packing

set_option autoImplicit false

namespace Switchboard.Double

open Float.Model Float.Model.UnpackedFloat

section Unpacked

variable {a b : UnpackedFloat} {v w : ℚ}

theorem Stands.unsigned (stands : Stands .positive a v) : Unsigned a := by
  cases stands with
  | zero => rfl
  | finite pos canonical => rfl

theorem Stands.exists_canonical (stands : Stands .positive a v) (pos : 0 < v) :
    ∃ m e, Canonical m e ∧ v = number m e := by
  cases stands with
  | zero => exact absurd pos (lt_irrefl _)
  | finite _ canonical => exact ⟨_, _, canonical, rfl⟩

theorem number_lt_of_exponent_lt {m n : Nat} {e f : Int} (first : Canonical m e)
    (second : Canonical n f) (less : e < f) : number m e < number n f := by
  have full : 2 ^ 52 ≤ n := second.full.resolve_right fun same => by
    have least := first.least
    omega
  calc number m e < number (2 ^ 53) e := (number_lt_iff e).mpr first.fits
    _ = 2 ^ (e + (53 : Nat)) := number_two_pow 53 e
    _ ≤ 2 ^ (f + (52 : Nat)) := zpow_le (by omega)
    _ = number (2 ^ 52) f := (number_two_pow 52 f).symm
    _ ≤ number n f := (number_le_iff f).mpr full

theorem Stands.le (first : Stands .positive a v) (second : Stands .positive b w) (order : v ≤ w) :
    UnpackedFloat.le a b = true := by
  cases first with
  | zero => cases second <;> rfl
  | @finite m e pos canonical =>
    cases second with
    | zero =>
      have some_bit : (0 : ℚ) < number m e := mul_pos (by exact_mod_cast pos) (two_zpow_pos e)
      exact absurd order (not_le.mpr some_bit)
    | @finite n f pos' canonical' =>
      change (some ((compare e f).then (compare m n))).any (·.isLE) = true
      rcases lt_trichotomy e f with less | rfl | more
      · rw [compare_lt_iff_lt.mpr less]
        rfl
      · rw [compare_eq_iff_eq.mpr rfl]
        rw [number_le_iff] at order
        change (compare m n).isLE = true
        rwa [Nat.isLE_compare]
      · exact absurd order (not_le.mpr (number_lt_of_exponent_lt canonical' canonical more))

theorem unsigned_roundWithAccuracy (significand : Nat) (exponent : Int) (accuracy : Accuracy) :
    Unsigned (roundWithAccuracy Format.binary64 .positive significand exponent accuracy) := by
  rw [roundWithAccuracy]
  dsimp only
  split <;> rfl

theorem Unsigned.mul (first : Unsigned a) (second : Unsigned b) :
    Unsigned (UnpackedFloat.mul Format.binary64 a b) := by
  cases a with
  | notANumber => trivial
  | infinity sign =>
    obtain rfl : sign = .positive := first
    cases b with
    | notANumber | zero => trivial
    | infinity sign | finite sign =>
      obtain rfl : sign = .positive := second
      rfl
  | zero sign =>
    obtain rfl : sign = .positive := first
    cases b with
    | notANumber | infinity => trivial
    | zero sign | finite sign =>
      obtain rfl : sign = .positive := second
      rfl
  | finite sign m e pos =>
    obtain rfl : sign = .positive := first
    cases b with
    | notANumber => trivial
    | infinity sign | zero sign =>
      obtain rfl : sign = .positive := second
      rfl
    | finite sign n f pos' =>
      obtain rfl : sign = .positive := second
      exact unsigned_roundWithAccuracy ..

end Unpacked

/-- A double is a number that is not negative. -/
def Is (x : Float) (v : ℚ) : Prop := Stands .positive x.toModel.unpack v

/-- A double is positive, or no number at all. -/
def HasNoSign (x : Float) : Prop := Unsigned x.toModel.unpack

variable {x y : Float} {v w q : ℚ} {power : Int}

theorem Near.moderate (near : Near q v power) (small : q ≤ 2 ^ (1000 : Int)) :
    v < 2 ^ (1023 : Int) := by
  have bound : Holdable (2 ^ (1000 : Int)) :=
    ⟨1, 1000, by decide, by decide, by rw [number, Nat.cast_one, one_mul]⟩
  exact lt_of_le_of_lt (near.le_of_le bound small) (zpow_lt_zpow_right₀ one_lt_two (by decide))

theorem is_of_pack {u : UnpackedFloat} (stands : Stands .positive u v) (near : Near q v power)
    (small : q ≤ 2 ^ (1000 : Int)) : Is ⟨Float.Model.pack u⟩ v := by
  have same : (Float.Model.pack u).unpack = u := stands.unpack_pack (near.moderate small)
  rwa [Is, same]

namespace Is

theorem nonneg (is : Is x v) : 0 ≤ v := Stands.nonneg is

theorem holdable (is : Is x v) : Holdable v := Stands.holdable is

theorem exists_canonical (is : Is x v) (pos : 0 < v) : ∃ m e, Canonical m e ∧ v = number m e :=
  Stands.exists_canonical is pos

theorem hasNoSign (is : Is x v) : HasNoSign x := Stands.unsigned is

theorem le (first : Is x v) (second : Is y w) (order : v ≤ w) : x ≤ y :=
  decide_eq_true (Stands.le first second order)

theorem add (first : Is x v) (second : Is y w) (small : v + w ≤ 2 ^ (1000 : Int)) :
    ∃ sum power, Is (x + y) sum ∧ Near (v + w) sum power := by
  obtain ⟨sum, power, stands, near⟩ := add_near first second
  exact ⟨sum, power, is_of_pack stands near small, near⟩

theorem div (first : Is x v) (second : Is y w) (some_y : w ≠ 0) (small : v / w ≤ 2 ^ (1000 : Int)) :
    ∃ quotient power, Is (x / y) quotient ∧ Near (v / w) quotient power := by
  obtain ⟨quotient, power, stands, near⟩ := div_near first second some_y
  exact ⟨quotient, power, is_of_pack stands near small, near⟩

theorem ofUInt64 (n : UInt64) : ∃ v power, Is n.toFloat v ∧ Near n.toNat v power := by
  obtain ⟨v, power, stands, near⟩ := ofNat_near n.toNat
  refine ⟨v, power, is_of_pack stands near ?_, near⟩
  calc (n.toNat : ℚ) ≤ (2 : ℚ) ^ (64 : Int) := by exact_mod_cast n.toNat_lt.le
    _ ≤ 2 ^ (1000 : Int) := zpow_le (by decide)

end Is

namespace HasNoSign

theorem mul (first : HasNoSign x) (second : HasNoSign y) : HasNoSign (x * y) :=
  (Unsigned.mul first second).unpack_pack

/-- A finite double without a sign is a number, and its parts are those of the number. -/
theorem is_of_isFinite (unsigned : HasNoSign x) (finite : x.isFinite = true) :
    ∃ negative lowest m e, Decimal.classify x = .finite ⟨negative, m, e, lowest⟩ ∧
      Is x (number m e) := by
  obtain ⟨negative, lowest, m, e, parts, same⟩ := classify_held (storedExponent_ne_most finite)
  exact ⟨negative, lowest, m, e, parts, same ▸ stands_held unsigned finite⟩

end HasNoSign

end Switchboard.Double
