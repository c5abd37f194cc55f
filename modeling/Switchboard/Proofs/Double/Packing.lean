import Switchboard.Decimal.Binary
import Switchboard.Proofs.Double.Shifting

set_option autoImplicit false

namespace Switchboard.Double

open Float.Model Float.Model.UnpackedFloat

/-- What is positive, or no number at all. -/
def Unsigned : UnpackedFloat → Prop
  | .notANumber => True
  | .infinity sign | .zero sign | .finite sign _ _ _ => sign = .positive

theorem unsigned_unpack {bits : BitVec 64}
    (clear : @unpackSign Format.binary64 bits = Sign.positive.toBitVec) :
    Unsigned (UnpackedFloat.unpack Format.binary64 bits) := by
  have positive : Sign.ofBitVec (@unpackSign Format.binary64 bits) = .positive := by
    rw [clear]
    rfl
  rw [UnpackedFloat.unpack]
  split
  · split
    · exact positive
    · trivial
  · split
    · split
      · exact positive
      · exact positive
    · exact positive

theorem Unsigned.unpack_pack {x : UnpackedFloat} (unsigned : Unsigned x) :
    Unsigned (UnpackedFloat.unpack Format.binary64 (UnpackedFloat.pack Format.binary64 x)) := by
  apply unsigned_unpack
  cases x with
  | notANumber => exact unpackSign_packComponents ..
  | infinity sign | zero sign =>
    obtain rfl : sign = .positive := unsigned
    exact unpackSign_packComponents ..
  | finite sign m e pos =>
    obtain rfl : sign = .positive := unsigned
    rw [UnpackedFloat.pack]
    dsimp only
    split
    · exact unpackSign_packComponents ..
    · split <;> exact unpackSign_packComponents ..

def storedExponent (bits : Nat) : Nat := bits / 4503599627370496 % 2048

/-- The significand that bits hold, without the bit that is not stored. -/
def storedSignificand (bits : Nat) : Nat := bits % 4503599627370496

def held (bits : Nat) : ℚ :=
  if storedExponent bits = 0 then number (storedSignificand bits) (-1074)
  else number (4503599627370496 + storedSignificand bits) (storedExponent bits - 1075)

section Bits

variable (bits : BitVec 64)

theorem unpackExponent_toNat :
    (@unpackExponent Format.binary64 bits).toNat = storedExponent bits.toNat := by
  change (bits.extractLsb 62 52).toNat = _
  rw [BitVec.extractLsb_toNat, Nat.shiftRight_eq_div_pow]
  rfl

theorem unpackMantissa_toNat :
    (@unpackMantissa Format.binary64 bits).toNat = storedSignificand bits.toNat := by
  change (bits.extractLsb 51 0).toNat = _
  rw [BitVec.extractLsb_toNat]
  rfl

end Bits

theorem leading_bit {kept : BitVec 52} :
    (1#1 ++ kept).toNat = 4503599627370496 + kept.toNat := by
  rw [BitVec.toNat_append]
  exact (Nat.shiftLeft_add_eq_or_of_lt kept.isLt 1).symm

theorem storedExponent_ne_most {bits : BitVec 64}
    (finite : (UnpackedFloat.unpack Format.binary64 bits).isFinite = true) :
    storedExponent bits.toNat ≠ 2047 := by
  intro most
  have all_set : @unpackExponent Format.binary64 bits = -(.ofNat _ 1) :=
    BitVec.eq_of_toNat_eq ((unpackExponent_toNat bits).trans most)
  rw [UnpackedFloat.unpack, if_pos all_set] at finite
  split at finite <;> cases finite

section Significand

variable {sign : Sign} {e : Int}

theorem stands_small {m : Nat} {pos : 0 < m} (positive : sign = .positive)
    (short : m < 4503599627370496) (least : e = -1074) :
    Stands .positive (.finite sign m e pos) (number m (-1074)) := by
  subst positive least
  exact .finite pos ⟨by omega, le_rfl, .inr rfl⟩

theorem stands_full {kept : BitVec 52} {pos : 0 < (1#1 ++ kept).toNat}
    (positive : sign = .positive) (least : -1074 ≤ e) :
    Stands .positive (.finite sign (1#1 ++ kept).toNat e pos)
      (number (4503599627370496 + kept.toNat) e) := by
  subst positive
  rw [← leading_bit]
  refine .finite pos ⟨?_, least, .inl ?_⟩
  · rw [leading_bit]
    omega
  · rw [leading_bit]
    omega

end Significand

/-- A finite double without a sign stands for the number that its bits hold. -/
theorem stands_held {bits : BitVec 64}
    (unsigned : Unsigned (UnpackedFloat.unpack Format.binary64 bits))
    (finite : (UnpackedFloat.unpack Format.binary64 bits).isFinite = true) :
    Stands .positive (UnpackedFloat.unpack Format.binary64 bits) (held bits.toNat) := by
  have exponent := unpackExponent_toNat bits
  have significand := unpackMantissa_toNat bits
  have short : storedSignificand bits.toNat < 4503599627370496 := Nat.mod_lt _ (by decide)
  have some_less : @unpackExponent Format.binary64 bits ≠ -(.ofNat _ 1) :=
    fun all => storedExponent_ne_most finite (exponent.symm.trans (congrArg BitVec.toNat all))
  rw [UnpackedFloat.unpack, if_neg some_less] at unsigned ⊢
  rw [held]
  by_cases none_set : @unpackExponent Format.binary64 bits = .ofNat _ 0
  · have least : storedExponent bits.toNat = 0 :=
      exponent.symm.trans (congrArg BitVec.toNat none_set)
    rw [if_pos none_set] at unsigned ⊢
    rw [if_pos least]
    by_cases zero : @unpackMantissa Format.binary64 bits = .ofNat _ 0
    · have nothing : storedSignificand bits.toNat = 0 :=
        significand.symm.trans (congrArg BitVec.toNat zero)
      rw [dif_pos zero] at unsigned ⊢
      have positive : Sign.ofBitVec (@unpackSign Format.binary64 bits) = .positive := unsigned
      rw [nothing, number, Nat.cast_zero, zero_mul, positive]
      exact .zero
    · rw [dif_neg zero] at unsigned ⊢
      rw [← significand]
      refine stands_small unsigned (by rwa [significand]) ?_
      rw [exponent, least]
      rfl
  · have more : storedExponent bits.toNat ≠ 0 := by
      rw [← exponent]
      exact fun none => none_set (BitVec.eq_of_toNat_eq none)
    rw [if_neg none_set] at unsigned ⊢
    rw [if_neg more, ← significand, ← exponent]
    refine stands_full unsigned ?_
    change -1074 ≤ ((@unpackExponent Format.binary64 bits).toNat : Int) - (1023 + 52)
    omega

theorem finite_congr {sign : Sign} {m n : Nat} {e f : Int} {pos : 0 < m} {pos' : 0 < n}
    (significand : m = n) (exponent : e = f) :
    UnpackedFloat.finite sign m e pos = .finite sign n f pos' := by
  subst significand exponent
  rfl

theorem unpack_full {stored : BitVec 11} {kept : BitVec 52} (some_set : stored ≠ 0#11)
    (some_less : stored ≠ -1#11) (pos : 0 < (1#1 ++ kept).toNat) :
    UnpackedFloat.unpack Format.binary64 (packComponents Format.binary64 .positive stored kept) =
      .finite .positive (1#1 ++ kept).toNat (stored.toNat - (1023 + 52)) pos := by
  simp only [UnpackedFloat.unpack, unpackMantissa_packComponents, unpackExponent_packComponents,
    unpackSign_packComponents, if_neg some_set, if_neg some_less]
  rfl

theorem unpack_least {kept : BitVec 52} (pos : 0 < kept.toNat) :
    UnpackedFloat.unpack Format.binary64 (packComponents Format.binary64 .positive 0#11 kept) =
      .finite .positive kept.toNat (-1074) pos := by
  have some_bit : kept ≠ 0#52 := by
    rintro rfl
    exact absurd pos (by decide)
  simp only [UnpackedFloat.unpack, unpackMantissa_packComponents, unpackExponent_packComponents,
    unpackSign_packComponents, dif_neg some_bit]
  rfl

theorem Canonical.exponent_lt {m : Nat} {e : Int} (canonical : Canonical m e)
    (moderate : number m e < 2 ^ (1023 : Int)) : e < 971 := by
  rcases canonical.full with full | same
  · have low := (number_le_iff e).mpr full
    rw [number_two_pow] at low
    have order : e + (52 : Nat) < 1023 := of_zpow_lt (lt_of_le_of_lt low moderate)
    omega
  · omega

theorem pack_finite {m : Nat} {e : Int} (pos : 0 < m) (below : e < 971) :
    UnpackedFloat.pack Format.binary64 (.finite .positive m e pos) =
      packComponents Format.binary64 .positive
        (if m.log2 = 52 then BitVec.ofNat 11 (e + 1023 + 52).toNat else 0#11)
        (BitVec.ofNat 52 m) := by
  have room : ¬ 2 ^ Format.binary64.exponentBits ≤ (e + Format.binary64.exponentBias +
      Format.binary64.mantissaBitsWithoutImplicit).toNat + 1 := by
    change ¬ 2048 ≤ (e + 1023 + 52).toNat + 1
    omega
  have same : m.log2 + 1 = Format.binary64.mantissaBits ↔ m.log2 = 52 := by
    change m.log2 + 1 = 53 ↔ _
    omega
  rw [UnpackedFloat.pack]
  dsimp only
  rw [if_neg room]
  by_cases bits : m.log2 = 52
  · rw [if_pos (same.mpr bits), if_pos bits]
    rfl
  · rw [if_neg (mt same.mp bits), if_neg bits]

theorem Stands.unpack_pack {x : UnpackedFloat} {v : ℚ} (stands : Stands .positive x v)
    (moderate : v < 2 ^ (1023 : Int)) :
    UnpackedFloat.unpack Format.binary64 (UnpackedFloat.pack Format.binary64 x) = x := by
  cases stands with
  | zero => rfl
  | @finite m e pos canonical =>
    have fits := canonical.fits
    have least := canonical.least
    have below := canonical.exponent_lt moderate
    rw [pack_finite pos below]
    by_cases full : 2 ^ 52 ≤ m
    · rw [if_pos ((Nat.log2_eq_iff pos.ne').mpr ⟨full, fits⟩)]
      have stored : (BitVec.ofNat 11 (e + 1023 + 52).toNat).toNat = (e + 1023 + 52).toNat := by
        rw [BitVec.toNat_ofNat]
        omega
      refine (unpack_full ?_ ?_ ?_).trans (finite_congr ?_ ?_)
      · intro none
        have zero := stored.symm.trans (congrArg BitVec.toNat none)
        change (e + 1023 + 52).toNat = 0 at zero
        omega
      · intro all
        have most := stored.symm.trans (congrArg BitVec.toNat all)
        change (e + 1023 + 52).toNat = 2047 at most
        omega
      · rw [leading_bit]
        omega
      · rw [leading_bit, BitVec.toNat_ofNat]
        omega
      · rw [stored]
        omega
    · rw [if_neg ((Nat.log2_lt pos.ne').mpr (Nat.lt_of_not_le full)).ne]
      have kept : (BitVec.ofNat 52 m).toNat = m := by
        rw [BitVec.toNat_ofNat]
        omega
      refine (unpack_least (kept.symm ▸ pos)).trans (finite_congr kept ?_)
      exact (canonical.full.resolve_left full).symm

theorem classify_held {x : Float} (apart : storedExponent x.toBits.toNat ≠ 2047) :
    ∃ negative lowest m e, Decimal.classify x = .finite ⟨negative, m, e, lowest⟩ ∧
      held x.toBits.toNat = number m e := by
  rw [Decimal.classify, held, ← storedExponent, ← storedSignificand, if_neg apart]
  split
  · exact ⟨_, _, _, _, rfl, rfl⟩
  · exact ⟨_, _, _, _, rfl, rfl⟩

end Switchboard.Double
