import Geocoding.Decimal.Layout
import Geocoding.Proofs.Decimal.Powers
import Geocoding.Proofs.Decimal.Shortest

/-!
# The range of written doubles

The digits written of a double make a decimal that rounds to it, so it is not above the
midpoint behind the double.  For all finite doubles but the largest one that midpoint is
below the largest double.
-/

namespace Geocoding.Decimal

open Float.Model Float.Model.UnpackedFloat

/-- What a positive decimal stands for. -/
def Digits.magnitude (number : Digits) : ℚ := number.digits * 10 ^ number.exponent

theorem zpow_mul_pow_toNat_neg (base : ℚ) (positive : 0 < base) (exponent : Int) :
    base ^ exponent * base ^ (-exponent).toNat = base ^ exponent.toNat := by
  rw [← zpow_natCast, ← zpow_natCast, ← zpow_add₀ positive.ne']
  congr 1
  omega

namespace Binary

variable {number : Binary}

theorem magnitude_le_of_covers {found : Digits}
    (covered : number.covers found.exponent found.digits = true) :
    found.magnitude ≤ size (4 * number.significand + 2) (number.exponent - 2) := by
  have scaled : found.digits *
        (2 ^ (-(number.exponent - 2)).toNat * 10 ^ found.exponent.toNat) ≤
      (4 * number.significand + 2) *
        (2 ^ (number.exponent - 2).toNat * 10 ^ (-found.exponent).toNat) := by
    unfold covers at covered
    simp only [unit] at covered
    split at covered <;> rw [Bool.and_eq_true] at covered
    · exact of_decide_eq_true covered.2
    · exact (of_decide_eq_true covered.2).le
  have binary := zpow_mul_pow_toNat_neg 2 (by norm_num) (number.exponent - 2)
  have decimal := zpow_mul_pow_toNat_neg 10 (by norm_num) found.exponent
  rw [Digits.magnitude, size]
  generalize number.exponent - 2 = place at *
  refine le_of_mul_le_mul_right ?_
    (show (0 : ℚ) < 2 ^ (-place).toNat * 10 ^ (-found.exponent).toNat by positivity)
  calc (found.digits : ℚ) * 10 ^ found.exponent *
        (2 ^ (-place).toNat * 10 ^ (-found.exponent).toNat)
      = found.digits * (2 ^ (-place).toNat * 10 ^ found.exponent.toNat) := by
        rw [← decimal]
        ring
    _ ≤ (4 * number.significand + 2 : Nat) *
        (2 ^ place.toNat * 10 ^ (-found.exponent).toNat) := by exact_mod_cast scaled
    _ = (4 * number.significand + 2 : Nat) * 2 ^ place *
        (2 ^ (-place).toNat * 10 ^ (-found.exponent).toNat) := by
        rw [← binary]
        ring

/-- The shortest digits of a number make a decimal below the largest double, if the
midpoint behind the number is below it. -/
theorem magnitude_shortest_le (bits : number.significand < 2 ^ 53)
    (below : size (4 * number.significand + 2) (number.exponent - 2) ≤ largestDecimal) :
    number.shortest.magnitude ≤ largestDecimal := by
  rcases number.shortest_cases with covered | fallback
  · exact (magnitude_le_of_covers covered).trans below
  · rw [fallback, Digits.magnitude, zpow_zero, mul_one, Nat.cast_le]
    have large : 2 ^ 53 ≤ largestDecimal := by decide +kernel
    exact bits.le.trans large

end Binary

def largestBits : Nat := 0x7FEFFFFFFFFFFFFF

theorem size_largestDecimal : size (2 ^ 54 - 3) 970 = largestDecimal := by
  have scaled := size_mul_two_pow (2 ^ 54 - 3) 970 0
  rw [zero_add] at scaled
  exact scaled.symm.trans (by rw [size, zpow_zero, mul_one]; rfl)

theorem midpoint_le {significand : Nat} {exponent : Int} (bits : significand < 2 ^ 53)
    (low : exponent ≤ 970) : size (4 * significand + 2) (exponent - 2) ≤ largestDecimal :=
  calc size (4 * significand + 2) (exponent - 2)
      ≤ size (2 ^ 53 * 2 ^ 2) (exponent - 2) := size_le_size (by omega) _
    _ = size (2 ^ 53) exponent := by rw [size_mul_two_pow]; simp
    _ ≤ size (2 ^ 53) 970 := size_le_size_of_le low _
    _ ≤ size (2 ^ 54 - 3) 970 := size_le_size (by decide) _
    _ = largestDecimal := size_largestDecimal

theorem magnitude_shortest_single {bits : Nat} {number : Binary} (below : bits < 2 ^ 31)
    (decoded : Format.single.decode? bits = some number) :
    number.shortest.magnitude ≤ largestDecimal := by
  have cases := Format.decode?_cases decoded
  simp only [Format.single] at cases
  have bounds : number.significand < 2 ^ 53 ∧ number.exponent ≤ 970 := by omega
  exact Binary.magnitude_shortest_le bounds.1 (midpoint_le bounds.1 bounds.2)

/-- The shortest digits of a double below the largest one make a decimal below it. -/
theorem magnitude_shortest_double {bits : Nat} {number : Binary} (below : bits < largestBits)
    (decoded : Format.double.decode? bits = some number) :
    number.shortest.magnitude ≤ largestDecimal := by
  have cases := Format.decode?_cases decoded
  simp only [Format.double] at cases
  rw [largestBits] at below
  have short : number.significand < 2 ^ 53 := by omega
  refine Binary.magnitude_shortest_le short ?_
  obtain ⟨subnormal, -, significand, exponent⟩ | ⟨normal, significand, exponent⟩ := cases
  · exact midpoint_le short (by omega)
  · by_cases top : bits / 2 ^ 52 = 2046
    · rw [significand, exponent, top]
      calc size (4 * (2 ^ 52 + bits % 2 ^ 52) + 2) (-1074 + ((2046 : Nat) - 1) - 2)
          = size (2 * (2 * (2 ^ 52 + bits % 2 ^ 52) + 1)) (970 - 1) := by
            congr 1
            omega
        _ = size (2 * (2 ^ 52 + bits % 2 ^ 52) + 1) 970 := size_two_mul _ _
        _ ≤ size (2 ^ 54 - 3) 970 := size_le_size (by omega) _
        _ = largestDecimal := size_largestDecimal
    · exact midpoint_le short (by omega)

theorem bits_le_of_isFinite {value : Float} (finite : value.isFinite = true) :
    value.toBits.toNat % 2 ^ 63 ≤ largestBits := by
  have field : (@unpackExponent Format.binary64 value.toModel.toBits.toBitVec).toNat =
      value.toBits.toNat / 2 ^ 52 % 2 ^ 11 := by
    change (BitVec.extractLsb 62 52 value.toModel.toBits.toBitVec).toNat = _
    rw [BitVec.extractLsb_toNat, Nat.shiftRight_eq_div_pow]
    rfl
  have notTop : value.toBits.toNat / 2 ^ 52 % 2 ^ 11 ≠ 2047 := by
    intro top
    have exponent : @unpackExponent Format.binary64 value.toModel.toBits.toBitVec =
        -1#11 := BitVec.eq_of_toNat_eq (field.trans top)
    change (UnpackedFloat.unpack Format.binary64 value.toModel.toBits.toBitVec).isFinite = true
      at finite
    rw [UnpackedFloat.unpack] at finite
    simp only [exponent, if_true] at finite
    split at finite <;> cases finite
  rw [largestBits]
  omega

end Geocoding.Decimal
