import Mathlib

/-!
# Rounding to doubles

A double from one up has a significand of 53 bits and a power of two.  Whatever lies below
the midpoint behind such a double is rounded to no more than the double.  So a product of
two doubles is finite as long as their bounds have a product below the midpoint behind the
largest double.
-/

namespace Geocoding.Decimal

open Float.Model Float.Model.UnpackedFloat

/-! ## Shifting a significand -/

theorem mantissa_shiftRight (extended : ExtendedMantissa) (count : Nat) :
    (extended >>> count).mantissa = extended.mantissa / 2 ^ count := by
  induction count with
  | zero => simp [HShiftRight.hShiftRight, Nat.repeat]
  | succ count ih =>
    change (extended >>> count).mantissa / 2 = _
    rw [ih, Nat.div_div_eq_div_mul, Nat.pow_succ]

theorem roundBit_shiftRight_succ (extended : ExtendedMantissa) (count : Nat) :
    (extended >>> (count + 1)).roundBit = (extended.mantissa / 2 ^ count % 2 != 0) := by
  change ((extended >>> count).mantissa % 2 != 0) = _
  rw [mantissa_shiftRight]

theorem mantissa_le_roundedMantissa (extended : ExtendedMantissa) :
    extended.mantissa ≤ extended.roundedMantissa := by
  obtain ⟨mantissa, roundBit, stickyBit⟩ := extended
  cases roundBit <;> cases stickyBit <;>
    simp [ExtendedMantissa.roundedMantissa, ExtendedMantissa.accuracy,
      Accuracy.roundToNearestEven]

theorem roundedMantissa_le (extended : ExtendedMantissa) :
    extended.roundedMantissa ≤ extended.mantissa + extended.roundBit.toNat := by
  obtain ⟨mantissa, roundBit, stickyBit⟩ := extended
  cases roundBit <;> cases stickyBit <;>
    simp [ExtendedMantissa.roundedMantissa, ExtendedMantissa.accuracy,
      Accuracy.roundToNearestEven]
  omega

/-- A significand that loses this many bits and is rounded. -/
def roundedShift (mantissa count : Nat) : Nat :=
  (ExtendedMantissa.ofMantissaAndAccuracy mantissa .exact >>> count).roundedMantissa

theorem div_le_roundedShift (mantissa count : Nat) :
    mantissa / 2 ^ count ≤ roundedShift mantissa count := by
  refine le_trans (le_of_eq ?_) (mantissa_le_roundedMantissa _)
  rw [mantissa_shiftRight]
  rfl

theorem roundedShift_le {mantissa count bound : Nat}
    (close : 2 * mantissa < (2 * bound + 1) * 2 ^ count) : roundedShift mantissa count ≤ bound := by
  have le := roundedMantissa_le (ExtendedMantissa.ofMantissaAndAccuracy mantissa .exact >>> count)
  rw [mantissa_shiftRight] at le
  change roundedShift mantissa count ≤ mantissa / 2 ^ count + _ at le
  cases count with
  | zero =>
    change roundedShift mantissa 0 ≤ mantissa / 2 ^ 0 + 0 at le
    simp only [pow_zero, Nat.div_one] at le close
    omega
  | succ count =>
    rw [roundBit_shiftRight_succ] at le
    change roundedShift mantissa (count + 1) ≤
      mantissa / 2 ^ (count + 1) + (mantissa / 2 ^ count % 2 != 0).toNat at le
    have halves : mantissa / 2 ^ count < 2 * bound + 1 := by
      rw [Nat.div_lt_iff_lt_mul (by positivity)]
      rw [pow_succ] at close
      linarith
    have kept : mantissa / 2 ^ (count + 1) = mantissa / 2 ^ count / 2 := by
      rw [Nat.div_div_eq_div_mul, pow_succ]
    rw [kept] at le
    have bit : (mantissa / 2 ^ count % 2 != 0).toNat = mantissa / 2 ^ count % 2 := by
      rcases Nat.mod_two_eq_zero_or_one (mantissa / 2 ^ count) with even | odd
      · simp [even]
      · simp [odd]
    rw [bit] at le
    omega

theorem shiftToTargetExponent_exact {mantissa : Nat} (exponent : Int)
    (long : 2 ^ 52 ≤ mantissa) (above : 0 ≤ mantissa.log2 + exponent) :
    shiftToTargetExponent Format.binary64 mantissa exponent .exact =
      (ExtendedMantissa.ofMantissaAndAccuracy mantissa .exact >>> (mantissa.log2 - 52),
        mantissa.log2 + exponent - 52) := by
  have bits : 52 ≤ mantissa.log2 := (Nat.le_log2 (by omega)).mpr long
  have target : Format.binary64.targetExponent (totalExponent mantissa exponent) =
      mantissa.log2 + exponent - 52 := by
    simp only [Format.targetExponent, totalExponent, Format.mantissaBits, Format.minExponent]
    omega
  have amount : (mantissa.log2 + exponent - 52 - exponent).toNat = mantissa.log2 - 52 := by omega
  rw [shiftToTargetExponent, target, shiftToExponent, amount]
  refine Prod.ext rfl ?_
  dsimp only
  omega

theorem div_two_pow_log2_bounds {mantissa : Nat} (long : 2 ^ 52 ≤ mantissa) :
    2 ^ 52 ≤ mantissa / 2 ^ (mantissa.log2 - 52) ∧
      mantissa / 2 ^ (mantissa.log2 - 52) < 2 ^ 53 := by
  have bits : 52 ≤ mantissa.log2 := (Nat.le_log2 (by omega)).mpr long
  have least : 2 ^ mantissa.log2 ≤ mantissa := Nat.log2_self_le (by omega)
  have most : mantissa < 2 ^ (mantissa.log2 + 1) := Nat.lt_log2_self
  constructor
  · rw [Nat.le_div_iff_mul_le (by positivity), ← pow_add]
    rwa [Nat.add_sub_cancel' bits]
  · rw [Nat.div_lt_iff_lt_mul (by positivity), ← pow_add]
    rwa [show 53 + (mantissa.log2 - 52) = mantissa.log2 + 1 by omega]

/-- A significand that is long enough is rounded to 53 bits. -/
theorem roundWithAccuracy_exact (sign : Sign) {mantissa : Nat} {exponent : Int}
    (long : 2 ^ 52 ≤ mantissa) (above : 0 ≤ mantissa.log2 + exponent) :
    let rounded := roundedShift mantissa (mantissa.log2 - 52)
    ∃ positive, roundWithAccuracy Format.binary64 sign mantissa exponent .exact =
      .finite sign (rounded / 2 ^ (rounded.log2 - 52))
        (rounded.log2 + (mantissa.log2 + exponent - 52) - 52) positive := by
  intro rounded
  have bits : 52 ≤ mantissa.log2 := (Nat.le_log2 (by omega)).mpr long
  have kept : 2 ^ 52 ≤ rounded :=
    le_trans (div_two_pow_log2_bounds long).1 (div_le_roundedShift _ _)
  have keptBits : 52 ≤ rounded.log2 := (Nat.le_log2 (by omega)).mpr kept
  have bounds := div_two_pow_log2_bounds kept
  rw [roundWithAccuracy, shiftToTargetExponent_exact exponent long above]
  dsimp only
  have carried := shiftToTargetExponent_exact (mantissa.log2 + exponent - 52) kept
    (by omega)
  have final : (shiftToTargetExponent Format.binary64 rounded
      (mantissa.log2 + exponent - 52) .exact).1.mantissa = rounded / 2 ^ (rounded.log2 - 52) := by
    rw [carried]
    exact mantissa_shiftRight _ _
  have finalExponent : (shiftToTargetExponent Format.binary64 rounded
      (mantissa.log2 + exponent - 52) .exact).2 =
        rounded.log2 + (mantissa.log2 + exponent - 52) - 52 := by
    rw [carried]
  refine ⟨by omega, ?_⟩
  refine (dif_neg (final.symm ▸ by omega)).trans ?_
  congr 1

/-! ## Doubles from one up -/

/-- What a significand with a power of two stands for. -/
def size (mantissa : Nat) (exponent : Int) : ℚ := mantissa * 2 ^ exponent

structure FromOne (mantissa : Nat) (exponent : Int) : Prop where
  least : 2 ^ 52 ≤ mantissa
  most : mantissa < 2 ^ 53
  above : -52 ≤ exponent
  below : exponent ≤ 971

/-- A number that is unpacked as a double from one up to a bound, its sign aside. -/
def IsAtMost (bound : ℚ) (value : UnpackedFloat) : Prop :=
  ∃ sign mantissa exponent positive, value = .finite sign mantissa exponent positive ∧
    FromOne mantissa exponent ∧ size mantissa exponent ≤ bound

theorem size_le_size {mantissa other : Nat} (le : mantissa ≤ other) (exponent : Int) :
    size mantissa exponent ≤ size other exponent :=
  mul_le_mul_of_nonneg_right (by exact_mod_cast le) (by positivity)

theorem size_le_size_of_le {exponent other : Int} (le : exponent ≤ other) (mantissa : Nat) :
    size mantissa exponent ≤ size mantissa other :=
  mul_le_mul_of_nonneg_left (zpow_le_zpow_right₀ (by norm_num) le) (by positivity)

theorem size_lt_size_iff {mantissa other : Nat} {exponent : Int} :
    size mantissa exponent < size other exponent ↔ mantissa < other := by
  rw [size, size, mul_lt_mul_iff_left₀ (by positivity)]
  norm_cast

theorem size_two_pow (count : Nat) (exponent : Int) :
    size (2 ^ count) exponent = 2 ^ (count + exponent) := by
  rw [size, zpow_add₀ (by norm_num)]
  norm_cast

theorem size_mul_two_pow (mantissa count : Nat) (exponent : Int) :
    size (mantissa * 2 ^ count) exponent = size mantissa (exponent + count) := by
  rw [size, size, zpow_add₀ (by norm_num)]
  push_cast
  rw [zpow_natCast]
  ring

theorem size_two_mul (mantissa : Nat) (exponent : Int) :
    size (2 * mantissa) (exponent - 1) = size mantissa exponent := by
  have shifted := size_mul_two_pow mantissa 1 (exponent - 1)
  rwa [pow_one, mul_comm, Nat.cast_one, sub_add_cancel] at shifted

/-- A double lies below the midpoint behind it. -/
theorem size_lt_midpoint (mantissa : Nat) (exponent : Int) :
    size mantissa exponent < size (2 * mantissa + 1) (exponent - 1) := by
  rw [← size_two_mul]
  exact size_lt_size_iff.mpr (Nat.lt_succ_self _)

theorem size_mul_size (first second : Nat) (firstExponent secondExponent : Int) :
    size first firstExponent * size second secondExponent =
      size (first * second) (firstExponent + secondExponent) := by
  rw [size, size, size, zpow_add₀ (by norm_num)]
  push_cast
  ring

theorem two_zpow_lt_iff {first second : Int} : (2 : ℚ) ^ first < 2 ^ second ↔ first < second :=
  zpow_lt_zpow_iff_right₀ (by norm_num)

theorem two_zpow_log2_le_size {mantissa : Nat} (positive : mantissa ≠ 0) (exponent : Int) :
    2 ^ (mantissa.log2 + exponent) ≤ size mantissa exponent := by
  rw [← size_two_pow]
  exact size_le_size (Nat.log2_self_le positive) exponent

theorem size_roundedShift_le {mantissa bound : Nat} {exponent boundExponent : Int}
    (long : 2 ^ 52 ≤ mantissa) (double : FromOne bound boundExponent)
    (close : size mantissa exponent < size (2 * bound + 1) (boundExponent - 1)) :
    size (roundedShift mantissa (mantissa.log2 - 52)) (mantissa.log2 + exponent - 52) ≤
      size bound boundExponent := by
  have bits : 52 ≤ mantissa.log2 := (Nat.le_log2 (by omega)).mpr long
  have below : size (2 * bound + 1) (boundExponent - 1) < 2 ^ (54 + (boundExponent - 1)) := by
    have most := double.most
    refine lt_of_lt_of_eq (size_lt_size_iff.mpr ?_) (size_two_pow 54 _)
    omega
  have place : mantissa.log2 + exponent - 52 ≤ boundExponent := by
    have reach := lt_of_le_of_lt (two_zpow_log2_le_size (by omega) exponent) (close.trans below)
    have := two_zpow_lt_iff.mp reach
    omega
  rcases place.lt_or_eq with lower | same
  · have rounded : roundedShift mantissa (mantissa.log2 - 52) ≤ 2 ^ 53 := by
      refine roundedShift_le ?_
      have most := (div_two_pow_log2_bounds long).2
      rw [Nat.div_lt_iff_lt_mul (by positivity)] at most
      linarith [Nat.two_pow_pos (mantissa.log2 - 52)]
    calc size (roundedShift mantissa (mantissa.log2 - 52)) (mantissa.log2 + exponent - 52)
        ≤ size (2 ^ 53) (mantissa.log2 + exponent - 52) := size_le_size rounded _
      _ = 2 ^ (53 + (mantissa.log2 + exponent - 52)) := size_two_pow _ _
      _ ≤ 2 ^ (52 + boundExponent) := zpow_le_zpow_right₀ (by norm_num) (by omega)
      _ = size (2 ^ 52) boundExponent := (size_two_pow _ _).symm
      _ ≤ size bound boundExponent := size_le_size double.least _
  · rw [same]
    refine size_le_size (roundedShift_le ?_) _
    have shifted := size_mul_two_pow (2 * bound + 1) (mantissa.log2 - 52) (exponent - 1)
    rw [show exponent - 1 + ((mantissa.log2 - 52 : Nat) : Int) = boundExponent - 1 by omega]
      at shifted
    rw [← size_two_mul, ← shifted] at close
    exact size_lt_size_iff.mp close

/-- A number of at least 53 bits is rounded to no more than a double if it lies below the
midpoint behind it. -/
theorem isAtMost_roundWithAccuracy (sign : Sign) {mantissa bound : Nat}
    {exponent boundExponent : Int} (long : 2 ^ 52 ≤ mantissa) (above : 1 ≤ size mantissa exponent)
    (double : FromOne bound boundExponent)
    (close : size mantissa exponent < size (2 * bound + 1) (boundExponent - 1)) :
    IsAtMost (size bound boundExponent)
      (roundWithAccuracy Format.binary64 sign mantissa exponent .exact) := by
  have notSmall : 0 ≤ mantissa.log2 + exponent := by
    have reach : size mantissa exponent < 2 ^ (((mantissa.log2 + 1 : Nat) : Int) + exponent) :=
      lt_of_lt_of_eq (size_lt_size_iff.mpr Nat.lt_log2_self) (size_two_pow _ _)
    have positive : (2 : ℚ) ^ (0 : Int) < _ := lt_of_le_of_lt (by simpa using above) reach
    have := two_zpow_lt_iff.mp positive
    omega
  have kept : 2 ^ 52 ≤ roundedShift mantissa (mantissa.log2 - 52) :=
    le_trans (div_two_pow_log2_bounds long).1 (div_le_roundedShift _ _)
  have rounded := size_roundedShift_le long double close
  obtain ⟨positive, result⟩ := roundWithAccuracy_exact sign long notSmall
  have lowest : -52 ≤ mantissa.log2 + exponent - 52 := by omega
  generalize roundedShift mantissa (mantissa.log2 - 52) = significand at *
  generalize mantissa.log2 + exponent - 52 = place at *
  have bits : 52 ≤ significand.log2 := (Nat.le_log2 (by omega)).mpr kept
  obtain ⟨least, most⟩ := div_two_pow_log2_bounds kept
  have small : size (significand / 2 ^ (significand.log2 - 52)) (significand.log2 + place - 52) ≤
      size bound boundExponent := by
    refine le_trans ?_ rounded
    rw [show (significand.log2 : Int) + place - 52 =
      place + ((significand.log2 - 52 : Nat) : Int) by omega, ← size_mul_two_pow]
    exact size_le_size (Nat.div_mul_le_self _ _) _
  refine ⟨sign, _, _, positive, result, ⟨least, most, by omega, ?_⟩, small⟩
  have reach : (2 : ℚ) ^ (((52 : Nat) : Int) + (significand.log2 + place - 52)) <
      2 ^ (((53 : Nat) : Int) + boundExponent) := by
    rw [← size_two_pow, ← size_two_pow]
    exact lt_of_le_of_lt ((size_le_size least _).trans small)
      (size_lt_size_iff.mpr double.most)
  have := two_zpow_lt_iff.mp reach
  have := double.below
  omega

end Geocoding.Decimal
