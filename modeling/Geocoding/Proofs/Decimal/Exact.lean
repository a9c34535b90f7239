import Geocoding.Decimal.Reading
import Geocoding.Proofs.Decimal.Powers

/-!
# Products that are rounded once

The digits of a decimal and its power of ten are rounded to doubles of their own before they are
multiplied or divided.  Digits of 53 bits and powers of ten up to the 22nd are doubles
themselves, so of the three roundings only the last one changes anything, and what comes of it is
the double nearest to the decimal.
-/

namespace Geocoding.Decimal

open Float.Model Float.Model.UnpackedFloat
open Json.Literal (powerOfTen)

/-! ## Multiplication by one -/

theorem roundedShift_mul_two_pow (mantissa count : Nat) :
    roundedShift (mantissa * 2 ^ count) count = mantissa := by
  apply le_antisymm
  · apply roundedShift_le
    have : 0 < 2 ^ count := Nat.two_pow_pos count
    linarith
  · refine le_trans (le_of_eq ?_) (div_le_roundedShift _ _)
    rw [Nat.mul_div_cancel _ (Nat.two_pow_pos count)]

/-- A double from one up with its sign, as it is packed. -/
def IsPacked (value : Float) : Prop :=
  ∃ sign mantissa exponent positive, FromOne mantissa exponent ∧
    value = .ofModel (.pack (.finite sign mantissa exponent positive))

theorem isPacked_pack {bound : ℚ} {value : UnpackedFloat} (atMost : IsAtMost bound value) :
    IsPacked (.ofModel (.pack value)) := by
  obtain ⟨sign, mantissa, exponent, positive, rfl, double, -⟩ := atMost
  exact ⟨sign, mantissa, exponent, positive, double, rfl⟩

theorem finite_congr (sign : Sign) {mantissa other : Nat} {exponent otherExponent : Int}
    {positive : 0 < mantissa} {alsoPositive : 0 < other} (same : mantissa = other)
    (place : exponent = otherExponent) :
    UnpackedFloat.finite sign mantissa exponent positive =
      .finite sign other otherExponent alsoPositive := by
  subst same
  subst place
  rfl

theorem roundWithAccuracy_mul_two_pow (sign : Sign) {mantissa : Nat} {exponent : Int}
    (positive : 0 < mantissa) (double : FromOne mantissa exponent) :
    roundWithAccuracy Format.binary64 sign (mantissa * 2 ^ 52) (exponent + -52) .exact =
      .finite sign mantissa exponent positive := by
  obtain ⟨least, most, above, -⟩ := double
  have bits : mantissa.log2 = 52 := (Nat.log2_eq_iff (by omega)).mpr ⟨least, most⟩
  have shifted : (mantissa * 2 ^ 52).log2 = 104 :=
    (Nat.log2_eq_iff (by omega)).mpr ⟨by omega, by omega⟩
  have kept : roundedShift (mantissa * 2 ^ 52) ((mantissa * 2 ^ 52).log2 - 52) = mantissa := by
    rw [shifted]
    exact roundedShift_mul_two_pow mantissa 52
  have long : 2 ^ 52 ≤ mantissa * 2 ^ 52 := by omega
  obtain ⟨_, rounded⟩ := roundWithAccuracy_exact sign long
    (show 0 ≤ ((mantissa * 2 ^ 52).log2 : Int) + (exponent + -52) by omega)
  refine rounded.trans (finite_congr sign ?_ ?_)
  · rw [kept, bits, Nat.sub_self, pow_zero, Nat.div_one]
  · rw [kept, bits, shifted]
    omega

theorem IsPacked.mul_one {value : Float} (packed : IsPacked value) :
    value * .ofBits 0x3FF0000000000000 = value := by
  obtain ⟨sign, mantissa, exponent, positive, double, rfl⟩ := packed
  change Float.ofModel (.pack (UnpackedFloat.mul Format.binary64
    (UnpackedFloat.unpack Format.binary64 (UnpackedFloat.pack Format.binary64 _))
    (.finite .positive (2 ^ 52) (-52) (by decide)))) = _
  rw [unpack_pack positive double]
  have product := roundWithAccuracy_mul_two_pow sign positive double
  cases sign <;> exact congrArg (fun value => Float.ofModel (.pack value)) product

/-! ## Whole numbers -/

theorem lt_midpoint_two_pow {number : Nat} (bits : number < 2 ^ 64) :
    (number : ℚ) < size (2 * 2 ^ 52 + 1) (12 - 1) :=
  calc (number : ℚ)
      < 2 ^ 64 := by exact_mod_cast bits
    _ = size (2 ^ 52) 12 := by norm_num [size]
    _ < size (2 * 2 ^ 52 + 1) (12 - 1) := size_lt_midpoint _ _

theorem fromOne_two_pow : FromOne (2 ^ 52) 12 := by decide

theorem isPacked_toFloat {number : Nat} (positive : 0 < number) (short : number < 2 ^ 53) :
    IsPacked number.toUInt64.toFloat := by
  have exact : number.toUInt64.toNat = number := by
    rw [UInt64.toNat_ofNat']
    omega
  have bounded := isAtMost_ofNat positive fromOne_two_pow (lt_midpoint_two_pow (by omega))
  rw [← exact] at bounded
  exact isPacked_pack bounded

theorem ofNat_eq_toFloat {number : Nat} (positive : 0 < number) (short : number < 2 ^ 53) :
    Float.ofNat number = number.toUInt64.toFloat := by
  change Float.ofScientific number false 0 = _
  rw [Float.ofScientific, dif_pos ⟨short, by decide⟩]
  exact (isPacked_toFloat positive short).mul_one

theorem isPacked_ofNat {number : Nat} (positive : 0 < number) (bits : number < 2 ^ 64) :
    IsPacked (Float.ofNat number) := by
  by_cases short : number < 2 ^ 53
  · rw [ofNat_eq_toFloat positive short]
    exact isPacked_toFloat positive short
  · have bounded := isAtMost_ofScientific 0 positive (by decide) fromOne_two_pow
      (by simpa using lt_midpoint_two_pow bits)
    change IsPacked (Float.ofScientific number false 0)
    rw [Float.ofScientific, dif_neg (by omega)]
    exact isPacked_pack bounded

theorem ofNat_mul_powerOfTen_zero {number : Nat} (positive : 0 < number)
    (bits : number < 2 ^ 64) : Float.ofNat number * powerOfTen 0 = Float.ofNat number := by
  have one : powerOfTen 0 = .ofBits 0x3FF0000000000000 := by decide +kernel
  rw [one]
  exact (isPacked_ofNat positive bits).mul_one

/-! ## Short decimals -/

/-- The powers of ten that are doubles are those that short decimals are multiplied by. -/
theorem powerOfTen_eq_getElem :
    ∀ power : Fin 23, powerOfTen power = Float.exactlyRepresentablePowersOfTen[power] := by
  decide +kernel

/-- A short decimal with a small power of ten is rounded once, as a product. -/
theorem ofScientific_eq_mul {number power : Nat} (positive : 0 < number)
    (short : number < 2 ^ 53) (small : power ≤ 22) :
    Float.ofScientific number false power = Float.ofNat number * powerOfTen power := by
  have exact := powerOfTen_eq_getElem ⟨power, by omega⟩
  rw [Float.ofScientific, dif_pos ⟨short, small⟩, ofNat_eq_toFloat positive short, exact]
  rfl

theorem ofScientific_eq_div {number power : Nat} (positive : 0 < number)
    (short : number < 2 ^ 53) (small : power ≤ 22) :
    Float.ofScientific number true power = Float.ofNat number / powerOfTen power := by
  have exact := powerOfTen_eq_getElem ⟨power, by omega⟩
  rw [Float.ofScientific, dif_pos ⟨short, small⟩, ofNat_eq_toFloat positive short, exact]
  rfl

/-! ## Zero -/

theorem sign_roundWithAccuracy {sign found : Sign} {mantissa significand : Nat}
    {exponent place : Int} {accuracy : Accuracy} {positive : 0 < significand}
    (rounded : roundWithAccuracy Format.binary64 sign mantissa exponent accuracy =
      .finite found significand place positive) : found = sign := by
  unfold roundWithAccuracy at rounded
  dsimp only at rounded
  split at rounded
  · cases rounded
  · cases rounded
    rfl

def isPositive : UnpackedFloat → Bool
  | .finite .positive _ _ _ => true
  | _ => false

theorem exists_of_isPositive {value : UnpackedFloat} (positive : isPositive value = true) :
    ∃ mantissa exponent nonzero, value = .finite .positive mantissa exponent nonzero := by
  unfold isPositive at positive
  split at positive
  · exact ⟨_, _, _, rfl⟩
  · cases positive

theorem isPositive_powerOfTen {power : Nat} (small : power ≤ 308) :
    isPositive (powerOfTen power).toModel.unpack = true := by
  by_cases exact : power ≤ 22
  · have known : ∀ power : Fin 23, isPositive (powerOfTen power).toModel.unpack = true := by
      decide +kernel
    exact known ⟨power, by omega⟩
  · obtain ⟨sign, mantissa, exponent, positive, rounded, double, -⟩ :=
      isAtMost_ofScientific power (show 0 < 1 by decide) small (fits_of_le power small).2.1
        (by rw [Nat.one_mul]; exact lt_midpoint_nearestParts _)
    have sameSign : sign = .positive := by
      rw [UnpackedFloat.ofScientific, dif_neg (by decide), if_neg (by norm_num; omega),
        if_neg (by norm_num; omega), if_pos (Int.natCast_nonneg power)] at rounded
      exact sign_roundWithAccuracy rounded
    subst sameSign
    change isPositive (Float.ofScientific 1 false power).toModel.unpack = true
    rw [Float.ofScientific, dif_neg (by omega)]
    change isPositive (UnpackedFloat.unpack Format.binary64 (UnpackedFloat.pack Format.binary64
      (UnpackedFloat.ofScientific Format.binary64 1 power))) = true
    rw [rounded, unpack_pack positive double]
    rfl

theorem unpack_ofNat_zero : (Float.ofNat 0).toModel.unpack = .zero .positive :=
  rfl

theorem zero_mul_powerOfTen {power : Nat} (small : power ≤ 308) :
    Float.ofNat 0 * powerOfTen power = Float.ofNat 0 := by
  obtain ⟨mantissa, exponent, positive, unpacked⟩ :=
    exists_of_isPositive (isPositive_powerOfTen small)
  change Float.ofModel (.pack (UnpackedFloat.mul Format.binary64 (Float.ofNat 0).toModel.unpack
    (powerOfTen power).toModel.unpack)) = _
  rw [unpacked, unpack_ofNat_zero]
  rfl

theorem zero_div_powerOfTen {power : Nat} (small : power ≤ 308) :
    Float.ofNat 0 / powerOfTen power = Float.ofNat 0 := by
  obtain ⟨mantissa, exponent, positive, unpacked⟩ :=
    exists_of_isPositive (isPositive_powerOfTen small)
  change Float.ofModel (.pack (UnpackedFloat.div Format.binary64 (Float.ofNat 0).toModel.unpack
    (powerOfTen power).toModel.unpack)) = _
  rw [unpacked, unpack_ofNat_zero]
  rfl

end Geocoding.Decimal
