import Geocoding.Proofs.Decimal.Rounding
import Mathlib

/-!
# Products of doubles

Doubles are kept packed into 64 bits, and each operation unpacks them, rounds its result and
packs it again.  A double from one up is packed without loss, so the bounds of two of them
bound their product.
-/

namespace Geocoding.Decimal

open Float.Model Float.Model.UnpackedFloat

theorem toNat_implicit_append (fraction : BitVec 52) :
    (1#1 ++ fraction).toNat = 2 ^ 52 + fraction.toNat := by
  rw [BitVec.toNat_append, ← Nat.shiftLeft_add_eq_or_of_lt fraction.isLt]
  rfl

theorem unpack_pack {sign : Sign} {mantissa : Nat} {exponent : Int} (positive : 0 < mantissa)
    (double : FromOne mantissa exponent) :
    UnpackedFloat.unpack Format.binary64
        (UnpackedFloat.pack Format.binary64 (.finite sign mantissa exponent positive)) =
      .finite sign mantissa exponent positive := by
  obtain ⟨least, most, above, below⟩ := double
  have bits : mantissa.log2 = 52 := (Nat.log2_eq_iff (by omega)).mpr ⟨least, most⟩
  obtain ⟨biased, known⟩ : ∃ biased : Nat, exponent = biased - 1075 :=
    ⟨(exponent + 1075).toNat, by omega⟩
  have field : (exponent + (Format.binary64.exponentBias : Nat) +
      (Format.binary64.mantissaBitsWithoutImplicit : Nat)).toNat = biased := by
    change (exponent + (1023 : Nat) + (52 : Nat)).toNat = biased
    omega
  have exponentField : (BitVec.ofNat 11 biased).toNat = biased := by
    rw [BitVec.toNat_ofNat, Nat.mod_eq_of_lt (by omega)]
  have notTop : BitVec.ofNat 11 biased ≠ -1#11 := fun top => by
    have := congrArg BitVec.toNat top
    rw [exponentField] at this
    change biased = 2047 at this
    omega
  have notZero : BitVec.ofNat 11 biased ≠ 0#11 := fun zero => by
    have := congrArg BitVec.toNat zero
    rw [exponentField] at this
    change biased = 0 at this
    omega
  have significand : (1#1 ++ BitVec.ofNat 52 mantissa).toNat = mantissa := by
    rw [toNat_implicit_append, BitVec.toNat_ofNat]
    omega
  have packed : UnpackedFloat.pack Format.binary64 (.finite sign mantissa exponent positive) =
      packComponents Format.binary64 sign (BitVec.ofNat 11 biased) (BitVec.ofNat 52 mantissa) := by
    rw [UnpackedFloat.pack]
    dsimp only
    rw [field, if_neg, if_pos]
    · rw [bits]
      rfl
    · omega
  rw [packed, UnpackedFloat.unpack]
  simp only [unpackMantissa_packComponents, unpackExponent_packComponents,
    unpackSign_packComponents, Sign.ofBitVec_toBitVec]
  rw [if_neg notTop, if_neg notZero]
  congr 1
  rw [exponentField, known]
  rfl

/-- A double from one up to a bound, its sign aside. -/
def AtMost (bound : ℚ) (value : Float) : Prop :=
  IsAtMost bound value.toModel.unpack

theorem atMost_pack {bound : ℚ} {value : UnpackedFloat} (atMost : IsAtMost bound value) :
    AtMost bound (.ofModel (.pack value)) := by
  obtain ⟨sign, mantissa, exponent, positive, rfl, double, small⟩ := atMost
  exact ⟨sign, mantissa, exponent, positive, unpack_pack positive double, double, small⟩

theorem AtMost.isInf_eq_false {bound : ℚ} {value : Float} (atMost : AtMost bound value) :
    value.isInf = false := by
  obtain ⟨sign, mantissa, exponent, positive, unpacked, -, -⟩ := atMost
  change value.toModel.unpack.isInf = false
  rw [unpacked]
  rfl

theorem FromOne.one_le_size {mantissa : Nat} {exponent : Int}
    (double : FromOne mantissa exponent) : 1 ≤ size mantissa exponent :=
  calc (1 : ℚ)
      ≤ 2 ^ (((52 : Nat) : Int) + exponent) :=
        one_le_zpow₀ (by norm_num) (by have := double.above; omega)
    _ = size (2 ^ 52) exponent := (size_two_pow _ _).symm
    _ ≤ size mantissa exponent := size_le_size double.least _

/-- The product of two numbers is rounded to no more than a double if their bounds have a
product below the midpoint behind it. -/
theorem isAtMost_mul {first second : UnpackedFloat} {firstBound secondBound : ℚ} {bound : Nat}
    {exponent : Int} (firstAtMost : IsAtMost firstBound first)
    (secondAtMost : IsAtMost secondBound second) (double : FromOne bound exponent)
    (close : firstBound * secondBound < size (2 * bound + 1) (exponent - 1)) :
    IsAtMost (size bound exponent) (UnpackedFloat.mul Format.binary64 first second) := by
  obtain ⟨_, mantissa, place, _, rfl, firstDouble, firstSmall⟩ := firstAtMost
  obtain ⟨_, other, otherPlace, _, rfl, secondDouble, secondSmall⟩ := secondAtMost
  have firstLarge := firstDouble.one_le_size
  have secondLarge := secondDouble.one_le_size
  have product := size_mul_size mantissa other place otherPlace
  refine isAtMost_roundWithAccuracy _ ?_ ?_ double ?_
  · have := firstDouble.least
    have := secondDouble.least
    nlinarith
  · rw [← product]
    exact one_le_mul_of_one_le_of_one_le firstLarge secondLarge
  · rw [← product]
    refine lt_of_le_of_lt ?_ close
    exact mul_le_mul firstSmall secondSmall (by linarith) (by linarith)

theorem atMost_mul {first second : Float} {firstBound secondBound : ℚ} {bound : Nat}
    {exponent : Int} (firstAtMost : AtMost firstBound first)
    (secondAtMost : AtMost secondBound second) (double : FromOne bound exponent)
    (close : firstBound * secondBound < size (2 * bound + 1) (exponent - 1)) :
    AtMost (size bound exponent) (first * second) :=
  atMost_pack (isAtMost_mul firstAtMost secondAtMost double close)

/-! ## Whole numbers -/

theorem atMost_one : AtMost (size (2 ^ 52) (-52)) (.ofBits 0x3FF0000000000000) :=
  atMost_pack ⟨.positive, 2 ^ 52, -52, by decide, rfl, ⟨by decide, by decide, by decide, by decide⟩,
    le_refl _⟩

theorem isAtMost_ofNat {number bound : Nat} {exponent : Int} (positive : 0 < number)
    (double : FromOne bound exponent)
    (close : (number : ℚ) < size (2 * bound + 1) (exponent - 1)) :
    IsAtMost (size bound exponent) (UnpackedFloat.ofNat Format.binary64 number) := by
  have normal : UnpackedFloat.ofNat Format.binary64 number =
      UnpackedFloat.round Format.binary64 .positive number 0 := by
    have above : compare (number : Int) 0 = .gt := Int.compare_eq_gt.mpr (by omega)
    rw [UnpackedFloat.ofNat, UnpackedFloat.ofInt, UnpackedFloat.normalize, above]
    rfl
  have target : Format.binary64.targetExponent (totalExponent number 0) =
      (number.log2 : Int) - 52 := by
    simp only [Format.targetExponent, totalExponent, Format.mantissaBits, Format.minExponent]
    omega
  have shifted : size (number * 2 ^ (0 - ((number.log2 : Int) - 52)).toNat)
      (0 - (0 - ((number.log2 : Int) - 52)).toNat) = number := by
    rw [size_mul_two_pow, sub_add_cancel]
    simp [size]
  rw [normal, UnpackedFloat.round, target]
  simp only [decreaseExponent, Nat.shiftLeft_eq]
  refine isAtMost_roundWithAccuracy _ ?_ ?_ double ?_
  · have front : 2 ^ number.log2 ≤ number := Nat.log2_self_le (by omega)
    calc 2 ^ 52
        ≤ 2 ^ (number.log2 + (0 - ((number.log2 : Int) - 52)).toNat) :=
          Nat.pow_le_pow_right (by decide) (by omega)
      _ = 2 ^ number.log2 * 2 ^ (0 - ((number.log2 : Int) - 52)).toNat := pow_add _ _ _
      _ ≤ number * 2 ^ (0 - ((number.log2 : Int) - 52)).toNat := Nat.mul_le_mul_right _ front
  · rw [shifted]
    exact_mod_cast positive
  · rw [shifted]
    exact close

theorem isAtMost_ofScientific {digits bound : Nat} (power : Nat) {exponent : Int}
    (positive : 0 < digits) (small : power ≤ 308) (double : FromOne bound exponent)
    (close : ((digits * 10 ^ power : Nat) : ℚ) < size (2 * bound + 1) (exponent - 1)) :
    IsAtMost (size bound exponent) (UnpackedFloat.ofScientific Format.binary64 digits power) := by
  have shifted : size (digits * 2 ^ Format.binary64.mantissaBits * 10 ^ power)
      (-(Format.binary64.mantissaBits : Int)) = (digits * 10 ^ power : Nat) := by
    rw [Nat.mul_right_comm, size_mul_two_pow, neg_add_cancel]
    simp [size]
  have notLarge : ¬ (power : Int) > 2 ^ 11 := by norm_num; omega
  have notSmall : ¬ (power : Int) < -((2 ^ 11 : Int) + digits.log2) := by norm_num; omega
  rw [UnpackedFloat.ofScientific, dif_neg (by omega), if_neg notLarge, if_neg notSmall,
    if_pos (Int.natCast_nonneg power)]
  simp only [UnpackedFloat.mul, Int.toNat_natCast, Nat.shiftLeft_eq, add_zero]
  have tens : 0 < 10 ^ power := by positivity
  refine isAtMost_roundWithAccuracy _ ?_ ?_ double ?_
  · have bits : 2 ^ 52 ≤ 2 ^ Format.binary64.mantissaBits := by decide
    calc 2 ^ 52
        ≤ digits * 2 ^ Format.binary64.mantissaBits := by nlinarith
      _ ≤ digits * 2 ^ Format.binary64.mantissaBits * 10 ^ power := Nat.le_mul_of_pos_right _ tens
  · rw [shifted]
    exact_mod_cast Nat.mul_pos positive tens
  · rw [shifted]
    exact close

theorem atMost_ofNat {number bound : Nat} {exponent : Int} (positive : 0 < number)
    (double : FromOne bound exponent)
    (close : (number : ℚ) < size (2 * bound + 1) (exponent - 1)) :
    AtMost (size bound exponent) (Float.ofNat number) := by
  change AtMost _ (Float.ofScientific number false 0)
  rw [Float.ofScientific]
  split
  · next small =>
    have exact : number.toUInt64.toNat = number := by
      rw [UInt64.toNat_ofNat']
      omega
    have rounded : AtMost (size bound exponent) number.toUInt64.toFloat := by
      refine atMost_pack ?_
      rw [UnpackedFloat.ofUInt64, exact]
      exact isAtMost_ofNat positive double close
    refine atMost_mul rounded atMost_one double ?_
    rw [show size (2 ^ 52) (-52) = 1 by norm_num [size], mul_one]
    exact size_lt_midpoint bound exponent
  · exact atMost_pack (isAtMost_ofScientific 0 positive (by decide) double
      (by simpa using close))

end Geocoding.Decimal
