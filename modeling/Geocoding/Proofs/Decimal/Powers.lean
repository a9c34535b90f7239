import Geocoding.Json.Number
import Geocoding.Proofs.Decimal.Doubles

/-!
# Powers of ten

The value of a literal is a whole number of at most 64 bits times a power of ten, each of them
rounded to a double before their product is.  The three roundings do not add up to an
infinity if the exact product stays below the largest double by a few units of its last
place; this is checked for each power of ten, with the largest whole number it allows for.
-/

namespace Geocoding.Decimal

open Float.Model Float.Model.UnpackedFloat
open Json.Literal (powerOfTen)

/-! ## The double nearest to a whole number -/

/-- The significand and the power of two of the double nearest to a whole number that is
not zero.  A carry out of the significand is left in it. -/
def nearestParts (number : Nat) : Nat × Int :=
  let gained := 52 - number.log2
  let dropped := number.log2 - 52
  ((2 * (number * 2 ^ gained) / 2 ^ dropped + 1) / 2, dropped - gained)

theorem lt_midpoint_nearestParts (number : Nat) :
    (number : ℚ) <
      size (2 * (nearestParts number).1 + 1) ((nearestParts number).2 - 1) := by
  simp only [nearestParts]
  generalize 52 - number.log2 = gained
  generalize number.log2 - 52 = dropped
  have below : 2 * (number * 2 ^ gained) <
      (2 * ((2 * (number * 2 ^ gained) / 2 ^ dropped + 1) / 2) + 1) * 2 ^ dropped := by
    rw [← Nat.div_lt_iff_lt_mul (by positivity)]
    omega
  calc (number : ℚ)
      = size (2 * (number * 2 ^ gained)) (-(gained : Int) - 1) := by
        rw [size_two_mul, size_mul_two_pow, neg_add_cancel]
        simp [size]
    _ < _ := size_lt_size_iff.mpr below
    _ = _ := by
        rw [size_mul_two_pow]
        congr 1
        omega

def parts? (value : Float) : Option (Nat × Int) :=
  match value.toModel.unpack with
  | .finite _ mantissa exponent _ => some (mantissa, exponent)
  | _ => none

theorem atMost_of_parts? {value : Float} {mantissa : Nat} {exponent : Int}
    (parts : parts? value = some (mantissa, exponent)) (double : FromOne mantissa exponent) :
    AtMost (size mantissa exponent) value := by
  unfold parts? at parts
  split at parts
  · next unpacked =>
    cases parts
    exact ⟨_, _, _, _, unpacked, double, le_refl _⟩
  · cases parts

/-! ## Products with a power of ten -/

/-- The largest decimal that is written of a double below the largest one: the midpoint
behind the last but one. -/
def largestDecimal : Nat := (2 ^ 54 - 3) * 2 ^ 970

theorem power_le_of_mul_le {significand power : Nat} (positive : 0 < significand)
    (le : significand * 10 ^ power ≤ largestDecimal) : power ≤ 308 := by
  have log : Nat.log 10 largestDecimal = 308 := by decide +kernel
  rw [← log, Nat.le_log_iff_pow_le (by decide) (by decide +kernel)]
  exact (Nat.le_mul_of_pos_left _ positive).trans le

/-- No whole number of 64 bits whose product with a power of ten is up to it is larger. -/
def largestSignificand (power : Nat) : Nat := min (2 ^ 64) (largestDecimal / 10 ^ power)

instance (mantissa : Nat) (exponent : Int) : Decidable (FromOne mantissa exponent) :=
  decidable_of_iff
    (2 ^ 52 ≤ mantissa ∧ mantissa < 2 ^ 53 ∧ -52 ≤ exponent ∧ exponent ≤ 971)
    ⟨fun ⟨least, most, above, below⟩ => ⟨least, most, above, below⟩,
      fun double => ⟨double.least, double.most, double.above, double.below⟩⟩

/-- The doubles of a power of ten and of the largest significand have a product below the
midpoint behind the largest double. -/
def Fits (power : Nat) : Prop :=
  let significand := nearestParts (largestSignificand power)
  let tens := nearestParts (10 ^ power)
  FromOne significand.1 significand.2 ∧ FromOne tens.1 tens.2 ∧
    significand.1 * tens.1 * 2 ^ (significand.2 + tens.2 + 104).toNat < (2 ^ 54 - 1) * 2 ^ 1074

instance : DecidablePred Fits := fun _ =>
  inferInstanceAs (Decidable (_ ∧ _ ∧ _))

theorem fits_of_le : ∀ power ≤ 308, Fits power := by
  decide +kernel

theorem parts?_powerOfTen :
    ∀ power ≤ 22, parts? (powerOfTen power) = some (nearestParts (10 ^ power)) := by
  decide +kernel

theorem atMost_powerOfTen {power : Nat} (small : power ≤ 308) :
    AtMost (size (nearestParts (10 ^ power)).1 (nearestParts (10 ^ power)).2)
      (powerOfTen power) := by
  have double := (fits_of_le power small).2.1
  by_cases exact : power ≤ 22
  · exact atMost_of_parts? (parts?_powerOfTen power exact) double
  · change AtMost _ (Float.ofScientific 1 false power)
    rw [Float.ofScientific, dif_neg (by omega)]
    refine atMost_pack (isAtMost_ofScientific power (by decide) small double ?_)
    rw [Nat.one_mul]
    exact lt_midpoint_nearestParts _

theorem isInf_zero_mul_powerOfTen {power : Nat} (small : power ≤ 308) :
    (Float.ofNat 0 * powerOfTen power).isInf = false := by
  obtain ⟨sign, mantissa, exponent, positive, unpacked, -, -⟩ := atMost_powerOfTen small
  change (Float.Model.pack (UnpackedFloat.mul Format.binary64 (Float.ofNat 0).toModel.unpack
    (powerOfTen power).toModel.unpack)).unpack.isInf = false
  have zero : (Float.ofNat 0).toModel.unpack = .zero .positive := rfl
  rw [unpacked, zero, UnpackedFloat.mul]
  cases sign <;> decide

/-- A whole number of at most 64 bits has a finite product with a power of ten, up to a few
units below the largest double. -/
theorem isInf_mul_powerOfTen {significand power : Nat} (positive : 0 < significand)
    (bits : significand < 2 ^ 64) (small : power ≤ 308)
    (le : significand * 10 ^ power ≤ largestDecimal) :
    (Float.ofNat significand * powerOfTen power).isInf = false := by
  obtain ⟨double, tensDouble, close⟩ := fits_of_le power small
  have least : significand ≤ largestSignificand power := by
    refine Nat.le_min.mpr ⟨by omega, ?_⟩
    rwa [Nat.le_div_iff_mul_le (by positivity)]
  have below : (significand : ℚ) < size (2 * (nearestParts (largestSignificand power)).1 + 1)
      ((nearestParts (largestSignificand power)).2 - 1) :=
    lt_of_le_of_lt (by exact_mod_cast least) (lt_midpoint_nearestParts _)
  have largest : FromOne (2 ^ 53 - 1) 971 := by decide
  refine (atMost_mul (atMost_ofNat positive double below) (atMost_powerOfTen small) largest
    ?_).isInf_eq_false
  rw [size_mul_size]
  generalize nearestParts (largestSignificand power) = significand at *
  generalize nearestParts (10 ^ power) = tens at *
  have place : (0 : Int) ≤ significand.2 + tens.2 + 104 := by
    have := double.above
    have := tensDouble.above
    omega
  calc size (significand.1 * tens.1) (significand.2 + tens.2)
      = size (significand.1 * tens.1 * 2 ^ (significand.2 + tens.2 + 104).toNat) (-104) := by
        rw [size_mul_two_pow]
        congr 1
        omega
    _ < size ((2 ^ 54 - 1) * 2 ^ 1074) (-104) := size_lt_size_iff.mpr close
    _ = size (2 * (2 ^ 53 - 1) + 1) (971 - 1) := by
        rw [size_mul_two_pow]
        rfl

end Geocoding.Decimal
