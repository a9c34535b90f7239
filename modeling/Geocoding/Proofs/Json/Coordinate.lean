import Geocoding.Proofs.Decimal.Exact
import Geocoding.Proofs.Json.Spelling

/-!
# Coordinates as numbers and as strings

A coordinate in a string is the double nearest to its decimal.  A coordinate that is a number is
rounded up to three times on its way, so it is the same double only if the first two roundings
change nothing: if it is a whole number of 64 bits, or if its digits have 53 bits and its power
of ten is at most the 22nd.
-/

namespace Geocoding

namespace Decimal

/-- Digits of 64 bits with a small power of ten are well within the range of doubles. -/
theorem nearestDouble_of_small {digits : Nat} {place : Int} (positive : 0 < digits)
    (bits : digits < 2 ^ 64) (small : place.natAbs ≤ 22) :
    nearestDouble digits place =
      if 0 ≤ place then Float.ofScientific digits false place.toNat
      else Float.ofScientific digits true (-place).toNat := by
  have few : (Nat.toDigits 10 digits).length ≤ 20 := by
    rw [Nat.length_toDigits_le_iff (by decide) (by decide)]
    exact bits.trans (by decide)
  unfold nearestDouble
  dsimp only
  rw [if_neg (by omega), if_neg (by omega)]

theorem nearestDouble_zero (place : Int) : nearestDouble 0 place = Float.ofNat 0 := by
  rw [nearestDouble, if_pos (.inl rfl)]
  rfl

theorem nearestDouble_whole {digits : Nat} (bits : digits < 2 ^ 64) :
    nearestDouble digits 0 = Float.ofNat digits := by
  rcases Nat.eq_zero_or_pos digits with rfl | positive
  · exact nearestDouble_zero 0
  · rw [nearestDouble_of_small positive bits (by decide)]
    rfl

end Decimal

namespace Json.Literal

open Decimal (nearestDouble largestDecimal)

/-- The decimal is rounded only once when it is valued as a number. -/
def Exact (literal : Literal) : Prop :=
  literal.digits = 0 ∨ (literal.digits < 2 ^ 64 ∧ literal.place = 0) ∨
    (literal.digits < 2 ^ 53 ∧ literal.place.natAbs ≤ 22)

instance (literal : Literal) : Decidable literal.Exact :=
  inferInstanceAs (Decidable (_ ∨ _))

theorem Exact.digits_lt {literal : Literal} (exact : literal.Exact) : literal.digits < 2 ^ 64 := by
  rcases exact with zero | ⟨bits, -⟩ | ⟨short, -⟩
  · omega
  · exact bits
  · omega

/-! ## Scaling that rounds once -/

theorem scale_natCast {significand power : Nat} (bits : significand < 2 ^ 64)
    (small : power ≤ 308) (le : significand * 10 ^ power ≤ largestDecimal) :
    scale (Float.ofNat significand) power = .ok (Float.ofNat significand * powerOfTen power) := by
  obtain ⟨result, scaled⟩ := exists_scale_ofNat bits power fun _ => le
  have taken := scaled
  rw [scale, if_pos (by omega), if_pos (by omega)] at taken
  dsimp only at taken
  split at taken
  · cases taken
  · rw [scaled, ← Except.ok.inj taken]
    rfl

theorem scale_of_neg (value : Float) {exponent : Int} (negative : exponent < 0)
    (small : exponent.natAbs ≤ 308) :
    scale value exponent = .ok (value / powerOfTen (-exponent).toNat) := by
  rw [scale, if_pos small, if_neg (by omega)]

theorem scale_zero (exponent : Int) : scale (Float.ofNat 0) exponent = .ok (Float.ofNat 0) := by
  rw [scale]
  split
  · next small =>
    split
    · next notNegative =>
      dsimp only
      rw [Decimal.zero_mul_powerOfTen (by omega), if_neg (by decide)]
    · rw [Decimal.zero_div_powerOfTen (by omega)]
  · rw [if_pos (by decide)]

theorem scale_ofNat_zero {significand : Nat} (positive : 0 < significand)
    (bits : significand < 2 ^ 64) :
    scale (Float.ofNat significand) 0 = .ok (Float.ofNat significand) := by
  have within : significand * 10 ^ 0 ≤ largestDecimal := by
    rw [pow_zero, Nat.mul_one]
    exact bits.le.trans (by decide +kernel)
  have product := scale_natCast bits (by decide) within
  rw [Decimal.ofNat_mul_powerOfTen_zero positive bits] at product
  exact product

theorem scale_short {digits : Nat} {place : Int} (positive : 0 < digits) (short : digits < 2 ^ 53)
    (small : place.natAbs ≤ 22) :
    scale (Float.ofNat digits) place = .ok (nearestDouble digits place) := by
  rw [Decimal.nearestDouble_of_small positive (by omega) small]
  rcases lt_or_ge place 0 with negative | notNegative
  · rw [if_neg (by omega), scale_of_neg _ negative (by omega),
      Decimal.ofScientific_eq_div positive short (by omega)]
  · obtain ⟨power, rfl⟩ := Int.eq_ofNat_of_zero_le notNegative
    have within : digits * 10 ^ power ≤ largestDecimal :=
      calc digits * 10 ^ power
          ≤ 2 ^ 53 * 10 ^ 22 :=
            Nat.mul_le_mul short.le (Nat.pow_le_pow_right (by decide) (by omega))
        _ ≤ largestDecimal := by decide +kernel
    rw [if_pos notNegative, scale_natCast (by omega) (by omega) within, Int.toNat_natCast,
      Decimal.ofScientific_eq_mul positive short (by omega)]

theorem scale_of_exact {literal : Literal} (exact : literal.Exact) :
    scale (Float.ofNat literal.digits) literal.place =
      .ok (nearestDouble literal.digits literal.place) := by
  unfold Exact at exact
  generalize literal.digits = digits at *
  generalize literal.place = place at *
  rcases Nat.eq_zero_or_pos digits with rfl | positive
  · rw [scale_zero, Decimal.nearestDouble_zero]
  · obtain zero | ⟨bits, rfl⟩ | ⟨short, small⟩ := exact
    · omega
    · rw [scale_ofNat_zero positive bits, Decimal.nearestDouble_whole bits]
    · exact scale_short positive short small

/-! ## Values -/

/-- The decimal that a literal spells out, rounded to a double on the way a number takes. -/
theorem toDouble_of_exact {literal : Literal} (exact : literal.Exact) :
    literal.toDouble = .ok literal.nearest := by
  rw [toDouble_eq, leading_of_lt exact.digits_lt, Nat.cast_zero, zero_add, scale_of_exact exact]
  rfl

theorem toDouble_whole {literal : Literal} (noFraction : literal.fraction.isNone = true)
    (noExponent : literal.exponent.isNone = true)
    (bits : Decimal.ofDigits literal.whole < 2 ^ 64) :
    literal.toDouble = .ok (if literal.negative then -Float.ofNat (Decimal.ofDigits literal.whole)
      else Float.ofNat (Decimal.ofDigits literal.whole)) := by
  obtain ⟨negative, whole, fraction, exponent⟩ := literal
  obtain rfl := Option.isNone_iff_eq_none.mp noFraction
  obtain rfl := Option.isNone_iff_eq_none.mp noExponent
  have digits : Literal.digits ⟨negative, whole, none, none⟩ = Decimal.ofDigits whole := by
    rw [Literal.digits, Option.getD_none, List.append_nil]
  have exact : Literal.Exact ⟨negative, whole, none, none⟩ :=
    .inr (.inl ⟨digits ▸ bits, rfl⟩)
  rw [toDouble_of_exact exact, nearest, digits]
  change Except.ok (if negative then -nearestDouble _ 0 else nearestDouble _ 0) = _
  rw [Decimal.nearestDouble_whole bits]

theorem toDouble_value (literal : Literal) :
    literal.value.map Number.toDouble = literal.toDouble := by
  unfold value
  dsimp only
  split
  · next natural =>
    obtain ⟨noFraction, noExponent, notNegative, bits⟩ := natural
    rw [toDouble_whole noFraction noExponent bits, if_neg notNegative]
    rfl
  split
  · next negative =>
    obtain ⟨noFraction, noExponent, isNegative, -, bits⟩ := negative
    rw [toDouble_whole noFraction noExponent (lt_of_le_of_lt bits (by decide)), if_pos isNegative]
    rfl
  · cases literal.toDouble <;> rfl

end Json.Literal

namespace Json

variable {depth : Nat} {value : Float}

theorem readCoordinate_number {literal : Literal} :
    (Shape.leaf .coordinate).read depth (.number literal.value (.ok ())) = .ok value ↔
      literal.toDouble = .ok value := by
  rw [← literal.toDouble_value]
  change Leaf.readCoordinate depth (.number literal.value (.ok ())) = .ok value ↔ _
  cases literal.value with
  | error fault => exact iff_of_false nofun nofun
  | ok number =>
    change Except.ok number.toDouble = .ok value ↔ Except.ok number.toDouble = .ok value
    rw [Except.ok.injEq, Except.ok.injEq]

theorem readCoordinate_string {text : String} :
    (Shape.leaf .coordinate).read depth (.string (.ok text) (.ok ())) =
      Leaf.parseCoordinate text := by
  change ((Node.string (.ok text) (.ok ())).keep depth >>= fun _ => Leaf.parseCoordinate text) = _
  generalize Leaf.parseCoordinate text = parsed
  rfl

end Json

end Geocoding
