import Geocoding.Proofs.Decimal.Range
import Geocoding.Proofs.Json.Document

/-!
# Literals within the range of doubles

A literal is valued by its leading digits, times a power of ten that makes up for the digits
left out.  So its value is finite if the decimal it spells out is not above the midpoint
behind the last but one double, and every literal written of a finite double has one.
-/

namespace Geocoding.Json

namespace Literal

open Decimal (ofDigits ofDigits_cons largestDecimal isInf_mul_powerOfTen)

/-! ## Leading digits -/

theorem takeFitting_lt {significand : Nat} (fits : significand < 2 ^ 64) (digits : List Nat) :
    (takeFitting significand digits).1 < 2 ^ 64 := by
  fun_induction takeFitting significand digits with
  | case1 significand => exact fits
  | case2 significand digit rest longer ih => exact ih longer
  | case3 significand digit rest longer => exact fits

theorem takeFitting_length_le (significand : Nat) (digits : List Nat) :
    (takeFitting significand digits).2 ≤ digits.length := by
  fun_induction takeFitting significand digits with
  | case1 significand => exact Nat.zero_le _
  | case2 significand digit rest longer ih => exact ih.trans (Nat.le_succ _)
  | case3 significand digit rest longer => exact le_refl _

theorem takeFitting_le (significand : Nat) (digits : List Nat) :
    (takeFitting significand digits).1 * 10 ^ (takeFitting significand digits).2 ≤
      significand * 10 ^ digits.length + ofDigits digits := by
  fun_induction takeFitting significand digits with
  | case1 significand => simp
  | case2 significand digit rest longer ih =>
    refine ih.trans (le_of_eq ?_)
    rw [ofDigits_cons, List.length_cons, pow_succ]
    ring
  | case3 significand digit rest longer => simp

theorem takeFitting_of_lt (significand : Nat) (digits : List Nat)
    (fits : significand * 10 ^ digits.length + ofDigits digits < 2 ^ 64) :
    takeFitting significand digits =
      (significand * 10 ^ digits.length + ofDigits digits, 0) := by
  fun_induction takeFitting significand digits with
  | case1 significand => simp [ofDigits]
  | case2 significand digit rest longer ih =>
    rw [ofDigits_cons, List.length_cons, pow_succ] at *
    rw [ih (by linarith)]
    ring_nf
  | case3 significand digit rest longer =>
    rw [ofDigits_cons, List.length_cons, pow_succ] at fits
    have : 1 ≤ 10 ^ rest.length := Nat.one_le_pow _ _ (by decide)
    exact absurd (show 10 * significand + digit < 2 ^ 64 by nlinarith) longer

theorem takeFitting_of_full {significand : Nat} (full : 2 ^ 64 ≤ 10 * significand)
    (digits : List Nat) : takeFitting significand digits = (significand, digits.length) := by
  cases digits with
  | nil => rfl
  | cons digit rest => rw [takeFitting, if_neg (by change ¬ _ < 2 ^ 64; omega), List.length_cons]

theorem takeFitting_cases (significand : Nat) (digits : List Nat) :
    takeFitting significand digits = (significand * 10 ^ digits.length + ofDigits digits, 0) ∨
      ∃ next ∈ digits, ∃ left, (takeFitting significand digits).2 = left + 1 ∧
        2 ^ 64 ≤ 10 * (takeFitting significand digits).1 + next ∧
        (10 * (takeFitting significand digits).1 + next) * 10 ^ left ≤
          significand * 10 ^ digits.length + ofDigits digits := by
  fun_induction takeFitting significand digits with
  | case1 significand => simp [ofDigits]
  | case2 significand digit rest longer ih =>
    have same : (10 * significand + digit) * 10 ^ rest.length + ofDigits rest =
        significand * 10 ^ (digit :: rest).length + ofDigits (digit :: rest) := by
      rw [ofDigits_cons, List.length_cons, pow_succ]
      ring
    rw [same] at ih
    obtain all | ⟨next, mem, others⟩ := ih
    · exact .inl all
    · exact .inr ⟨next, List.mem_cons_of_mem _ mem, others⟩
  | case3 significand digit rest longer =>
    refine .inr ⟨digit, List.mem_cons_self, rest.length, rfl, not_lt.mp longer, ?_⟩
    rw [ofDigits_cons, List.length_cons, pow_succ]
    calc (10 * significand + digit) * 10 ^ rest.length
        ≤ (10 * significand + digit) * 10 ^ rest.length + ofDigits rest := Nat.le_add_right _ _
      _ = significand * (10 ^ rest.length * 10) + (digit * 10 ^ rest.length + ofDigits rest) := by
        ring

/-- Behind a digit that does not fit, one smaller digit may be taken in its place. -/
theorem takeFitting_le_of_not_fits {significand next : Nat} (small : next < 10)
    (full : 2 ^ 64 ≤ 10 * significand + next) (digits : List Nat) :
    (takeFitting significand digits).1 * 10 ^ ((takeFitting significand digits).2 + 1) ≤
      (10 * significand + next) * 10 ^ digits.length := by
  cases digits with
  | nil =>
    change significand * 10 ^ 1 ≤ (10 * significand + next) * 1
    omega
  | cons digit rest =>
    rw [takeFitting]
    split
    · next fits =>
      have smaller : 10 * significand + digit < 2 ^ 64 := fits
      rw [takeFitting_of_full (by omega), List.length_cons]
      exact Nat.mul_le_mul_right _ (by omega)
    · rw [List.length_cons, pow_succ _ (rest.length + 1)]
      calc significand * (10 ^ (rest.length + 1) * 10)
          = 10 * significand * 10 ^ (rest.length + 1) := by ring
        _ ≤ (10 * significand + next) * 10 ^ (rest.length + 1) :=
          Nat.mul_le_mul_right _ (Nat.le_add_right _ _)

/-! ## Scaling -/

theorem exists_scale_of_neg (value : Float) {exponent : Int} (negative : exponent < 0) :
    ∃ result, scale value exponent = .ok result := by
  fun_induction scale value exponent with
  | case1 => omega
  | case2 => omega
  | case3 => exact ⟨_, rfl⟩
  | case4 => exact ⟨_, rfl⟩
  | case5 => omega
  | case6 value exponent large other below ih => exact ih (by omega)

theorem exists_scale_ofNat {significand : Nat} (bits : significand < 2 ^ 64) (exponent : Int)
    (le : 0 ≤ exponent → significand * 10 ^ exponent.toNat ≤ largestDecimal) :
    ∃ result, scale (Float.ofNat significand) exponent = .ok result := by
  rcases lt_or_ge exponent 0 with negative | notNegative
  · exact exists_scale_of_neg _ negative
  have product := le notNegative
  rw [scale]
  split
  · next small =>
    have finite : (Float.ofNat significand * powerOfTen exponent.toNat).isInf = false := by
      rcases Nat.eq_zero_or_pos significand with rfl | positive
      · exact Decimal.isInf_zero_mul_powerOfTen (by omega)
      · exact isInf_mul_powerOfTen positive bits (by omega) product
    dsimp only
    rw [finite]
    exact ⟨_, rfl⟩
  · next large =>
    have zero : significand = 0 := by
      by_contra nonzero
      have := Decimal.power_le_of_mul_le (Nat.pos_of_ne_zero nonzero) product
      omega
    rw [zero, if_pos (by decide)]
    exact ⟨_, rfl⟩

/-! ## Values -/

/-- The decimal that a literal spells out, its sign aside. -/
def magnitude (literal : Literal) : ℚ :=
  let fraction := literal.fraction.getD []
  ofDigits (literal.whole ++ fraction) * 10 ^ (literal.writtenExponent - fraction.length)

/-- Leading digits, with a power of ten that makes up for the rest of them, are not above the
decimal that all digits make. -/
theorem mul_pow_toNat_le {significand left number : Nat} {place exponent : Int}
    (leading : significand * 10 ^ left ≤ number) (shifted : exponent = left + place)
    (notNegative : 0 ≤ exponent) :
    (significand : ℚ) * 10 ^ exponent.toNat ≤ number * 10 ^ place := by
  have whole : (exponent.toNat : Int) = left + place := by omega
  calc (significand : ℚ) * 10 ^ exponent.toNat
      = (significand * 10 ^ left : Nat) * 10 ^ place := by
        rw [← zpow_natCast, whole, zpow_add₀ (by norm_num), zpow_natCast]
        push_cast
        ring
    _ ≤ number * 10 ^ place := mul_le_mul_of_nonneg_right (Nat.cast_le.mpr leading) (by positivity)

def digits (literal : Literal) : Nat :=
  ofDigits (literal.whole ++ literal.fraction.getD [])

def place (literal : Literal) : Int :=
  literal.writtenExponent - (literal.fraction.getD []).length

/-- The digits that fit into 64 bits, and how many are left out. -/
def leading (literal : Literal) : Nat × Nat :=
  let whole := takeFitting 0 literal.whole
  let all := takeFitting whole.1 (literal.fraction.getD [])
  (all.1, whole.2 + all.2)

theorem toDouble_eq (literal : Literal) :
    literal.toDouble =
      (scale (Float.ofNat literal.leading.1) (literal.leading.2 + literal.place)).map fun value =>
        if literal.negative then -value else value := by
  have leftOut := takeFitting_length_le (takeFitting 0 literal.whole).1 (literal.fraction.getD [])
  rw [toDouble, leading, place]
  dsimp only
  congr 2
  omega

theorem leading_lt (literal : Literal) : literal.leading.1 < 2 ^ 64 :=
  takeFitting_lt (takeFitting_lt (by decide) literal.whole) _

theorem leading_le {literal : Literal} (small : ∀ digit ∈ literal.whole, digit < 10) :
    literal.leading.1 * 10 ^ literal.leading.2 ≤ literal.digits := by
  have cases := takeFitting_cases 0 literal.whole
  rw [zero_mul, zero_add] at cases
  rw [digits, Decimal.ofDigits_append, leading]
  dsimp only
  generalize literal.fraction.getD [] = fraction
  obtain all | ⟨next, mem, left, leftOut, full, le⟩ := cases
  · rw [all, zero_add]
    exact takeFitting_le _ fraction
  · have behind := takeFitting_le_of_not_fits (small next mem) full fraction
    generalize takeFitting 0 literal.whole = whole at *
    generalize takeFitting whole.1 fraction = taken at *
    calc taken.1 * 10 ^ (whole.2 + taken.2)
        = taken.1 * 10 ^ (taken.2 + 1) * 10 ^ left := by rw [leftOut]; ring
      _ ≤ (10 * whole.1 + next) * 10 ^ fraction.length * 10 ^ left :=
        Nat.mul_le_mul_right _ behind
      _ = (10 * whole.1 + next) * 10 ^ left * 10 ^ fraction.length := by ring
      _ ≤ ofDigits literal.whole * 10 ^ fraction.length := Nat.mul_le_mul_right _ le
      _ ≤ ofDigits literal.whole * 10 ^ fraction.length + ofDigits fraction :=
        Nat.le_add_right _ _

theorem leading_of_lt {literal : Literal} (fits : literal.digits < 2 ^ 64) :
    literal.leading = (literal.digits, 0) := by
  rw [digits, Decimal.ofDigits_append] at *
  rw [leading]
  generalize literal.fraction.getD [] = fraction at *
  have short : ofDigits literal.whole < 2 ^ 64 := by
    have : 1 ≤ 10 ^ fraction.length := Nat.one_le_pow _ _ (by decide)
    nlinarith
  have whole := takeFitting_of_lt 0 literal.whole
  rw [zero_mul, zero_add] at whole
  rw [whole short, takeFitting_of_lt _ _ fits, Nat.zero_add]

theorem exists_toDouble {literal : Literal} (small : ∀ digit ∈ literal.whole, digit < 10)
    (le : literal.magnitude ≤ largestDecimal) :
    ∃ result, literal.toDouble = .ok result := by
  have scalable (notNegative : 0 ≤ literal.leading.2 + literal.place) :
      literal.leading.1 * 10 ^ (literal.leading.2 + literal.place).toNat ≤ largestDecimal := by
    have product := (mul_pow_toNat_le (leading_le small) rfl notNegative).trans le
    exact_mod_cast product
  obtain ⟨result, scaled⟩ := exists_scale_ofNat literal.leading_lt _ scalable
  rw [toDouble_eq, scaled]
  exact ⟨_, rfl⟩

/-- A literal has a value if the decimal it spells out is in the range of doubles. -/
theorem exists_value {literal : Literal} (small : ∀ digit ∈ literal.whole, digit < 10)
    (le : literal.magnitude ≤ largestDecimal) :
    ∃ result, literal.value = .ok result := by
  obtain ⟨result, double⟩ := exists_toDouble small le
  unfold value
  dsimp only
  split
  · exact ⟨_, rfl⟩
  split
  · exact ⟨_, rfl⟩
  rw [double]
  exact ⟨_, rfl⟩

end Literal

/-! ## Literals of doubles -/

open Decimal (Digits Format Layout digitsOf fractionOf ofDigits zeroLiteral bitsLiteral largestBits
  largestDecimal ofDigits_append ofDigits_cons ofDigits_zeros ofDigits_lt ofDigits_digitsOf)

theorem getD_fractionOf (digits : List Nat) : (fractionOf digits).getD [] = digits := by
  cases digits <;> rfl

theorem writtenExponent_signed (negative : Bool) (whole : List Nat) (fraction : Option (List Nat))
    (exponent : Int) :
    Literal.writtenExponent
      ⟨negative, whole, fraction, some (exponent < 0, digitsOf exponent.natAbs)⟩ = exponent := by
  by_cases sign : exponent < 0
  · simp only [Literal.writtenExponent, sign, decide_true, ofDigits_digitsOf]
    omega
  · simp only [Literal.writtenExponent, sign, decide_false, ofDigits_digitsOf]
    omega

theorem magnitude_literal (layout : Layout) (negative : Bool) (number : Digits) :
    (layout.literal negative number).magnitude = number.magnitude := by
  have nonempty := Decimal.length_digitsOf_pos number.digits
  have spelled := ofDigits_digitsOf number.digits
  rw [Digits.magnitude, Literal.magnitude]
  unfold Layout.literal
  dsimp only
  generalize digitsOf number.digits = digits at *
  split_ifs with scientific whole mixed
  · rw [writtenExponent_signed, getD_fractionOf, ← List.drop_one, List.take_append_drop, spelled,
      List.length_drop]
    congr 2
    omega
  · obtain ⟨count, exponent⟩ := Int.eq_ofNat_of_zero_le whole
    have zero : ofDigits [0] = 0 := rfl
    simp only [Option.getD_some, ofDigits_append, ofDigits_zeros, spelled, zero,
      List.length_replicate, Literal.writtenExponent, exponent, Int.toNat_natCast]
    push_cast
    rw [zpow_natCast]
    norm_num
    ring
  · simp only [Option.getD_some, List.take_append_drop, spelled, Literal.writtenExponent,
      List.length_drop]
    congr 2
    omega
  · simp only [Option.getD_some, List.singleton_append, ofDigits_cons, zero_mul, zero_add,
      ofDigits_append, ofDigits_zeros, spelled, Literal.writtenExponent, List.length_append,
      List.length_replicate]
    congr 2
    omega

theorem value_largest (negative : Bool) :
    (bitsLiteral .double .double negative largestBits).value =
      .ok (.real (if negative then -.ofBits largestBits.toUInt64
        else .ofBits largestBits.toUInt64)) := by
  cases negative <;> decide +kernel

/-- What is written of a number can be valued if its shortest digits are in the range of
doubles. -/
theorem exists_value_bitsLiteral {format : Format} {layout : Layout} (negative : Bool)
    {bits : Nat} (range : ∀ number, format.decode? bits = some number →
      number.shortest.magnitude ≤ largestDecimal) :
    ∃ result, (bitsLiteral format layout negative bits).value = .ok result := by
  have proper := Decimal.proper_bitsLiteral format layout negative bits
  refine Literal.exists_value proper.whole.2 ?_
  unfold bitsLiteral
  split
  · next number decoded =>
    rw [magnitude_literal]
    exact range number decoded
  · have zero : (zeroLiteral negative).magnitude = 0 := by
      norm_num [Literal.magnitude, zeroLiteral, ofDigits]
    exact zero.le.trans (Nat.cast_nonneg largestDecimal)

theorem exists_value_doubleLiteral {number : Float} (finite : number.isFinite = true) :
    ∃ result, (doubleLiteral number).value = .ok result := by
  have bits := Decimal.bits_le_of_isFinite finite
  rw [doubleLiteral]
  change ∃ result, (bitsLiteral _ _ _ (number.toBits.toNat % 2 ^ 63)).value = .ok result
  rcases bits.lt_or_eq with below | largest
  · exact exists_value_bitsLiteral _ fun _ decoded =>
      Decimal.magnitude_shortest_double below decoded
  · rw [largest]
    exact ⟨_, value_largest _⟩

theorem exists_value_singleLiteral (number : Float32) :
    ∃ result, (singleLiteral number).value = .ok result :=
  exists_value_bitsLiteral _ fun _ decoded =>
    Decimal.magnitude_shortest_single (Nat.mod_lt _ (by decide)) decoded

end Geocoding.Json
