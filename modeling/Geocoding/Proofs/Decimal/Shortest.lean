import Geocoding.Decimal.Shortest
import Mathlib.Algebra.Group.Nat.Defs

/-!
# The shortest digits of a number

The digits found for a floating-point number make a decimal among the reals that round
to it.  No such real is zero, so the digits are those of a positive number.
-/

namespace Geocoding.Decimal

namespace Binary

variable {number : Binary} {grid : Int} {found : Digits}

theorem covers_of_onGrid? (present : number.onGrid? grid = some found) :
    found.exponent = grid ∧ number.covers grid found.digits = true := by
  unfold onGrid? at present
  dsimp only at present
  split at present
  · next below above =>
    cases present
    refine ⟨rfl, ?_⟩
    dsimp only
    split
    · exact above
    · exact below
  · next below _ => cases present; exact ⟨rfl, below⟩
  · next _ above => cases present; exact ⟨rfl, above⟩
  · cases present

/-- The shortest digits round to the number, unless no grid had any. -/
theorem shortest_cases (number : Binary) :
    number.covers number.shortest.exponent number.shortest.digits = true ∨
      number.shortest = ⟨number.significand, 0⟩ := by
  unfold shortest
  rcases search : (List.range 24).findSome? fun (step : Nat) =>
    number.onGrid? (number.topGrid - step) with _ | found
  · exact .inr rfl
  · obtain ⟨step, _, present⟩ := List.exists_of_findSome?_eq_some search
    obtain ⟨onGrid, covered⟩ := covers_of_onGrid? present
    left
    simpa [onGrid] using covered

theorem not_covers_zero (positive : 0 < number.significand) :
    number.covers grid 0 = false := by
  have quarterPositive : 0 < (number.unit grid).1 := by
    simp only [unit]
    exact Nat.mul_pos (Nat.pow_pos (by decide)) (Nat.pow_pos (by decide))
  have lowPositive : 0 < (4 * number.significand - (if number.narrow then 1 else 2)) *
      (number.unit grid).1 := by
    refine Nat.mul_pos ?_ quarterPositive
    split <;> omega
  unfold covers
  simp only [Nat.zero_mul]
  split
  · simp only [Bool.and_eq_false_iff, decide_eq_false_iff_not]
    left
    omega
  · simp

theorem shortest_digits_pos (positive : 0 < number.significand) :
    0 < number.shortest.digits := by
  rcases number.shortest_cases with covered | fallback
  · rw [Nat.pos_iff_ne_zero]
    intro zero
    rw [zero, not_covers_zero positive] at covered
    cases covered
  · rw [fallback]
    exact positive

end Binary

theorem Format.decode?_cases {format : Format} {bits : Nat} {number : Binary}
    (decoded : format.decode? bits = some number) :
    let biased := bits / 2 ^ format.significandBits
    let fraction := bits % 2 ^ format.significandBits
    (biased = 0 ∧ fraction ≠ 0 ∧ number.significand = fraction ∧
        number.exponent = format.leastExponent) ∨
      (biased ≠ 0 ∧ number.significand = 2 ^ format.significandBits + fraction ∧
        number.exponent = format.leastExponent + (biased - 1)) := by
  unfold decode? at decoded
  dsimp only at decoded
  split at decoded
  · next subnormal =>
    split at decoded
    · cases decoded
    · next nonzero =>
      cases decoded
      exact .inl ⟨subnormal, nonzero, rfl, rfl⟩
  · next normal =>
    cases decoded
    exact .inr ⟨normal, rfl, rfl⟩

theorem Format.significand_pos_of_decode? {format : Format} {bits : Nat} {number : Binary}
    (decoded : format.decode? bits = some number) : 0 < number.significand := by
  obtain ⟨-, nonzero, significand, -⟩ | ⟨-, significand, -⟩ := decode?_cases decoded
  · rw [significand]
    exact Nat.pos_of_ne_zero nonzero
  · rw [significand]
    exact Nat.add_pos_left (Nat.two_pow_pos _) _

end Geocoding.Decimal
