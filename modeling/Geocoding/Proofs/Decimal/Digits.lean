import Geocoding.Decimal.Reading
import Mathlib.Data.List.Induction
import Mathlib.Tactic.Linarith
import Mathlib.Tactic.Ring

/-!
# Decimal digits of a whole number

A whole number is written with its digits and read back from them.  The digits are
taken here as numbers below ten, the most significant one first, and the first one is
zero only if the number is.
-/

namespace Geocoding.Decimal

/-- The digits of a number, the most significant one first. -/
def digitsOf (number : Nat) : List Nat :=
  if number < 10 then [number] else digitsOf (number / 10) ++ [number % 10]
termination_by number
decreasing_by omega

theorem toDigits_eq_map_digitChar (number : Nat) :
    Nat.toDigits 10 number = (digitsOf number).map Nat.digitChar := by
  fun_induction digitsOf number with
  | case1 number small => exact Nat.toDigits_of_lt_base small
  | case2 number large ih =>
    rw [Nat.toDigits_of_base_le (by decide) (by omega), ih]
    simp

theorem length_toDigits (number : Nat) :
    (Nat.toDigits 10 number).length = (digitsOf number).length := by
  rw [toDigits_eq_map_digitChar, List.length_map]

theorem lt_ten_of_mem_digitsOf {number digit : Nat} (mem : digit ∈ digitsOf number) :
    digit < 10 := by
  fun_induction digitsOf number with
  | case1 number small => simp only [List.mem_singleton] at mem; omega
  | case2 number large ih =>
    rw [List.mem_append, List.mem_singleton] at mem
    rcases mem with earlier | last
    · exact ih earlier
    · omega

@[simp]
theorem digitsOf_ne_nil (number : Nat) : digitsOf number ≠ [] := by
  rw [digitsOf]
  split <;> simp

theorem length_digitsOf_pos (number : Nat) : 0 < (digitsOf number).length :=
  List.length_pos_iff.mpr (digitsOf_ne_nil number)

theorem head_digitsOf_ne_zero {number : Nat} (positive : 0 < number) :
    (digitsOf number).head? ≠ some 0 := by
  fun_induction digitsOf number with
  | case1 number small => simp; omega
  | case2 number large ih =>
    rw [List.head?_append, List.head?_eq_some_head (digitsOf_ne_nil _), Option.some_or,
      ← List.head?_eq_some_head]
    exact ih (by omega)

theorem ofDigits_append (first second : List Nat) :
    ofDigits (first ++ second) = ofDigits first * 10 ^ second.length + ofDigits second := by
  induction second using List.reverseRecOn with
  | nil => simp [ofDigits]
  | append_singleton second digit ih =>
    rw [← List.append_assoc]
    simp only [ofDigits, List.foldl_append, List.foldl_cons, List.foldl_nil] at ih ⊢
    rw [ih, List.length_append, List.length_singleton, Nat.pow_succ]
    ring

theorem ofDigits_cons (digit : Nat) (digits : List Nat) :
    ofDigits (digit :: digits) = digit * 10 ^ digits.length + ofDigits digits := by
  have split := ofDigits_append [digit] digits
  simpa [ofDigits] using split

theorem ofDigits_zeros (count : Nat) : ofDigits (List.replicate count 0) = 0 := by
  induction count with
  | zero => rfl
  | succ count ih => rw [List.replicate_succ, ofDigits_cons, ih, zero_mul]

theorem ofDigits_lt {digits : List Nat} (small : ∀ digit ∈ digits, digit < 10) :
    ofDigits digits < 10 ^ digits.length := by
  induction digits with
  | nil => decide
  | cons digit rest ih =>
    rw [List.forall_mem_cons] at small
    have others := ih small.2
    rw [ofDigits_cons, List.length_cons, pow_succ]
    nlinarith [small.1]

theorem ofDigits_digitsOf (number : Nat) : ofDigits (digitsOf number) = number := by
  fun_induction digitsOf number with
  | case1 number small => simp [ofDigits]
  | case2 number large ih =>
    rw [ofDigits_append, ih]
    simp only [ofDigits, List.length_singleton, List.foldl_cons, List.foldl_nil]
    omega

theorem digit?_digitChar {digit : Nat} (small : digit < 10) :
    digit? digit.digitChar = some digit := by
  revert digit
  decide

end Geocoding.Decimal
