import Geocoding.Json.Value
import Geocoding.Proofs.Decimal.Shortest
import Geocoding.Proofs.Json.Literal

/-!
# Floating-point numbers as literals

A floating-point number is written with its shortest digits, in one of four layouts.
Each of them spells out a proper number literal, whose parts are given here, so what is
written of a finite number can be scanned again.
-/

namespace Geocoding

open Json (Literal spellDigits)

namespace Decimal

def fractionOf : List Nat → Option (List Nat)
  | [] => none
  | digit :: rest => some (digit :: rest)

namespace Layout

/-- The literal that a decimal in this layout spells out. -/
def literal (layout : Layout) (negative : Bool) (number : Digits) : Literal :=
  let digits := digitsOf number.digits
  let exponent := number.exponent + digits.length - 1
  if exponent < layout.leastPlain ∨ layout.endPlain ≤ exponent then
    { negative
      whole := digits.take 1
      fraction := fractionOf digits.tail
      exponent := some (exponent < 0, digitsOf exponent.natAbs) }
  else if 0 ≤ number.exponent then
    { negative
      whole := digits ++ List.replicate number.exponent.toNat 0
      fraction := some [0]
      exponent := none }
  else if 0 ≤ exponent then
    { negative
      whole := digits.take (exponent.toNat + 1)
      fraction := some (digits.drop (exponent.toNat + 1))
      exponent := none }
  else
    { negative
      whole := [0]
      fraction := some (List.replicate (-exponent - 1).toNat 0 ++ digits)
      exponent := none }

@[simp]
theorem negative_literal (layout : Layout) (negative : Bool) (number : Digits) :
    (layout.literal negative number).negative = negative := by
  unfold literal
  dsimp only
  split_ifs <;> rfl

theorem pointed_spellDigits {digits : List Nat} (nonempty : digits ≠ []) :
    pointed (spellDigits digits) =
      spellDigits (digits.take 1) ++ Literal.spellFraction (fractionOf digits.tail) := by
  match digits, nonempty with
  | [_], _ => rfl
  | _ :: _ :: _, _ => rfl

theorem exponentText_eq (exponent : Int) :
    'e' :: exponentText exponent =
      Literal.spellExponent (some (exponent < 0, digitsOf exponent.natAbs)) := by
  simp [exponentText, Literal.spellExponent, spellDigits, toDigits_eq_map_digitChar]

/-- A decimal is written as its literal is spelled. -/
theorem spell_literal (layout : Layout) (negative : Bool) (number : Digits) :
    (layout.literal negative number).spell = layout.write number := by
  have written := toDigits_eq_map_digitChar number.digits
  have sameLength := length_toDigits number.digits
  have zero : Nat.digitChar 0 = '0' := rfl
  rw [← spellDigits] at written
  unfold literal write
  simp only [sameLength]
  rw [written]
  split_ifs with scientific whole mixed
  · rw [pointed_spellDigits (digitsOf_ne_nil _), exponentText_eq]
    simp only [Literal.spell, List.append_assoc]
  · simp [Literal.spell, Literal.spellFraction, Literal.spellExponent, spellDigits, zero]
  · simp [Literal.spell, Literal.spellFraction, Literal.spellExponent, spellDigits]
  · simp [Literal.spell, Literal.spellFraction, Literal.spellExponent, spellDigits, zero]

theorem properDigits_digitsOf (number : Nat) : Literal.ProperDigits (digitsOf number) :=
  ⟨digitsOf_ne_nil number, fun _ mem => lt_ten_of_mem_digitsOf mem⟩

theorem proper_literal (layout : Layout) (negative : Bool) {number : Digits}
    (positive : 0 < number.digits) : (layout.literal negative number).Proper := by
  have small : ∀ digit ∈ digitsOf number.digits, digit < 10 :=
    fun _ mem => lt_ten_of_mem_digitsOf mem
  have nonempty := length_digitsOf_pos number.digits
  have first := head_digitsOf_ne_zero positive
  have exponentDigits := properDigits_digitsOf
    (number.exponent + (digitsOf number.digits).length - 1).natAbs
  unfold literal
  dsimp only
  generalize digitsOf number.digits = digits at *
  obtain ⟨digit, rest, rfl⟩ := List.exists_cons_of_length_pos nonempty
  split_ifs with scientific whole mixed
  · refine ⟨⟨by simp, fun other mem => small other (List.mem_of_mem_take mem)⟩, ?_, ?_, ?_⟩
    · intro zero
      simp_all
    · intro fraction mem
      cases rest with
      | nil => cases mem
      | cons second rest =>
        cases mem
        exact ⟨by simp, fun other mem => small other (by simp_all)⟩
    · rintro negative digits ⟨⟩
      exact exponentDigits
  · refine ⟨⟨by simp, ?_⟩, ?_, ?_, by simp⟩
    · intro other mem
      rw [List.mem_append, List.mem_replicate] at mem
      rcases mem with mem | ⟨_, rfl⟩
      · exact small other mem
      · decide
    · intro zero
      simp_all
    · rintro fraction ⟨⟩
      exact ⟨by simp, by simp⟩
  · refine ⟨⟨by simp, fun other mem => small other (List.mem_of_mem_take mem)⟩, ?_, ?_, by simp⟩
    · intro zero
      simp_all
    · rintro fraction ⟨⟩
      refine ⟨?_, fun other mem => small other (List.mem_of_mem_drop mem)⟩
      rw [Ne, List.drop_eq_nil_iff]
      omega
  · refine ⟨⟨by simp, by simp⟩, by simp, ?_, by simp⟩
    rintro fraction ⟨⟩
    refine ⟨by simp, ?_⟩
    intro other mem
    rw [List.mem_append, List.mem_replicate] at mem
    rcases mem with ⟨_, rfl⟩ | mem
    · decide
    · exact small other mem

end Layout

def zeroLiteral (negative : Bool) : Literal :=
  { negative, whole := [0], fraction := some [0], exponent := none }

theorem proper_zeroLiteral (negative : Bool) : (zeroLiteral negative).Proper :=
  ⟨⟨by simp [zeroLiteral], by simp [zeroLiteral]⟩, by simp [zeroLiteral],
    by rintro digits ⟨⟩; exact ⟨by simp, by simp⟩, by simp [zeroLiteral]⟩

/-- The literal that is written of a finite number of a format. -/
def bitsLiteral (format : Format) (layout : Layout) (negative : Bool) (bits : Nat) : Literal :=
  match format.decode? bits with
  | some number => layout.literal negative number.shortest
  | none => zeroLiteral negative

@[simp]
theorem negative_bitsLiteral (format : Format) (layout : Layout) (negative : Bool) (bits : Nat) :
    (bitsLiteral format layout negative bits).negative = negative := by
  unfold bitsLiteral
  split <;> simp [zeroLiteral]

theorem writeBits_eq (format : Format) (layout : Layout) (negative : Bool) (bits : Nat) :
    writeBits format layout negative bits =
      signText negative ++ (bitsLiteral format layout negative bits).spell := by
  unfold writeBits bitsLiteral
  cases format.decode? bits with
  | some number => simp only [Layout.spell_literal]
  | none => rfl

theorem proper_bitsLiteral (format : Format) (layout : Layout) (negative : Bool) (bits : Nat) :
    (bitsLiteral format layout negative bits).Proper := by
  unfold bitsLiteral
  split
  · next decoded =>
    have positive := Format.significand_pos_of_decode? decoded
    exact layout.proper_literal negative (Binary.shortest_digits_pos positive)
  · exact proper_zeroLiteral negative

end Decimal

end Geocoding
