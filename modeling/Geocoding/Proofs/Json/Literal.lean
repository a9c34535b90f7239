import Geocoding.Json.Number
import Geocoding.Proofs.Decimal.Digits

/-!
# Number literals read back

A literal that is spelled out is scanned into the same parts, provided that what
follows it cannot go on with it.  A literal is proper if each of its parts has digits
and its whole part does not begin with a zero that it could do without.
-/

namespace Geocoding.Json

open Text (Symbol)

/-- Whether a text begins with something that could go on with a number. -/
def continuesNumber : List Symbol → Bool
  | [] => false
  | symbol :: _ =>
    (digit? symbol).isSome || symbol == .char '.' || symbol == .char 'e' || symbol == .char 'E'

def spellDigits (digits : List Nat) : List Char :=
  digits.map Nat.digitChar

namespace Literal

def spellFraction : Option (List Nat) → List Char
  | none => []
  | some digits => '.' :: spellDigits digits

def spellExponent : Option (Bool × List Nat) → List Char
  | none => []
  | some (negative, digits) => 'e' :: (if negative then '-' else '+') :: spellDigits digits

/-- A literal without its sign. -/
def spell (literal : Literal) : List Char :=
  spellDigits literal.whole ++ (spellFraction literal.fraction ++ spellExponent literal.exponent)

def ProperDigits (digits : List Nat) : Prop :=
  digits ≠ [] ∧ ∀ digit ∈ digits, digit < 10

/-- A literal whose parts all have digits, without a zero in front of other digits. -/
structure Proper (literal : Literal) : Prop where
  whole : ProperDigits literal.whole
  noLeadingZero : literal.whole.head? = some 0 → literal.whole = [0]
  fraction : ∀ digits ∈ literal.fraction, ProperDigits digits
  exponent : ∀ negative digits, literal.exponent = some (negative, digits) → ProperDigits digits

end Literal

theorem digit?_char_digitChar {digit : Nat} (small : digit < 10) :
    digit? (.char digit.digitChar) = some digit :=
  Decimal.digit?_digitChar small

theorem spanDigits_spellDigits {digits : List Nat} (small : ∀ digit ∈ digits, digit < 10)
    {rest : List Symbol} (ended : ∀ symbol ∈ rest.head?, digit? symbol = none) :
    spanDigits ((spellDigits digits).map .char ++ rest) = (digits, rest) := by
  induction digits with
  | nil =>
    cases rest with
    | nil => rfl
    | cons symbol rest =>
      have noDigit := ended symbol rfl
      simp [spellDigits, spanDigits, noDigit]
  | cons digit digits ih =>
    have first := digit?_char_digitChar (small digit (by simp))
    have others := ih fun digit mem => small digit (by simp [mem])
    simp only [spellDigits, List.map_cons, List.cons_append] at others ⊢
    rw [spanDigits, first, others]

theorem head_not_digit_of_ended {rest : List Symbol} (ended : continuesNumber rest = false) :
    ∀ symbol ∈ rest.head?, digit? symbol = none := by
  intro symbol mem
  cases rest with
  | nil => cases mem
  | cons first rest =>
    cases mem
    simp only [continuesNumber, Bool.or_eq_false_iff] at ended
    simpa using ended.1.1.1

namespace Literal

variable {digits : List Nat} {rest : List Symbol}

theorem scanDigits_spellDigits (proper : ProperDigits digits)
    (ended : ∀ symbol ∈ rest.head?, digit? symbol = none) :
    scanDigits ((spellDigits digits).map .char ++ rest) = .ok (digits, rest) := by
  obtain ⟨nonempty, small⟩ := proper
  rw [scanDigits, spanDigits_spellDigits small ended]
  cases digits with
  | nil => contradiction
  | cons _ _ => rfl

theorem scanWhole_spellDigits (proper : ProperDigits digits)
    (noLeadingZero : digits.head? = some 0 → digits = [0])
    (ended : ∀ symbol ∈ rest.head?, digit? symbol = none) :
    scanWhole ((spellDigits digits).map .char ++ rest) = .ok (digits, rest) := by
  rw [scanWhole, scanDigits_spellDigits proper ended]
  split
  · next head => cases head; simp at noLeadingZero
  · rfl

theorem scanFraction_spellFraction {fraction : Option (List Nat)}
    (proper : ∀ digits ∈ fraction, ProperDigits digits)
    (ended : ∀ symbol ∈ rest.head?, digit? symbol = none ∧ symbol ≠ .char '.') :
    scanFraction ((spellFraction fraction).map .char ++ rest) = .ok (fraction, rest) := by
  cases fraction with
  | none =>
    cases rest with
    | nil => rfl
    | cons symbol rest =>
      have noPoint := (ended symbol rfl).2
      simp only [spellFraction, List.map_nil, List.nil_append]
      unfold scanFraction
      split
      · next head => cases head; contradiction
      · rfl
  | some digits =>
    have noDigit : ∀ symbol ∈ rest.head?, digit? symbol = none :=
      fun symbol mem => (ended symbol mem).1
    simp [spellFraction, scanFraction, scanDigits_spellDigits (proper digits rfl) noDigit,
      Except.map]

theorem spanSign_spellDigits (negative : Bool) (text : List Symbol) :
    spanSign (.char (if negative then '-' else '+') :: text) = (negative, text) := by
  cases negative <;> rfl

theorem scanExponent_spellExponent {exponent : Option (Bool × List Nat)}
    (proper : ∀ negative digits, exponent = some (negative, digits) → ProperDigits digits)
    (ended : continuesNumber rest = false) :
    scanExponent ((spellExponent exponent).map .char ++ rest) = .ok (exponent, rest) := by
  cases exponent with
  | none =>
    cases rest with
    | nil => rfl
    | cons symbol rest =>
      simp only [continuesNumber, Bool.or_eq_false_iff, beq_eq_false_iff_ne] at ended
      obtain ⟨⟨_, noSmallMark⟩, noMark⟩ := ended
      cases symbol with
      | stray byte => rfl
      | char mark =>
        have noExponent : ¬ (mark = 'e' ∨ mark = 'E') := by
          rintro (rfl | rfl) <;> contradiction
        simp [spellExponent, scanExponent, noExponent]
  | some exponent =>
    obtain ⟨negative, digits⟩ := exponent
    have scanned := scanDigits_spellDigits (proper negative digits rfl)
      (head_not_digit_of_ended ended)
    simp only [spellExponent, List.map_cons, List.cons_append, scanExponent, true_or, if_true,
      spanSign_spellDigits, scanned, Except.map]

theorem head_spellFraction (fraction : Option (List Nat))
    (ended : ∀ symbol ∈ rest.head?, digit? symbol = none) :
    ∀ symbol ∈ ((spellFraction fraction).map Symbol.char ++ rest).head?, digit? symbol = none := by
  cases fraction with
  | none => exact ended
  | some digits =>
    rintro symbol mem
    cases mem
    rfl

theorem head_spellExponent (exponent : Option (Bool × List Nat))
    (ended : continuesNumber rest = false) :
    ∀ symbol ∈ ((spellExponent exponent).map Symbol.char ++ rest).head?,
      digit? symbol = none ∧ symbol ≠ .char '.' := by
  cases exponent with
  | none =>
    intro symbol mem
    refine ⟨head_not_digit_of_ended ended symbol mem, ?_⟩
    cases rest with
    | nil => cases mem
    | cons first rest =>
      cases mem
      simp only [continuesNumber, Bool.or_eq_false_iff, beq_eq_false_iff_ne] at ended
      exact ended.1.1.2
  | some exponent =>
    rintro symbol mem
    cases mem
    exact ⟨rfl, by decide⟩

/-- A proper literal that is spelled out is scanned into its own parts. -/
theorem scan_spell {literal : Literal} (proper : literal.Proper)
    (ended : continuesNumber rest = false) :
    scan literal.negative (literal.spell.map .char ++ rest) = .ok (literal, rest) := by
  have afterFraction := head_spellExponent literal.exponent ended
  have afterWhole := head_spellFraction literal.fraction
    fun symbol mem => (afterFraction symbol mem).1
  simp only [spell, List.map_append, List.append_assoc, scan,
    scanWhole_spellDigits proper.whole proper.noLeadingZero afterWhole,
    scanFraction_spellFraction proper.fraction afterFraction,
    scanExponent_spellExponent proper.exponent ended, bind, Except.bind, pure, Except.pure]

end Literal

end Geocoding.Json
