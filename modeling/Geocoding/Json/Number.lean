import Geocoding.Decimal.Layout
import Geocoding.Decimal.Reading
import Geocoding.Text.Symbol

/-!
# JSON numbers

A number literal is scanned first and valued when it is used.  Whole numbers of
64 bits are kept exactly.  All others become doubles in a fixed way: the leading
digits that fit into 64 bits are rounded to a double, which is then multiplied
or divided by a power of ten.
-/

namespace Geocoding.Json

open Text (Symbol)

inductive Fault
  /-- The text ends inside a value. -/
  | truncated
  /-- A symbol stands where it cannot, or a value cannot be represented. -/
  | malformed
deriving DecidableEq, Repr

/-- What ails a text that breaks off in front of these symbols. -/
def Fault.before (rest : List Symbol) : Fault :=
  if rest.isEmpty then .truncated else .malformed

inductive Number
  | natural (value : Nat)
  /-- A negative whole number, given by its magnitude. -/
  | negative (magnitude : Nat)
  | real (value : Float)
deriving DecidableEq, Repr

def Number.toDouble : Number → Float
  | natural value => Float.ofNat value
  | negative magnitude => -Float.ofNat magnitude
  | real value => value

/-- The single nearest to a double, infinite beyond the largest one. -/
def nearestSingle (value : Float) : Float32 :=
  let rounded :=
    match value.toModel.unpack with
    | .finite sign mantissa exponent _ =>
        Float.Model.UnpackedFloat.round .binary32 sign mantissa exponent
    | special => special
  .ofModel (.pack rounded)

/-- The single a number is read as.  Whole numbers are rounded once, doubles again. -/
def Number.toSingle : Number → Float32
  | natural value => Float32.ofNat value
  | negative magnitude => -Float32.ofNat magnitude
  | real value => nearestSingle value

/-- The parts of a number literal. -/
structure Literal where
  negative : Bool
  whole : List Nat
  fraction : Option (List Nat)
  /-- Whether the exponent is negative, and its digits. -/
  exponent : Option (Bool × List Nat)
deriving DecidableEq, Repr

def digit? : Symbol → Option Nat
  | .char character => Decimal.digit? character
  | .stray _ => none

def spanDigits : List Symbol → List Nat × List Symbol
  | [] => ([], [])
  | symbol :: rest =>
    match digit? symbol with
    | some digit => let (digits, after) := spanDigits rest; (digit :: digits, after)
    | none => ([], symbol :: rest)

theorem length_spanDigits_le (text : List Symbol) :
    (spanDigits text).2.length ≤ text.length := by
  induction text with
  | nil => simp [spanDigits]
  | cons symbol rest ih =>
      unfold spanDigits
      split
      · simp only [List.length_cons]
        omega
      · exact Nat.le_refl _

namespace Literal

def scanDigits (text : List Symbol) : Except Fault (List Nat × List Symbol) :=
  match spanDigits text with
  | ([], rest) => .error (.before rest)
  | (digits, rest) => .ok (digits, rest)

/-- The whole part, which begins with zero only if it is zero. -/
def scanWhole (text : List Symbol) : Except Fault (List Nat × List Symbol) :=
  match scanDigits text with
  | .ok (0 :: _ :: _, _) => .error .malformed
  | other => other

def scanFraction : List Symbol → Except Fault (Option (List Nat) × List Symbol)
  | .char '.' :: rest => (scanDigits rest).map fun (digits, after) => (some digits, after)
  | text => .ok (none, text)

def spanSign : List Symbol → Bool × List Symbol
  | .char '-' :: rest => (true, rest)
  | .char '+' :: rest => (false, rest)
  | text => (false, text)

def scanExponent : List Symbol → Except Fault (Option (Bool × List Nat) × List Symbol)
  | .char mark :: rest =>
    if mark = 'e' ∨ mark = 'E' then
      let (negative, digits) := spanSign rest
      (scanDigits digits).map fun (digits, after) => (some (negative, digits), after)
    else .ok (none, .char mark :: rest)
  | text => .ok (none, text)

def scan (negative : Bool) (text : List Symbol) : Except Fault (Literal × List Symbol) := do
  let (whole, afterWhole) ← scanWhole text
  let (fraction, afterFraction) ← scanFraction afterWhole
  let (exponent, rest) ← scanExponent afterFraction
  return ({ negative, whole, fraction, exponent }, rest)

theorem length_scanDigits_le {text rest : List Symbol} {digits : List Nat}
    (scanned : scanDigits text = .ok (digits, rest)) : rest.length ≤ text.length := by
  have bound := length_spanDigits_le text
  unfold scanDigits at scanned
  split at scanned
  · cases scanned
  · next _ _ spanned => cases scanned; rw [spanned] at bound; exact bound

theorem length_scanWhole_le {text rest : List Symbol} {digits : List Nat}
    (scanned : scanWhole text = .ok (digits, rest)) : rest.length ≤ text.length := by
  unfold scanWhole at scanned
  split at scanned
  · cases scanned
  · exact length_scanDigits_le scanned

theorem length_scanFraction_le {text rest : List Symbol} {digits : Option (List Nat)}
    (scanned : scanFraction text = .ok (digits, rest)) : rest.length ≤ text.length := by
  unfold scanFraction at scanned
  split at scanned
  · next after =>
    match digitsRead : scanDigits after, scanned with
    | .ok (found, _), scanned =>
      cases scanned
      exact Nat.le_succ_of_le (length_scanDigits_le digitsRead)
  · cases scanned; exact Nat.le_refl _

theorem length_spanSign_le (text : List Symbol) : (spanSign text).2.length ≤ text.length := by
  unfold spanSign
  split <;> simp

theorem length_scanExponent_le {text rest : List Symbol} {digits : Option (Bool × List Nat)}
    (scanned : scanExponent text = .ok (digits, rest)) : rest.length ≤ text.length := by
  unfold scanExponent at scanned
  split at scanned
  · next mark after =>
    split at scanned
    · have bound := length_spanSign_le after
      match digitsRead : scanDigits (spanSign after).2, scanned with
      | .ok (found, _), scanned =>
        simp only [digitsRead, Except.map, Except.ok.injEq, Prod.mk.injEq] at scanned
        have := length_scanDigits_le digitsRead
        rw [scanned.2] at this
        simp only [List.length_cons]
        omega
      | .error _, scanned => simp [digitsRead, Except.map] at scanned
    · cases scanned; exact Nat.le_refl _
  · cases scanned; exact Nat.le_refl _

/-- What follows a literal is no longer than the text it was scanned from. -/
theorem length_scan_le {negative : Bool} {text rest : List Symbol} {literal : Literal}
    (scanned : scan negative text = .ok (literal, rest)) : rest.length ≤ text.length := by
  unfold scan at scanned
  match wholeRead : scanWhole text, scanned with
  | .ok (whole, afterWhole), scanned =>
    match fractionRead : scanFraction afterWhole, scanned with
    | .ok (fraction, afterFraction), scanned =>
      match exponentRead : scanExponent afterFraction, scanned with
      | .ok (exponent, after), scanned =>
        simp only [bind, Except.bind, pure, Except.pure, fractionRead, exponentRead,
          Except.ok.injEq, Prod.mk.injEq] at scanned
        have first := length_scanWhole_le wholeRead
        have second := length_scanFraction_le fractionRead
        have third := length_scanExponent_le exponentRead
        rw [scanned.2] at third
        omega
      | .error _, scanned => simp [bind, Except.bind, fractionRead, exponentRead] at scanned
    | .error _, scanned => simp [bind, Except.bind, fractionRead] at scanned

/-- Appends digits to a number as long as it fits into 64 bits.  Gives the number
and how many digits were left out. -/
def takeFitting (significand : Nat) : List Nat → Nat × Nat
  | [] => (significand, 0)
  | digit :: rest =>
    if 10 * significand + digit < Nat.pow 2 64 then takeFitting (10 * significand + digit) rest
    else (significand, rest.length + 1)

def powerOfTen (exponent : Nat) : Float :=
  Float.ofScientific 1 false exponent

/-- Multiplies a double by a power of ten.  Small powers are reached in steps of
`10 ^ 308`; a product beyond the largest double is refused. -/
def scale (value : Float) (exponent : Int) : Except Fault Float :=
  if exponent.natAbs ≤ 308 then
    if 0 ≤ exponent then
      let product := value * powerOfTen exponent.toNat
      if product.isInf then .error .malformed else .ok product
    else .ok (value / powerOfTen (-exponent).toNat)
  else if value == 0 then .ok value
  else if 0 ≤ exponent then .error .malformed
  else scale (value / powerOfTen 308) (exponent + 308)
termination_by (-exponent).toNat
decreasing_by omega

def writtenExponent (literal : Literal) : Int :=
  match literal.exponent with
  | none => 0
  | some (true, digits) => -(Decimal.ofDigits digits : Int)
  | some (false, digits) => (Decimal.ofDigits digits : Int)

def toDouble (literal : Literal) : Except Fault Float :=
  let fraction := literal.fraction.getD []
  let (leading, wholeLeft) := takeFitting 0 literal.whole
  let (significand, fractionLeft) := takeFitting leading fraction
  let exponent := wholeLeft - (fraction.length - fractionLeft : Nat) + literal.writtenExponent
  (scale (Float.ofNat significand) exponent).map fun value =>
    if literal.negative then -value else value

/-- The value of a literal.  Whole numbers of 64 bits are kept as they are; minus
zero is none of them. -/
def value (literal : Literal) : Except Fault Number :=
  let whole := Decimal.ofDigits literal.whole
  if literal.fraction.isNone ∧ literal.exponent.isNone ∧ ¬ literal.negative
      ∧ whole < Nat.pow 2 64 then
    .ok (.natural whole)
  else if literal.fraction.isNone ∧ literal.exponent.isNone ∧ literal.negative ∧ 0 < whole
      ∧ whole ≤ Nat.pow 2 63 then
    .ok (.negative whole)
  else literal.toDouble.map Number.real

end Literal

end Geocoding.Json
