/-!
# Reading a decimal number

A decimal is a sign, digits with an optional point among or beside them, and an
optional exponent; infinities and the value that is no number are spelled out.
The double nearest to the decimal is taken, and a decimal beyond the largest
double gives an infinity.
-/

namespace Geocoding.Decimal

def digit? (character : Char) : Option Nat :=
  if '0' ≤ character ∧ character ≤ '9' then some (character.toNat - '0'.toNat) else none

def spanDigits : List Char → List Nat × List Char
  | [] => ([], [])
  | character :: rest =>
    match digit? character with
    | some digit => let (digits, after) := spanDigits rest; (digit :: digits, after)
    | none => ([], character :: rest)

def ofDigits (digits : List Nat) : Nat :=
  digits.foldl (fun number digit => 10 * number + digit) 0

/-- The double nearest to `digits * 10 ^ exponent`, infinite beyond the largest one.
Numbers far outside the range of doubles are told by their number of digits. -/
def nearestDouble (digits : Nat) (exponent : Int) : Float :=
  let magnitude : Int := (Nat.toDigits 10 digits).length + exponent
  if digits = 0 ∨ magnitude < -400 then 0
  else if 400 < magnitude then 1 / 0
  else if 0 ≤ exponent then Float.ofScientific digits false exponent.toNat
  else Float.ofScientific digits true (-exponent).toNat

def spanSign : List Char → Bool × List Char
  | '-' :: rest => (true, rest)
  | '+' :: rest => (false, rest)
  | text => (false, text)

/-- The exponent at the end of a decimal.  Nothing there means zero. -/
def exponent? : List Char → Option Int
  | [] => some 0
  | mark :: rest =>
    if mark = 'e' ∨ mark = 'E' then
      let (negative, after) := spanSign rest
      match spanDigits after with
      | ([], _) => none
      | (digits, []) =>
          some (if negative then -(ofDigits digits : Int) else (ofDigits digits : Int))
      | (_, _ :: _) => none
    else none

def unsigned? (text : List Char) : Option Float :=
  let (whole, afterWhole) := spanDigits text
  let (fraction, rest) :=
    match afterWhole with
    | '.' :: after => spanDigits after
    | other => ([], other)
  if whole.isEmpty && fraction.isEmpty then none
  else (exponent? rest).map fun exponent =>
    nearestDouble (ofDigits (whole ++ fraction)) (exponent - fraction.length)

def spelled? (text : List Char) : Option Float :=
  let lower := String.ofList (text.map Char.toLower)
  if lower = "inf" ∨ lower = "infinity" then some (1 / 0)
  else if lower = "nan" then some (0 / 0)
  else none

def double? (text : List Char) : Option Float :=
  let (negative, magnitude) := spanSign text
  ((spelled? magnitude).or (unsigned? magnitude)).map fun value =>
    if negative then -value else value

end Geocoding.Decimal
