import Geocoding.Decimal.Shortest

/-!
# Floating-point numbers as text

Numbers are written with their shortest digits.  Within a range of exponents the
decimal point is put where it belongs and a fraction is always shown; outside
that range the exponent is written with its sign.
-/

namespace Geocoding.Decimal

/-- The decimal exponents for which a number is written without an exponent. -/
structure Layout where
  leastPlain : Int
  endPlain : Int
deriving DecidableEq, Repr

def Layout.double : Layout := ⟨-5, 16⟩

def Layout.single : Layout := ⟨-6, 13⟩

namespace Layout

/-- The digits with a decimal point behind the first of them, if there are more. -/
def pointed : List Char → List Char
  | [] => []
  | [digit] => [digit]
  | digit :: rest => digit :: '.' :: rest

def exponentText (exponent : Int) : List Char :=
  (if exponent < 0 then '-' else '+') :: Nat.toDigits 10 exponent.natAbs

def write (layout : Layout) (number : Digits) : List Char :=
  let digits := Nat.toDigits 10 number.digits
  let exponent := number.exponent + digits.length - 1
  if exponent < layout.leastPlain ∨ layout.endPlain ≤ exponent then
    pointed digits ++ 'e' :: exponentText exponent
  else if 0 ≤ number.exponent then
    digits ++ List.replicate number.exponent.toNat '0' ++ ['.', '0']
  else if 0 ≤ exponent then
    digits.take (exponent.toNat + 1) ++ '.' :: digits.drop (exponent.toNat + 1)
  else
    '0' :: '.' :: (List.replicate (-exponent - 1).toNat '0' ++ digits)

end Layout

def signText (negative : Bool) : List Char :=
  if negative then ['-'] else []

/-- The digits of a finite number given by its format, its sign and its other bits. -/
def writeBits (format : Format) (layout : Layout) (negative : Bool) (bits : Nat) : List Char :=
  signText negative ++
    match format.decode? bits with
    | some number => layout.write number.shortest
    | none => ['0', '.', '0']

def writeDouble (value : Float) : List Char :=
  let bits := value.toBits.toNat
  writeBits .double .double (Nat.pow 2 63 ≤ bits) (bits % Nat.pow 2 63)

def writeSingle (value : Float32) : List Char :=
  let bits := value.toBits.toNat
  writeBits .single .single (Nat.pow 2 31 ≤ bits) (bits % Nat.pow 2 31)

end Geocoding.Decimal
