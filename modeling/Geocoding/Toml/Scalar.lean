import Geocoding.Decimal.Reading
import Geocoding.Toml.Quotation

/-!
# TOML numbers, truth values and dates

A value that is neither a string nor made of parts is one unbroken run of
characters, or a date and a time with a blank between them.
-/

namespace Geocoding.Toml

open Decimal (ofDigits)

/-- The digits of a number in which single underscores may stand between digits. -/
def separated? (digit? : Char → Option Nat) : List Char → Option (List Nat)
  | [] => none
  | [last] => (digit? last).map ([·])
  | first :: '_' :: rest => do
      let value ← digit? first
      return value :: (← separated? digit? rest)
  | first :: rest => do
      let value ← digit? first
      return value :: (← separated? digit? rest)

/-- The digits of a decimal whole number, which begins with zero only if it is zero. -/
def wholeDigits? (text : List Char) : Option (List Nat) := do
  match ← separated? Decimal.digit? text with
  | 0 :: _ :: _ => none
  | digits => return digits

def digitOfBase? (base : Nat) (character : Char) : Option Nat :=
  (hexDigit? character).filter (· < base)

def based? (base : Nat) (text : List Char) : Option Value := do
  let digits ← separated? (digitOfBase? base) text
  let value := digits.foldl (fun number digit => base * number + digit) 0
  if value < Nat.pow 2 63 then return .integer value else none

def integer? (text : List Char) : Option Value :=
  match text with
  | '0' :: 'x' :: rest => based? 16 rest
  | '0' :: 'o' :: rest => based? 8 rest
  | '0' :: 'b' :: rest => based? 2 rest
  | _ => do
    let (negative, digits) := Decimal.spanSign text
    let value := ofDigits (← wholeDigits? digits)
    if negative then
      if value ≤ Nat.pow 2 63 then return .integer (-value) else none
    else if value < Nat.pow 2 63 then return .integer value else none

def exponent? (text : List Char) : Option Int := do
  let (negative, digits) := Decimal.spanSign text
  let value := ofDigits (← separated? Decimal.digit? digits)
  return if negative then -value else value

def unsignedFloat? (text : List Char) : Option Float := do
  let isMark (character : Char) : Bool := character = 'e' || character = 'E'
  let mantissa := text.takeWhile (fun character => !isMark character)
  let exponent ←
    match text.dropWhile (fun character => !isMark character) with
    | [] => if mantissa.contains '.' then some 0 else none
    | _ :: rest => exponent? rest
  let whole ← wholeDigits? (mantissa.takeWhile (· ≠ '.'))
  let fraction ←
    match mantissa.dropWhile (· ≠ '.') with
    | [] => some []
    | _ :: rest => separated? Decimal.digit? rest
  return Decimal.nearestDouble (ofDigits (whole ++ fraction)) (exponent - fraction.length)

/-- A floating-point number.  One too large is refused unless it is negative. -/
def float? (text : List Char) : Option Value := do
  let (negative, magnitude) := Decimal.spanSign text
  if magnitude = ['i', 'n', 'f'] then
    return .float (if negative then -(1 / 0) else 1 / 0)
  else if magnitude = ['n', 'a', 'n'] then
    return .float (0 / 0)
  else
    let value ← unsignedFloat? magnitude
    if negative then return .float (-value)
    else if value.isInf then none
    else return .float value

def field? (size least most : Nat) (text : List Char) : Option Nat := do
  let digits ← text.mapM Decimal.digit?
  let value := ofDigits digits
  if digits.length = size ∧ least ≤ value ∧ value ≤ most then return value else none

def daysIn (year month : Nat) : Nat :=
  if month = 2 then
    if year % 4 = 0 ∧ (year % 100 ≠ 0 ∨ year % 400 = 0) then 29 else 28
  else if month = 4 ∨ month = 6 ∨ month = 9 ∨ month = 11 then 30
  else 31

def isDate : List Char → Bool
  | [y₁, y₂, y₃, y₄, '-', m₁, m₂, '-', d₁, d₂] =>
    Option.isSome do
      let year ← field? 4 0 9999 [y₁, y₂, y₃, y₄]
      let month ← field? 2 1 12 [m₁, m₂]
      field? 2 1 (daysIn year month) [d₁, d₂]
  | _ => false

def isSecondFraction : List Char → Bool
  | [] => true
  | '.' :: digits => !digits.isEmpty && digits.all fun digit => (Decimal.digit? digit).isSome
  | _ => false

def isTime : List Char → Bool
  | h₁ :: h₂ :: ':' :: m₁ :: m₂ :: ':' :: s₁ :: s₂ :: fraction =>
    (field? 2 0 23 [h₁, h₂]).isSome && (field? 2 0 59 [m₁, m₂]).isSome
      && (field? 2 0 60 [s₁, s₂]).isSome && isSecondFraction fraction
  | _ => false

/-- Whether a text is the distance of a time from universal time. -/
def isOffset : List Char → Bool
  | ['Z'] | ['z'] => true
  | [sign, h₁, h₂, ':', m₁, m₂] =>
    (sign = '+' || sign = '-') && (field? 2 0 23 [h₁, h₂]).isSome
      && (field? 2 0 59 [m₁, m₂]).isSome
  | _ => false

def isTimeWithOffset (text : List Char) : Bool :=
  let startsOffset (character : Char) : Bool :=
    character = 'Z' || character = 'z' || character = '+' || character = '-'
  let time := text.takeWhile (fun character => !startsOffset character)
  let offset := text.dropWhile (fun character => !startsOffset character)
  isTime time && (offset.isEmpty || isOffset offset)

def isDateTime (text : List Char) : Bool :=
  isDate text || isTime text ||
    match text.drop 10 with
    | mark :: time =>
      (mark = 'T' || mark = 't' || mark = ' ') && isDate (text.take 10) && isTimeWithOffset time
    | [] => false

def scalar (text : List Char) : Option Value :=
  if text = ['t', 'r', 'u', 'e'] then some (.boolean true)
  else if text = ['f', 'a', 'l', 's', 'e'] then some (.boolean false)
  else if isDateTime text then some (.dateTime text)
  else (float? text).or (integer? text)

def isScalar (character : Char) : Bool :=
  isBareKey character || character = '+' || character = '.' || character = ':'

/-- The longest run of characters that can be one value.  A date goes on behind a
blank if a digit stands there. -/
def spanScalar (text : List Char) : List Char × List Char :=
  let run := text.takeWhile isScalar
  match text.dropWhile isScalar with
  | ' ' :: digit :: rest =>
    if isDate run && (Decimal.digit? digit).isSome then
      (run ++ ' ' :: (digit :: rest).takeWhile isScalar, (digit :: rest).dropWhile isScalar)
    else (run, ' ' :: digit :: rest)
  | rest => (run, rest)

def scalar? (text : List Char) : Option (Value × List Char) :=
  let (run, rest) := spanScalar text
  (scalar run).map fun value => (value, rest)

end Geocoding.Toml
