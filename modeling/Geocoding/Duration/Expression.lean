import Geocoding.Decimal.Reading
import Geocoding.Duration

/-!
# Durations as text

A duration is written as terms, each a whole number with its unit.  Terms stand
side by side or have plus signs between them and are added up; or they have
times signs between them, and their lengths in seconds are multiplied.
-/

namespace Geocoding.Duration

/-- No number, term, sum or product may reach this many, of whatever it counts. -/
def bound : Nat := Nat.pow 2 64

def units : List (List String × Nat) :=
  let day := 86400 * second
  [(["y", "year", "years"], 365 * day),
    (["mon", "month", "months"], 30 * day),
    (["w", "week", "weeks"], 7 * day),
    (["d", "day", "days"], day),
    (["h", "hr", "hour", "hours"], 3600 * second),
    (["m", "min", "minute", "minutes"], 60 * second),
    (["s", "sec", "second", "seconds"], second),
    (["ms", "msec", "millisecond", "milliseconds"], millisecond),
    (["µs", "µsec", "µsecond", "us", "usec", "usecond", "microsecond", "microseconds"],
      microsecond),
    (["ns", "nsec", "nanosecond", "nanoseconds"], 1)]

def unit? (name : List Char) : Option Nat :=
  let lower := String.ofList (name.map Char.toLower)
  (units.find? fun unit => unit.1.contains lower).map Prod.snd

inductive Joint
  | plus
  | times
deriving DecidableEq, Repr

def isSpace (character : Char) : Bool :=
  character = ' ' || character = '\t' || character = '\r' || character = '\n'

def isUnitLetter (character : Char) : Bool :=
  character.isAlpha || character = 'µ'

def joint? : List Char → Option (Joint × List Char)
  | '+' :: rest => some (.plus, rest)
  | '*' :: rest => some (.times, rest)
  | _ => none

/-- Whether the unit may be missing in front of a text: only spaces or a joint follow. -/
def isUnitless (text : List Char) : Bool :=
  let rest := text.dropWhile isSpace
  rest.isEmpty || (joint? rest).isSome

/-- A number with its unit, in nanoseconds.  The unit may be missing, for seconds,
at the end of the text and in front of a joint. -/
def term? (text : List Char) : Option (Nat × List Char) := do
  let (digits, rest) := Decimal.spanDigits text
  if digits.isEmpty then none
  let number := Decimal.ofDigits digits
  let (unit, rest) ←
    match rest.takeWhile isUnitLetter with
    | [] => if isUnitless rest then some (second, rest) else none
    | name => (unit? name).map fun unit => (unit, rest.dropWhile isUnitLetter)
  if number < bound ∧ number * unit < bound then return (number * unit, rest) else none

/-- The terms behind the first one, each with its joint.  Terms side by side count
as added.  `fuel` bounds how many there are. -/
def terms? : (fuel : Nat) → List Char → Option (List (Joint × Nat))
  | 0, _ => none
  | fuel + 1, text => do
      match text.dropWhile isSpace with
      | [] => return []
      | text =>
        let (joint, rest) := (joint? text).getD (.plus, text)
        let (length, rest) ← term? (rest.dropWhile isSpace)
        let others ← terms? fuel rest
        return (joint, length) :: others

/-- The product of two lengths in seconds, in whole nanoseconds. -/
def times? (left right : Nat) : Option Nat :=
  let product := left * right / second
  if product < bound then some product else none

/-- The span of a first term and the terms joined to it, which must all be joined in
the same way.  The others are multiplied first and the first term last, and what is
less than a nanosecond is lost at each step. -/
def combine (first : Nat) (others : List (Joint × Nat)) : Option Nat :=
  if others.all fun other => other.1 = .plus then
    some ((others.map Prod.snd).foldl (· + ·) first)
  else if others.all fun other => other.1 = .times then
    ((others.map Prod.snd).foldlM times? second).bind (times? first)
  else none

def parse? (text : String) : Option Duration := do
  let (first, rest) ← term? (text.toList.dropWhile isSpace)
  let total ← combine first (← terms? (rest.length + 1) rest)
  if total < bound then return ⟨total⟩ else none

end Geocoding.Duration
