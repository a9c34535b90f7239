/-!
# Spans of time

A span is a whole number of nanoseconds.  It is shown in the largest unit of
which it holds at least one, with the rest as a decimal fraction.
-/

namespace Geocoding

/-- A span of time, counted in nanoseconds. -/
structure Duration where
  nanoseconds : Nat
deriving DecidableEq, Repr

namespace Duration

def second : Nat := 1000000000

def millisecond : Nat := 1000000

def microsecond : Nat := 1000

def ofSeconds (seconds : Nat) : Duration := ⟨seconds * second⟩

def seconds (duration : Duration) : Nat := duration.nanoseconds / second

def subsecond (duration : Duration) : Nat := duration.nanoseconds % second

/-- The digits of a fraction of the given number of places, without trailing
zeros and with the point in front; nothing if the fraction is zero. -/
def fraction (places numerator : Nat) : List Char :=
  let digits := Nat.toDigits 10 numerator
  let padded := List.replicate (places - digits.length) '0' ++ digits
  let kept := (padded.reverse.dropWhile (· = '0')).reverse
  if kept.isEmpty then [] else '.' :: kept

/-- A number of units of `10 ^ places` nanoseconds each, with its fraction and the
name of the unit. -/
def inUnit (duration : Duration) (places : Nat) (unit : String) : String :=
  let size := Nat.pow 10 places
  String.ofList (Nat.toDigits 10 (duration.nanoseconds / size)
    ++ fraction places (duration.nanoseconds % size)) ++ unit

/-- The span in the largest unit of which it holds at least one. -/
def text (duration : Duration) : String :=
  if second ≤ duration.nanoseconds then duration.inUnit 9 "s"
  else if millisecond ≤ duration.nanoseconds then duration.inUnit 6 "ms"
  else if microsecond ≤ duration.nanoseconds then duration.inUnit 3 "µs"
  else duration.inUnit 0 "ns"

end Duration

end Geocoding
