/-!
# Shortest decimal digits

A binary floating-point number stands for all real numbers that round to it.
Among the decimals in that interval the ones with the fewest digits are wanted,
and of those the nearest to the number; this module finds it by exact
arithmetic on natural numbers.
-/

namespace Geocoding.Decimal

/-- A positive number `significand * 2 ^ exponent` with the interval of reals that
round to it.  At a power of two the neighbour below is only half as far away. -/
structure Binary where
  significand : Nat
  exponent : Int
  /-- Whether the neighbour below lies at half the usual distance. -/
  narrow : Bool
deriving DecidableEq, Repr

structure Digits where
  digits : Nat
  exponent : Int
deriving DecidableEq, Repr

namespace Binary

/-- The factor by which all sizes are multiplied to make them whole: a quarter of
the last binary place, and one unit of the decimal grid. -/
def unit (number : Binary) (grid : Int) : Nat × Nat :=
  let binary := number.exponent - 2
  (Nat.pow 2 binary.toNat * Nat.pow 10 (-grid).toNat,
    Nat.pow 2 (-binary).toNat * Nat.pow 10 grid.toNat)

/-- The decimal `count * 10 ^ grid` lies among the reals that round to the number.
The ends belong to them if the significand is even. -/
def covers (number : Binary) (grid : Int) (count : Nat) : Bool :=
  let (quarter, step) := number.unit grid
  let low := (4 * number.significand - (if number.narrow then 1 else 2)) * quarter
  let high := (4 * number.significand + 2) * quarter
  let place := count * step
  if number.significand % 2 = 0 then low ≤ place && place ≤ high
  else low < place && place < high

/-- Of the two neighbours of the number on a decimal grid, the one that rounds to
it; if both do, the nearer, and the even one of two that are equally near. -/
def onGrid? (number : Binary) (grid : Int) : Option Digits :=
  let (quarter, step) := number.unit grid
  let whole := 4 * number.significand * quarter
  let below := whole / step
  let rest := whole % step
  match number.covers grid below, number.covers grid (below + 1) with
  | true, true =>
      let up := step < 2 * rest || (2 * rest = step && below % 2 = 1)
      some ⟨if up then below + 1 else below, grid⟩
  | true, false => some ⟨below, grid⟩
  | false, true => some ⟨below + 1, grid⟩
  | false, false => none

def topGrid (number : Binary) : Int :=
  (number.significand.log2 + 1 + number.exponent) * 30103 / 100000 + 2

/-- The decimal on the coarsest grid that has one among the reals that round to
the number.  Seventeen significant digits always suffice, so the search ends. -/
def shortest (number : Binary) : Digits :=
  ((List.range 24).findSome? fun (step : Nat) => number.onGrid? (number.topGrid - step)).getD
    ⟨number.significand, 0⟩

end Binary

structure Format where
  significandBits : Nat
  leastExponent : Int
deriving DecidableEq, Repr

def Format.double : Format := ⟨52, -1074⟩

def Format.single : Format := ⟨23, -149⟩

/-- The finite positive number that the bits without the sign bit stand for; zero has none. -/
def Format.decode? (format : Format) (bits : Nat) : Option Binary :=
  let fraction := bits % Nat.pow 2 format.significandBits
  let biased := bits / Nat.pow 2 format.significandBits
  if biased = 0 then
    if fraction = 0 then none else some ⟨fraction, format.leastExponent, false⟩
  else
    some ⟨Nat.pow 2 format.significandBits + fraction, format.leastExponent + (biased - 1),
      fraction = 0 && biased ≠ 1⟩

end Geocoding.Decimal
