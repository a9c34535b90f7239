/-!
# Numeric hosts

A host may be given by its number in the network.  An IPv4 number has 32
bits and is written in up to four parts between full stops, each of which may be
decimal, octal or hexadecimal; the last part fills what the others leave.  An
IPv6 number has eight pieces of 16 bits, written in hexadecimal between colons; a
double colon stands for pieces that are zero, and the last two pieces may be
written as an IPv4 number in four decimal parts.
-/

namespace Geocoding.Url.Numeric

def digitValue? (base : Nat) (character : Char) : Option Nat :=
  let value? :=
    if character.isDigit then some (character.toNat - 0x30)
    else if 'a' ≤ character ∧ character ≤ 'f' then some (character.toNat - 0x57)
    else if 'A' ≤ character ∧ character ≤ 'F' then some (character.toNat - 0x37)
    else none
  value?.filter (· < base)

def value? (base : Nat) (digits : List Char) : Option Nat :=
  digits.foldlM (fun value character => do
    return value * base + (← digitValue? base character)) 0

/-! ## IPv4 -/

/-- One part of an IPv4 number.  A leading zero makes it octal, and `0x` hexadecimal. -/
def part? : List Char → Option Nat
  | [] => none
  | '0' :: 'x' :: digits | '0' :: 'X' :: digits => value? 16 digits
  | '0' :: digits => value? 8 digits
  | digits => value? 10 digits

/-- The parts of a host, less the empty one behind a full stop at the end. -/
def parts (host : List Char) : List (List Char) :=
  let all := host.splitOn '.'
  if all.getLast? = some [] then all.dropLast else all

/-- Whether the last part of a host is a number, so that the host must be an IPv4 number. -/
def endsInNumber (host : List Char) : Bool :=
  match (parts host).getLast? with
  | none => false
  | some part => (!part.isEmpty && part.all Char.isDigit) || (part? part).isSome

/-- A host as an IPv4 number.  All parts but the last are bytes, from the highest
down, and the last one has room for the bytes that are left. -/
def ipv4? (host : List Char) : Option Nat := do
  let values ← (parts host).mapM part?
  let last ← values.getLast?
  let bytes := values.dropLast
  if values.length ≤ 4 ∧ bytes.all (· < 256) ∧ last < Nat.pow 256 (5 - values.length) then
    let high := bytes.foldl (fun value byte => value * 256 + byte) 0
    some (high * Nat.pow 256 (5 - values.length) + last)
  else none

def decimal (value : Nat) : List Char := Nat.toDigits 10 value

def ipv4Text (value : Nat) : List Char :=
  ['.'].intercalate ([3, 2, 1, 0].map fun place => decimal (value / Nat.pow 256 place % 256))

/-! ## IPv6 -/

def piece? (digits : List Char) : Option Nat :=
  if digits.isEmpty ∨ 4 < digits.length then none else value? 16 digits

def byte? (digits : List Char) : Option Nat := do
  if digits.isEmpty ∨ (1 < digits.length ∧ digits.head? = some '0') then none
  let value ← value? 10 digits
  if value < 256 then some value else none

def ipv4Pieces? (text : List Char) : Option (List Nat) := do
  match ← (text.splitOn '.').mapM byte? with
  | [first, second, third, fourth] => some [first * 256 + second, third * 256 + fourth]
  | _ => none

/-- The pieces between the colons of a text.  Only what comes last may be an IPv4 number. -/
def piecesOf? : List (List Char) → Option (List Nat)
  | [] => some []
  | [last] => if last.contains '.' then ipv4Pieces? last else (piece? last).map fun value => [value]
  | text :: rest => do
      let value ← piece? text
      return value :: (← piecesOf? rest)

def pieces? (text : List Char) : Option (List Nat) :=
  if text.isEmpty then some [] else piecesOf? (text.splitOn ':')

def splitDouble? : List Char → Option (List Char × List Char)
  | ':' :: ':' :: rest => some ([], rest)
  | character :: rest =>
    (splitDouble? rest).map fun (before, behind) => (character :: before, behind)
  | [] => none

/-- An IPv6 number as its eight pieces.  A double colon stands for one zero piece at least. -/
def ipv6? (text : List Char) : Option (List Nat) := do
  match splitDouble? text with
  | none =>
    let pieces ← pieces? text
    if pieces.length = 8 then some pieces else none
  | some (before, behind) =>
    if before.contains '.' then none
    let high ← pieces? before
    let low ← pieces? behind
    let given := high.length + low.length
    if given < 8 then some (high ++ List.replicate (8 - given) 0 ++ low) else none

def zeros (pieces : List Nat) : Nat := (pieces.takeWhile (· = 0)).length

/-- The first of the longest runs of zero pieces, as its place and its length. -/
def longestZeros (pieces : List Nat) : Nat × Nat :=
  (List.range pieces.length).foldl (fun best place =>
    if best.2 < zeros (pieces.drop place) then (place, zeros (pieces.drop place)) else best) (0, 0)

/-- An IPv6 number as text.  The first of the longest runs of two or more zero
pieces is left to a double colon. -/
def ipv6Text (pieces : List Nat) : List Char :=
  let write (run : List Nat) : List Char := [':'].intercalate (run.map (Nat.toDigits 16))
  let (place, length) := longestZeros pieces
  if length < 2 then write pieces
  else write (pieces.take place) ++ [':', ':'] ++ write (pieces.drop (place + length))

end Geocoding.Url.Numeric
