import Geocoding.Text.Symbol

/-!
# Percent escapes

A character that has no place in a part of an address on the web is written as
the escapes of its UTF-8 bytes: a percent sign and two hexadecimal digits for
each.  Which characters those are differs from part to part.  Escapes that stand
in a text already are left alone when it is written and undone when it is read.
-/

namespace Geocoding.Url.Percent

def hexDigit (value : Nat) : Char :=
  Char.ofNat (if value < 10 then 0x30 + value else 0x37 + value)

def hexValue? (character : Char) : Option Nat :=
  if '0' ≤ character ∧ character ≤ '9' then some (character.toNat - 0x30)
  else if 'A' ≤ character ∧ character ≤ 'F' then some (character.toNat - 0x37)
  else if 'a' ≤ character ∧ character ≤ 'f' then some (character.toNat - 0x57)
  else none

def escape (byte : UInt8) : List Char :=
  ['%', hexDigit (byte.toNat / 16), hexDigit (byte.toNat % 16)]

def escapeChar (character : Char) : List Char :=
  (String.utf8EncodeChar character).flatMap escape

/-- A text in which the characters that are `escaped` are written as escapes. -/
def encode (escaped : Char → Bool) (text : List Char) : List Char :=
  text.flatMap fun character => if escaped character then escapeChar character else [character]

/-- The bytes of a text in which each escape stands for its byte. -/
def decode : List Char → List UInt8
  | '%' :: high :: low :: rest =>
    match hexValue? high, hexValue? low with
    | some upper, some lower => UInt8.ofNat (16 * upper + lower) :: decode rest
    | _, _ => '%'.toUInt8 :: decode (high :: low :: rest)
  | character :: rest => String.utf8EncodeChar character ++ decode rest
  | [] => []

/-! ## What is escaped where -/

def isControl (character : Char) : Bool :=
  character.toNat < 0x20 || 0x7F ≤ character.toNat

def inFragment (character : Char) : Bool :=
  isControl character || character ∈ [' ', '"', '<', '>', '\x60']

def inQuery (character : Char) : Bool :=
  isControl character || character ∈ [' ', '"', '#', '<', '>']

def inSpecialQuery (character : Char) : Bool :=
  inQuery character || character == '\''

def inPath (character : Char) : Bool :=
  inFragment character || character ∈ ['#', '?', '\x7b', '\x7d']

def inCredentials (character : Char) : Bool :=
  inPath character || character ∈ ['/', ':', ';', '=', '@', '[', '\\', ']', '^', '|']

end Geocoding.Url.Percent
