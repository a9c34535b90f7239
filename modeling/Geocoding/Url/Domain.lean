import Geocoding.Url.Domain.Direction
import Geocoding.Url.Domain.Joining
import Geocoding.Url.Punycode

/-!
# Names of hosts

The name of a host has labels with full stops between them.  It may have letters of
any script and travels in ASCII: a label with other characters is encoded and marked.
A label that is marked already has to be one that marking would give, so every name
has one form only.
-/

namespace Geocoding.Url

namespace Domain

def separates (character : Char) : Bool :=
  character ∈ ['\x00', '\t', '\n', '\r', ' ', '#', '/', ':', '<', '>', '?', '@', '[', '\\', ']',
    '^', '|']

def isForbidden (character : Char) : Bool :=
  separates character || character.toNat < 0x20 || character == '%' || character == '\x7F'

def codeMark : List Char := ['x', 'n', '-', '-']

def longestLabel : Nat := 1000

def longestCode : Nat := 2000

structure Label where
  letters : List Char
  /-- What stands for the label in ASCII. -/
  ascii : List Char
deriving DecidableEq, Repr

namespace Label

/-- Whether characters may be encoded as a label. -/
def isSound (letters : List Char) : Bool :=
  !(letters.head?.map Text.isMark).getD false && joinersFit [] letters
    && letters.length ≤ longestLabel

def plain? (letters : List Char) : Option Label :=
  if letters.all fun character => character.toNat < 0x80 then some ⟨letters, letters⟩
  else if isSound letters then some ⟨letters, codeMark ++ Punycode.encode letters⟩
  else none

/-- The label that is encoded behind a mark.  The code must not end like one of ASCII alone. -/
def encoded? (code : List Char) : Option Label :=
  if code.isEmpty ∨ code.getLast? = some '-' ∨ longestCode < code.length then none
  else
    (Punycode.decode? code).bind fun letters =>
      if isMapped letters ∧ !letters.any isForbidden ∧ !letters.contains '.' ∧ isSound letters then
        some ⟨letters, codeMark ++ code⟩
      else none

def read? (text : List Char) : Option Label :=
  match codeMark.isPrefixOf? text with
  | none => plain? text
  | some code => encoded? code

end Label

def toAscii? (name : List Char) : Option (List Char) := do
  let mapped ← map? name
  if mapped.any isForbidden then none
  let labels ← (mapped.splitOn '.').mapM Label.read?
  if keepDirection (labels.map Label.letters) then
    some (['.'].intercalate (labels.map Label.ascii))
  else none

end Domain

end Geocoding.Url
