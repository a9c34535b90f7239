import Geocoding.Text.Composition
import Geocoding.Text.CharacterTable
import Geocoding.Url.Domain.MappingTable
import Geocoding.Url.Domain.SpellingTable

/-!
# The mapping of names

Names of hosts that look alike are one name.  So the letters of a name are brought to
lower case, variants of a character give way to the character itself, characters that
cannot be seen are dropped, and what is left is composed.  A name with a character
that has no place in names is none.  Names follow version 18 of the Unicode character
database, one version ahead of the tables of classes.
-/

namespace Geocoding.Url.Domain

def droppedRanges : List (Nat × Nat) :=
  [(0xAD, 0xAD), (0x34F, 0x34F), (0x115F, 0x1160), (0x17B4, 0x17B5), (0x180B, 0x180F),
    (0x200B, 0x200B), (0x2060, 0x2064), (0x206A, 0x206F), (0x3164, 0x3164), (0xFE00, 0xFE0F),
    (0xFEFF, 0xFEFF), (0xFFA0, 0xFFA0), (0x1BCA0, 0x1BCA3), (0x1D173, 0x1D17A), (0xE0100, 0xE01EF)]

def refusedRanges : List (Nat × Nat) :=
  [(0x2024, 0x2026), (0x2488, 0x249B), (0x2FF0, 0x2FFF), (0x31EF, 0x31EF), (0x33C2, 0x33C2),
    (0x33C7, 0x33C7), (0x33D8, 0x33D8), (0xFE12, 0xFE12), (0xFE19, 0xFE19), (0xFE30, 0xFE30),
    (0xFE52, 0xFE52), (0xFFFC, 0xFFFD), (0x1F100, 0x1F100)]

/-- Code points that only version 18 gives to characters.  These stand in names as they
are: letters, signs and the scripts of seals, of the Jurchen and of the Chisoi. -/
def addedRanges : List (Nat × Nat) :=
  [(0x5C8, 0x5C9), (0x208F, 0x208F), (0x20C2, 0x20C4), (0x11DF0, 0x11DF0), (0x12550, 0x1268F),
    (0x16D80, 0x16DAF), (0x18E00, 0x1926F), (0x1D250, 0x1D28F), (0x1DB00, 0x1DBFF),
    (0x2B81E, 0x2B81E), (0x3D000, 0x3FC3F)]

def isRefused (character : Char) : Bool :=
  let code := character.toNat
  Text.inRanges refusedRanges code
    || (Text.isUnprintable character && !Text.inRanges addedRanges code)

def isJoiner (character : Char) : Bool :=
  character == '\u200C' || character == '\u200D'

def replacement? (code : Nat) : Option Nat :=
  (((runs.find? fun (first, last, _) => first ≤ code && code ≤ last).map
    fun (first, _, target) => target + (code - first)).or
    ((alternations.find? fun (first, last) =>
      first ≤ code && code ≤ last && (code - first) % 2 == 0).map fun _ => code + 1)).or
    (lone.lookup code)

/-- What takes the place of a character in a name, if it has a place in names. -/
def image? (character : Char) : Option (List Char) :=
  let code := character.toNat
  if code < 0x80 then some [character.toLower]
  else if isJoiner character then some [character]
  else if Text.inRanges droppedRanges code then some []
  else
    match replacement? code, spellings.lookup code with
    | some target, _ => some [Char.ofNat target]
    | none, some targets => some (targets.map Char.ofNat)
    | none, none => if isRefused character then none else some [character]

def map? (name : List Char) : Option (List Char) :=
  (name.mapM image?).map fun images => Text.compose images.flatten

/-- Whether nothing in a name gives way to anything else. -/
def isMapped (name : List Char) : Bool :=
  map? name == some name

end Geocoding.Url.Domain
