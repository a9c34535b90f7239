import Geocoding.Text.Mark

/-!
# The direction of names

Some scripts are written from the right to the left.  A name in which such letters
occur has to be so built that its labels and their characters are read in one order
only.  Every label begins with a letter, keeps to the direction of that letter and
ends with a letter or a digit, which may have marks.
-/

namespace Geocoding.Url.Domain

inductive Direction
  | left
  | right
  | europeanDigit
  | arabicDigit
  /-- Signs that take the direction of what is around them. -/
  | neutral
  | mark
deriving DecidableEq, Repr

namespace Direction

/-! The ranges run over characters that may stand in names; the others are counted with
their neighbours.  All that is in none of them goes from the left to the right. -/

def letterMarkRanges : List (Nat × Nat) :=
  [(0xCBF, 0xCBF), (0xCC6, 0xCC6), (0x11A07, 0x11A08), (0x11C3F, 0x11C3F)]

def rightRanges : List (Nat × Nat) :=
  [(0x5BE, 0x5F4), (0x608, 0x608), (0x60B, 0x60B), (0x60D, 0x60D), (0x61B, 0x64A), (0x66D, 0x6D5),
    (0x6E5, 0x6E6), (0x6EE, 0x6EF), (0x6FA, 0x7F5), (0x7FA, 0x8C9), (0xFBB2, 0xFBC2),
    (0xFE73, 0xFE73), (0x10800, 0x1091B), (0x10920, 0x10B35), (0x10B40, 0x10D23),
    (0x10D4A, 0x10D4F), (0x10D6F, 0x10D8F), (0x10E80, 0x10EC7), (0x10F00, 0x10FF6),
    (0x1E800, 0x1ED3D)]

def europeanDigitRanges : List (Nat × Nat) :=
  [(0x30, 0x39), (0x6F0, 0x6F9), (0x102E1, 0x102FB)]

def arabicDigitRanges : List (Nat × Nat) :=
  [(0x660, 0x669), (0x66B, 0x66C), (0x10D30, 0x10D49), (0x10E60, 0x10E7E)]

def neutralRanges : List (Nat × Nat) :=
  [(0x0, 0x2F), (0x3A, 0x60), (0x7B, 0xD7), (0xF7, 0xF7), (0x2B9, 0x2BA), (0x2C2, 0x2CF),
    (0x2D2, 0x2ED), (0x2EF, 0x2FF), (0x375, 0x375), (0x3F6, 0x3F6), (0x58A, 0x58F), (0x606, 0x607),
    (0x609, 0x60A), (0x60C, 0x60C), (0x60E, 0x60F), (0x66A, 0x66A), (0x6DE, 0x6DE), (0x6E9, 0x6E9),
    (0x7F6, 0x7F9), (0x9F2, 0x9F3), (0x9FB, 0x9FB), (0xAF1, 0xAF1), (0xBF3, 0xBFA), (0xC78, 0xC7E),
    (0xE3F, 0xE3F), (0xF3A, 0xF3D), (0x1390, 0x1399), (0x1400, 0x1400), (0x169B, 0x169C),
    (0x17DB, 0x17DB), (0x17F0, 0x180A), (0x1940, 0x1945), (0x19DE, 0x19FF), (0x200C, 0x214D),
    (0x218A, 0x2335), (0x237B, 0x2394), (0x2396, 0x26AB), (0x26AD, 0x27FF), (0x2900, 0x2BFF),
    (0x2CE5, 0x2CEA), (0x2CF9, 0x2CFF), (0x2E00, 0x3004), (0x3008, 0x3020), (0x3030, 0x3030),
    (0x3037, 0x3037), (0x303D, 0x303F), (0x30A0, 0x30A0), (0x30FB, 0x30FB), (0x31C0, 0x31E5),
    (0x4DC0, 0x4DFF), (0xA490, 0xA4C6), (0xA60D, 0xA60F), (0xA673, 0xA67F), (0xA700, 0xA721),
    (0xA788, 0xA788), (0xA828, 0xA82B), (0xA838, 0xA839), (0xA874, 0xA877), (0xAB6A, 0xAB6B),
    (0xFBC3, 0xFE46), (0xFFFD, 0xFFFD), (0x10101, 0x10101), (0x10140, 0x1018C), (0x10190, 0x101A0),
    (0x1091F, 0x1091F), (0x10B39, 0x10B3F), (0x10D6E, 0x10D6E), (0x10ED0, 0x10ED8),
    (0x11052, 0x11065), (0x11660, 0x1166C), (0x11FD5, 0x11FF1), (0x16FE2, 0x16FE2),
    (0x1CC00, 0x1CEF0), (0x1D1E9, 0x1D245), (0x1D300, 0x1D356), (0x1E2FF, 0x1E2FF),
    (0x1EEF0, 0x1F12F), (0x1F16D, 0x1F16F), (0x1F1AD, 0x1F1AD), (0x1F260, 0x1FBFA)]

def of (character : Char) : Direction :=
  let code := character.toNat
  if Text.isNonspacing character && !Text.inRanges letterMarkRanges code then mark
  else if Text.inRanges rightRanges code then right
  else if Text.inRanges europeanDigitRanges code then europeanDigit
  else if Text.inRanges arabicDigitRanges code then arabicDigit
  else if Text.inRanges neutralRanges code then neutral
  else left

/-- Whether directions end, the marks left aside, with one of those given. -/
def endIn (allowed directions : List Direction) : Bool :=
  match directions.reverse.dropWhile (· = mark) with
  | [] => true
  | last :: _ => allowed.contains last

/-- Whether directions that follow a letter agree with its own. -/
def follow : Direction → List Direction → Bool
  | left, rest =>
    rest.all [left, europeanDigit, neutral, mark].contains && endIn [left, europeanDigit] rest
  | right, rest =>
    !rest.contains left && !(rest.contains europeanDigit && rest.contains arabicDigit)
      && endIn [right, europeanDigit, arabicDigit] rest
  | _, _ => false

end Direction

/-- Whether a text has letters that are written from the right to the left.  The first
of them stands behind those of Latin, Greek and Cyrillic. -/
def turns (text : List Char) : Bool :=
  text.any fun character =>
    0x590 ≤ character.toNat &&
      [Direction.right, Direction.arabicDigit].contains (Direction.of character)

def keepsDirection (label : List Char) : Bool :=
  match label.map Direction.of with
  | [] => true
  | first :: rest => first.follow rest

def keepDirection (labels : List (List Char)) : Bool :=
  !labels.any turns || labels.all keepsDirection

end Geocoding.Url.Domain
