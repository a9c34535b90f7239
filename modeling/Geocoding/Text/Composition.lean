import Geocoding.Text.CompositionTable

/-!
# Composition

A letter and the marks on it can be written as one character or as several.  The
composed form of a text takes the characters apart, puts the marks behind each letter
into the order of their classes, and puts together again what can be one character.
Syllables of the Korean script are put together by counting instead of by a table.
-/

namespace Geocoding.Text

/-- The class of a mark, and zero for any other character. -/
def combiningClass (character : Char) : Nat :=
  let code := character.toNat
  ((combiningClasses.find? fun (first, last, _) => first ≤ code && code ≤ last).map
    fun (_, _, number) => number).getD 0

/-! ## Korean syllables -/

namespace Syllable

def start : Nat := 0xAC00

def leadStart : Nat := 0x1100

def vowelStart : Nat := 0x1161

def trailStart : Nat := 0x11A7

def leads : Nat := 19

def vowels : Nat := 21

/-- In how many ways a syllable ends.  One of them is to end with the vowel. -/
def trails : Nat := 28

def place? (code first size : Nat) : Option Nat :=
  if first ≤ code ∧ code < first + size then some (code - first) else none

def apart? (code : Nat) : Option (List Nat) :=
  (place? code start (leads * vowels * trails)).map fun place =>
    let trail := place % trails
    [leadStart + place / (vowels * trails), vowelStart + place / trails % vowels]
      ++ (if trail = 0 then [] else [trailStart + trail])

def together? (first second : Nat) : Option Nat :=
  match place? first leadStart leads, place? second vowelStart vowels with
  | some lead, some vowel => some (start + (lead * vowels + vowel) * trails)
  | _, _ =>
    match place? first start (leads * vowels * trails), place? second (trailStart + 1) (trails - 1)
      with
    | some place, some trail => if place % trails = 0 then some (first + trail + 1) else none
    | _, _ => none

end Syllable

/-! ## Letters and marks -/

/-- The letter in a code point and the marks on it.  `fuel` bounds the number of marks. -/
def unmarked : (fuel : Nat) → Nat → List Nat
  | 0, code => [code]
  | fuel + 1, code =>
    match compositions.find? fun (_, _, whole) => whole = code with
    | some (first, second, _) => unmarked fuel first ++ [second]
    | none => [code]

def mostMarks : Nat := 2

def apart (character : Char) : List Char :=
  let code := character.toNat
  ((Syllable.apart? code).getD (unmarked mostMarks code)).map Char.ofNat

def together? (first second : Char) : Option Char :=
  let known (entry : Nat × Nat × Nat) : Bool :=
    entry.1 = first.toNat && entry.2.1 = second.toNat
  ((Syllable.together? first.toNat second.toNat).or
    ((compositions.find? known).map fun (_, _, whole) => whole)).map Char.ofNat

/-- Puts a mark among those behind it, in front of the first with no lower class. -/
def insertMark (mark : Char) : List Char → List Char
  | [] => [mark]
  | next :: rest =>
    if 0 < combiningClass next ∧ combiningClass next < combiningClass mark then
      next :: insertMark mark rest
    else mark :: next :: rest

def orderMarks (text : List Char) : List Char :=
  text.foldr insertMark []

/-- Puts a letter together with what follows it.  `between` are the marks passed since
the letter, which hide it from marks of no higher class. -/
def putTogether (letter : Char) (between : List Char) : List Char → List Char
  | [] => letter :: between
  | next :: rest =>
    let hidden := (between.getLast?.map fun mark =>
      decide (combiningClass next ≤ combiningClass mark)).getD false
    match if hidden then none else together? letter next with
    | some whole => putTogether whole between rest
    | none =>
      if combiningClass next = 0 then letter :: between ++ putTogether next [] rest
      else putTogether letter (between ++ [next]) rest

/-- The composed form of a text.  Nothing below the first mark can be put together. -/
def compose (text : List Char) : List Char :=
  if text.all fun character => character.toNat < 0x300 then text
  else
    match orderMarks (text.flatMap apart) with
    | [] => []
    | first :: rest => putTogether first [] rest

end Geocoding.Text
