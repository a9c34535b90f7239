/-!
# Characters in a sequence of bytes

A sequence of bytes is read as UTF-8 one character at a time.  A byte at which
no character starts stands alone as a stray byte, so the reading never fails
and the places that are no text can be seen in it.
-/

namespace Geocoding.Text

/-- One unit of a sequence of bytes: a character, or a byte that starts none. -/
inductive Symbol
  | char (character : Char)
  | stray (byte : UInt8)
deriving DecidableEq, Repr

namespace Symbol

def size : Symbol → Nat
  | char character => character.utf8Size
  | stray _ => 1

/-- The character that begins the bytes.  It is made of at most four of them. -/
def first? (bytes : List UInt8) : Option Char :=
  (bytes.take 4).toByteArray.utf8DecodeChar? 0

def ofBytes : List UInt8 → List Symbol
  | [] => []
  | byte :: rest =>
    match first? (byte :: rest) with
    | some character => char character :: ofBytes (rest.drop (character.utf8Size - 1))
    | none => stray byte :: ofBytes rest
termination_by bytes => bytes.length
decreasing_by all_goals (simp only [List.length_drop, List.length_cons]; omega)

def ofString (text : String) : List Symbol :=
  text.toList.map char

def characters? : List Symbol → Option (List Char)
  | [] => some []
  | char character :: rest => (characters? rest).map (character :: ·)
  | stray _ :: _ => none

@[simp] theorem characters?_map_char (characters : List Char) :
    characters? (characters.map char) = some characters := by
  induction characters with
  | nil => rfl
  | cons character rest ih => simp [characters?, ih]

/-- The bytes, from the lowest to the highest, that may stand at a distance behind
the first byte of a character.  Only one of three or four bytes has such places. -/
def continuation? (lead : UInt8) (distance : Nat) : Option (UInt8 × UInt8) :=
  if distance = 1 ∧ lead = 0xE0 then some (0xA0, 0xBF)
  else if distance = 1 ∧ lead = 0xED then some (0x80, 0x9F)
  else if distance = 1 ∧ lead = 0xF0 then some (0x90, 0xBF)
  else if distance = 1 ∧ lead = 0xF4 then some (0x80, 0x8F)
  else if distance = 1 ∧ 0xE0 < lead ∧ lead < 0xF4 then some (0x80, 0xBF)
  else if distance = 2 ∧ 0xF0 ≤ lead ∧ lead ≤ 0xF4 then some (0x80, 0xBF)
  else none

/-- Whether a stray byte goes on with a character that was begun and never finished. -/
def continues (lead : UInt8) (distance : Nat) (byte : UInt8) : Bool :=
  match continuation? lead distance with
  | some (lowest, highest) => lowest ≤ byte && byte ≤ highest
  | none => false

/-- The characters of a sequence of symbols in which the bytes of an unfinished
character, or else each stray byte, give way to one replacement character. -/
def replaceStrayFrom : Option (UInt8 × Nat) → List Symbol → List Char
  | _, [] => []
  | _, char character :: rest => character :: replaceStrayFrom none rest
  | none, stray byte :: rest => '\uFFFD' :: replaceStrayFrom (some (byte, 1)) rest
  | some (lead, distance), stray byte :: rest =>
    if continues lead distance byte then replaceStrayFrom (some (lead, distance + 1)) rest
    else '\uFFFD' :: replaceStrayFrom (some (byte, 1)) rest

def replaceStray (symbols : List Symbol) : List Char :=
  replaceStrayFrom none symbols

end Symbol

def ofBytes? (bytes : List UInt8) : Option (List Char) :=
  Symbol.characters? (Symbol.ofBytes bytes)

end Geocoding.Text
