import Geocoding.Url.Percent

/-!
# Form bodies

Named values travel in the body of a question as one line of text.  Names and
values are joined by equals signs and the pairs by ampersands.  Inside a name or
a value a space is written as a plus sign, and every byte other than a letter, a
digit, a star, a hyphen, a full stop or an underscore as an escape, so no text
can be taken for a separator.
-/

namespace Geocoding.Url.Form

def contentType : String := "application/x-www-form-urlencoded"

def isPlain (character : Char) : Bool :=
  character.isAlphanum || character ∈ ['*', '-', '.', '_']

def encodeChar (character : Char) : List Char :=
  if isPlain character then [character]
  else if character = ' ' then ['+']
  else Percent.escapeChar character

def encodeText (text : List Char) : List Char :=
  text.flatMap encodeChar

def encodePair (pair : String × String) : List Char :=
  encodeText pair.1.toList ++ '=' :: encodeText pair.2.toList

def encode (pairs : List (String × String)) : List Char :=
  ['&'].intercalate (pairs.map encodePair)

/-! ## Reading a form body -/

def decodeText (text : List Char) : String :=
  String.ofList (Text.Symbol.replaceStray (Text.Symbol.ofBytes
    (Percent.decode (text.map fun character => if character = '+' then ' ' else character))))

/-- The name and the value on either side of the first equals sign. -/
def decodePair (text : List Char) : String × String :=
  (decodeText (text.takeWhile (· != '=')), decodeText ((text.dropWhile (· != '=')).drop 1))

/-- The pairs of a form body.  An empty part between two ampersands is no pair. -/
def decode (body : List Char) : List (String × String) :=
  ((body.splitOn '&').filter (fun part => !part.isEmpty)).map decodePair

end Geocoding.Url.Form
