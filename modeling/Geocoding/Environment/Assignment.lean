import Geocoding.Text.Alphanumeric
import Geocoding.Text.Blank

/-!
# Assignments

An assignment gives a name a value.  In a value single quotation marks keep what
is between them as it is, double ones keep blanks, a backslash keeps the character
behind it, and a dollar sign stands in front of a name whose value is put in.
-/

namespace Geocoding.Environment

/-- What the characters of a value are read as. -/
inductive Reading
  /-- Text, perhaps between double quotation marks. -/
  | text (quoted : Bool)
  /-- The character behind a backslash. -/
  | escaped (quoted : Bool)
  /-- Text between single quotation marks. -/
  | verbatim
  /-- The letters and digits of a name. -/
  | name (quoted : Bool) (letters : List Char)
  /-- A name between braces. -/
  | bracedName (quoted : Bool) (letters : List Char)
  /-- Blanks behind the value. -/
  | blanks
deriving DecidableEq, Repr

/-- The value that some characters spell, where `known` gives the value of a name. -/
def readValue (known : List Char → List Char) : Reading → List Char → Option (List Char)
  | .blanks, [] => some []
  | .blanks, character :: rest =>
    if character = ' ' ∨ character = '\t' then readValue known .blanks rest
    else if character = '#' then some []
    else none
  | .escaped quoted, [] => if quoted then none else some []
  | .escaped quoted, character :: rest =>
    if character ∈ ['\\', '\'', '"', '$', ' '] then
      (readValue known (.text quoted) rest).map (character :: ·)
    else if character = 'n' then (readValue known (.text quoted) rest).map ('\n' :: ·)
    else none
  | .verbatim, [] => none
  | .verbatim, character :: rest =>
    if character = '\'' then readValue known (.text false) rest
    else (readValue known .verbatim rest).map (character :: ·)
  | .name quoted letters, [] => if quoted then none else some (known letters)
  | .name quoted letters, character :: rest =>
    if Text.isAlphanumeric character then
      readValue known (.name quoted (letters ++ [character])) rest
    else if character = '\x7b' ∧ letters.isEmpty then readValue known (.bracedName quoted []) rest
    else if character = '$' then
      (readValue known (.name quoted []) rest).map (known letters ++ ·)
    else (readValue known (.text quoted) rest).map (known letters ++ character :: ·)
  | .bracedName _ _, [] => none
  | .bracedName quoted letters, character :: rest =>
    if character = '\x7d' then
      (readValue known (.text quoted) rest).map (known letters ++ ·)
    else readValue known (.bracedName quoted (letters ++ [character])) rest
  | .text quoted, [] => if quoted then none else some []
  | .text quoted, character :: rest =>
    if character = '$' then readValue known (.name quoted []) rest
    else if character = '\\' then readValue known (.escaped quoted) rest
    else if character = '"' then readValue known (.text (!quoted)) rest
    else if character = '\'' ∧ !quoted then readValue known .verbatim rest
    else if (character = ' ' ∨ character = '\t') ∧ !quoted then readValue known .blanks rest
    else (readValue known (.text quoted) rest).map (character :: ·)

def readName? (line : List Char) : Option (List Char × List Char) :=
  let name := line.takeWhile fun character =>
    character.isAlphanum || character == '_' || character == '.'
  match name.head? with
  | some first =>
    if first.isAlpha ∨ first = '_' then some (name, line.drop name.length) else none
  | none => none

def readTarget? (line : List Char) : Option (List Char × List Char) := do
  let (name, rest) ← readName? line
  match Text.trimStart rest with
  | '=' :: rest => some (name, rest)
  | _ => none

def readExported? (line : List Char) : Option (List Char × List Char) :=
  match readTarget? line with
  | some target => some target
  | none => do
      let (word, rest) ← readName? line
      if word = "export".toList then readTarget? (Text.trimStart rest) else none

/-- The assignment on a line, if there is one.  Nothing is told of a line that is
neither an assignment nor empty. -/
def readAssignment? (known : List Char → List Char) (line : List Char) :
    Option (Option (List Char × List Char)) :=
  let isEmpty (text : List Char) : Bool := text.isEmpty || text.head? == some '#'
  let line := Text.trim line
  if isEmpty line then some none
  else do
    let (name, rest) ← readExported? line
    let rest := Text.trimStart rest
    if isEmpty rest then return some (name, [])
    return some (name, ← readValue known (.text false) rest)

end Geocoding.Environment
