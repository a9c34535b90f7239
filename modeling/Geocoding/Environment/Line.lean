import Geocoding.Text.Blank
import Geocoding.Text.Symbol

/-!
# Lines of assignments

A file of assignments is read line by line.  A line goes on behind its end while
a quotation is open in it.  It stops at a number sign that follows a single blank
outside quotations, and one that begins with a number sign is empty.
-/

namespace Geocoding.Environment

/-- Where in a line a character stands. -/
inductive Place
  /-- Outside quotations. -/
  | plain
  /-- Outside quotations, behind a single blank. -/
  | gap
  /-- Outside quotations, behind a backslash. -/
  | escape
  /-- Between double or between single quotation marks. -/
  | quoted (mark : Char)
  /-- Between quotation marks, behind a backslash. -/
  | quotedEscape (mark : Char)
deriving DecidableEq, Repr

namespace Place

def outside (character : Char) : Place :=
  if character = '\\' then escape
  else if character = '"' ∨ character = '\'' then quoted character
  else plain

def next : Place → Char → Place
  | plain, character =>
    if Text.isBlank character ∧ character ≠ '\n' ∧ character ≠ '\r' then gap
    else outside character
  | gap, character => outside character
  | escape, _ => plain
  | quoted mark, character =>
    if character = '\\' then quotedEscape mark
    else if character = mark then plain
    else quoted mark
  | quotedEscape mark, _ => quoted mark

/-- The part of a line in front of its comment, and the place behind the line
unless a comment ends it. -/
def follow : Place → List Char → List Char × Option Place
  | place, [] => ([], some place)
  | place, character :: rest =>
    if place = gap ∧ character = '#' then ([], none)
    else
      let (kept, last) := follow (place.next character) rest
      (character :: kept, last)

end Place

def breakLines : List Text.Symbol → List (List Text.Symbol)
  | [] => []
  | symbol :: rest =>
    if symbol = .char '\n' then [symbol] :: breakLines rest
    else
      match breakLines rest with
      | [] => [[symbol]]
      | line :: lines => (symbol :: line) :: lines

def withoutBreak (line : List Char) : List Char :=
  match line.reverse with
  | '\n' :: '\r' :: rest => rest.reverse
  | '\n' :: rest => rest.reverse
  | _ => line

/-- The lines of assignments, from the place reached in one that has been begun.
They end with nothing at the first that is no text or does not come to an end. -/
def linesFrom (begun : List Char) (place : Place) :
    List (List Text.Symbol) → List (Option (List Char))
  | [] => if place = .plain then [] else [none]
  | line :: rest =>
    match Text.Symbol.characters? line with
    | none => [none]
    | some characters =>
      let whole := begun ++ characters
      if (Text.trimStart whole).head? = some '#' then some [] :: linesFrom [] .plain rest
      else
        match place.follow characters with
        | (kept, none) => some (begun ++ kept) :: linesFrom [] .plain rest
        | (_, some .plain) => some (withoutBreak whole) :: linesFrom [] .plain rest
        | (_, some reached) => linesFrom whole reached rest

/-- The lines of assignments of a file, less the mark that it is text. -/
def lines (content : List Text.Symbol) : List (Option (List Char)) :=
  linesFrom [] .plain (breakLines
    (if content.head? = some (.char '\uFEFF') then content.tail else content))

end Geocoding.Environment
