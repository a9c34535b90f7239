import Geocoding.Environment.Assignment
import Geocoding.Environment.Line

/-!
# Environment

The environment gives names their values.  A file of assignments may add to it.
It never changes a value that is there already, and what it has added stays even
if a later line of it cannot be read.  A value in the environment has no place for
the character zero, and a program that sets one to it breaks down.
-/

namespace Geocoding

/-- Names with their values. -/
structure Environment where
  assignments : List (String × String)
deriving DecidableEq, Repr

namespace Environment

def get? (environment : Environment) (name : String) : Option String :=
  environment.assignments.lookup name

/-- The environment with a value for a name that has none. -/
def extend (environment : Environment) (name value : String) : Environment :=
  if (environment.get? name).isSome then environment
  else ⟨environment.assignments ++ [(name, value)]⟩

/-- Sets a name that has no value, if the environment has a place for the value. -/
def define? (environment : Environment) (name value : String) : Option Environment :=
  if environment.get? name = none ∧ '\x00' ∈ value.toList then none
  else some (environment.extend name value)

/-- What stands behind a name and an equals sign at the start of an entry.  An entry is
the name, an equals sign and the value, so the name that is asked for may itself have an
equals sign and reach into the value. -/
def behind? (environment : Environment) (name : List Char) : Option (List Char) :=
  environment.assignments.findSome? fun (known, value) =>
    (name ++ ['=']).isPrefixOf? (known.toList ++ '=' :: value.toList)

/-- The value that is put in for a name.  The environment comes first, then the
latest assignment, and a name without a value stands for nothing. -/
def valueOf (environment : Environment) (assigned : List (String × String)) (name : List Char) :
    List Char :=
  ((environment.behind? name).or
    ((assigned.lookup (String.ofList name)).map String.toList)).getD []

/-- Makes the assignments on some lines, up to the first that cannot be read. -/
def assignLines (environment : Environment) (assigned : List (String × String)) :
    List (Option (List Char)) → Option Environment
  | [] | none :: _ => some environment
  | some line :: rest =>
    match readAssignment? (environment.valueOf assigned) line with
    | none => some environment
    | some none => assignLines environment assigned rest
    | some (some (name, value)) => do
      let pair := (String.ofList name, String.ofList value)
      assignLines (← environment.define? pair.1 pair.2) (pair :: assigned) rest

def withFile (environment : Environment) (content : List Text.Symbol) : Option Environment :=
  environment.assignLines [] (lines content)

end Environment

end Geocoding
