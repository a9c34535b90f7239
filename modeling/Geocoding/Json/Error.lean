import Geocoding.Json.Node

/-!
# Errors of reading JSON

A text may fail to be JSON, or it may be JSON of the wrong kind.  In the second
case the error names what was found and what was expected there.
-/

namespace Geocoding.Json

inductive Found
  | null
  | boolean (value : Bool)
  | number (value : Number)
  | string (text : String)
  | sequence
  | map
deriving DecidableEq, Repr

def Found.phrase : Found → String
  | null => "null"
  | boolean true => "boolean `true`"
  | boolean false => "boolean `false`"
  | number (.natural value) => s!"integer `{value}`"
  | number (.negative magnitude) => s!"integer `-{magnitude}`"
  | number (.real value) =>
      "floating point `" ++ String.ofList (Decimal.writeDouble value) ++ "`"
  | string text => "string " ++ Text.quoted text
  | sequence => "sequence"
  | map => "map"

inductive Expected
  | string
  | sequence
  | count
  | double
  | single
  | pair
  | unit
  | record (name : String)
  /-- A record given by position, with its number of fields. -/
  | positional (name : String) (size : Nat)
deriving DecidableEq, Repr

def Expected.phrase : Expected → String
  | string => "a string"
  | sequence => "a sequence"
  | count => "usize"
  | double => "f64"
  | single => "f32"
  | pair => "an array of length 2"
  | unit => "unit"
  | record name => "struct " ++ name
  | positional name size =>
      s!"struct {name} with {size} " ++ (if size = 1 then "element" else "elements")

inductive Mismatch
  | wrongType (found : Found) (expected : Expected)
  | wrongValue (found : Found) (expected : Expected)
  | wrongLength (length : Nat) (expected : Expected)
  | missingField (name : String)
  | duplicateField (name : String)
  | unknownVariant (text : String) (known : List String)
  | emptyCoordinate
  | badCoordinate
  | neitherNumberNorString
deriving DecidableEq, Repr

def Mismatch.message : Mismatch → String
  | wrongType found expected => s!"invalid type: {found.phrase}, expected {expected.phrase}"
  | wrongValue found expected => s!"invalid value: {found.phrase}, expected {expected.phrase}"
  | wrongLength length expected => s!"invalid length {length}, expected {expected.phrase}"
  | missingField name => s!"missing field `{name}`"
  | duplicateField name => s!"duplicate field `{name}`"
  | unknownVariant text known =>
      s!"unknown variant `{text}`, expected one of "
        ++ ", ".intercalate (known.map fun name => s!"`{name}`")
  | emptyCoordinate => "cannot parse float from empty string"
  | badCoordinate => "invalid float literal"
  | neitherNumberNorString => "data did not match any variant of untagged enum NumberOrString"

inductive ReadError
  | fault (fault : Fault)
  | mismatch (mismatch : Mismatch)
deriving DecidableEq, Repr

abbrev Reading (Result : Type) := Except ReadError Result

/-- A part of a text that is read as it stands. -/
def Reading.ofFault {Result : Type} (part : Except Fault Result) : Reading Result :=
  part.mapError .fault

/-- Refuses a node as not what was expected.  A node that cannot be read is refused for that. -/
def Node.refuse {Result : Type} (node : Node) (expected : Expected) : Reading Result :=
  let wrong (found : Found) : Reading Result := .error (.mismatch (.wrongType found expected))
  match node with
  | .null => wrong .null
  | .boolean value => wrong (.boolean value)
  | .number used _ => do wrong (.number (← .ofFault used))
  | .string used _ => do wrong (.string (← .ofFault used))
  | .array _ => wrong .sequence
  | .object _ => wrong .map
  | .broken fault => .error (.fault fault)
  | .absent => .error (.fault .truncated)

def Node.refuseName {Result : Type} : Node → Reading Result
  | .absent => .error (.fault .truncated)
  | _ => .error (.fault .malformed)

mutual

def Node.skip : Node → Reading Unit
  | .null | .boolean _ => .ok ()
  | .number _ skipped => .ofFault skipped
  | .string _ skipped => .ofFault skipped
  | .array items => items.skip
  | .object members => members.skip
  | .broken fault => .error (.fault fault)
  | .absent => .error (.fault .truncated)

def Items.skip : Items → Reading Unit
  | .close => .ok ()
  | .cut fault => .error (.fault fault)
  | .next item rest => do
      item.skip
      rest.skip

def Members.skip : Members → Reading Unit
  | .close => .ok ()
  | .cut fault => .error (.fault fault)
  | .next name value rest => do
      match name with
      | .string _ skipped => .ofFault skipped
      | other => other.refuseName
      value.skip
      rest.skip

end

/-- The number of arrays and objects that may stand inside one another in a value that is kept. -/
def nestingLimit : Nat := 127

mutual

/-- Reads a value that may be anything, below the given number of arrays and
objects.  All of it counts as used. -/
def Node.keep (node : Node) (depth : Nat) : Reading Unit :=
  match node with
  | .null | .boolean _ => .ok ()
  | .number used _ => do let _ ← Reading.ofFault used
  | .string used _ => do let _ ← Reading.ofFault used
  | .array items => do
      if nestingLimit ≤ depth then throw (.fault .malformed)
      items.keep (depth + 1)
  | .object members => do
      if nestingLimit ≤ depth then throw (.fault .malformed)
      members.keep (depth + 1)
  | .broken fault => .error (.fault fault)
  | .absent => .error (.fault .truncated)

def Items.keep (items : Items) (depth : Nat) : Reading Unit :=
  match items with
  | .close => .ok ()
  | .cut fault => .error (.fault fault)
  | .next item rest => do
      item.keep depth
      rest.keep depth

def Members.keep (members : Members) (depth : Nat) : Reading Unit :=
  match members with
  | .close => .ok ()
  | .cut fault => .error (.fault fault)
  | .next name value rest => do
      match name with
      | .string used _ => do let _ ← Reading.ofFault used
      | other => other.refuseName
      value.keep depth
      rest.keep depth

end

end Geocoding.Json
