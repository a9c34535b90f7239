import Geocoding.Address
import Geocoding.Json.Error
import Geocoding.Json.Value
import Geocoding.Text.Blank

/-!
# Shapes of JSON values

A shape describes the values of one kind and how they stand in JSON: the members
of a record in the order in which they are declared, and what each of them
holds.  One description serves to read a record from an object, to read it from
an array that lists its members by position, and to write it.
-/

namespace Geocoding.Json

/-- Values without parts of their own. -/
inductive Leaf
  | string
  | count
  | double
  | single
  | pair
  /-- A number, written as such or as a string. -/
  | coordinate
  | placeKind
deriving DecidableEq, Repr

abbrev Leaf.Carrier : Leaf → Type
  | string => String
  | count => Nat
  | double => Float
  | single => Float32
  | pair => Float × Float
  | coordinate => Float
  | placeKind => PlaceKind

mutual

/-- A kind of JSON value. -/
inductive Shape
  | leaf (leaf : Leaf)
  /-- A value that may be left out or be `null`. -/
  | optional (content : Shape)
  | list (item : Shape)
  | record (name : String) (fields : Fields)

/-- The members of a record.  One that is `droppable` may be missing at the end of
the positional form, and a list that is may be missing from an object. -/
inductive Fields
  | nil
  | cons (name : String) (droppable : Bool) (shape : Shape) (rest : Fields)

end

mutual

def Shape.Carrier : Shape → Type
  | .leaf leaf => leaf.Carrier
  | .optional content => Option content.Carrier
  | .list item => List item.Carrier
  | .record _ fields => fields.Carrier

def Fields.Carrier : Fields → Type
  | .nil => Unit
  | .cons _ _ shape rest => shape.Carrier × rest.Carrier

end

/-- What has been read of each member of a record so far. -/
def Fields.Slots : Fields → Type
  | .nil => Unit
  | .cons _ _ shape rest => Option shape.Carrier × rest.Slots

def Fields.noSlots : (fields : Fields) → fields.Slots
  | .nil => ()
  | .cons _ _ _ rest => (none, rest.noSlots)

def Fields.size : Fields → Nat
  | .nil => 0
  | .cons _ _ _ rest => rest.size + 1

/-- The value of a member that is missing from an object, if it may be. -/
def Shape.whenMissing? (droppable : Bool) : (shape : Shape) → Option shape.Carrier
  | .optional _ => some none
  | .list _ => if droppable then some [] else none
  | .leaf _ | .record _ _ => none

/-- The value of a member that is missing at the end of the positional form, if it may be. -/
def Shape.whenDropped? (droppable : Bool) (shape : Shape) : Option shape.Carrier :=
  if droppable then shape.whenMissing? droppable else none

namespace Leaf

def readCount : Node → Reading Nat
  | .number (.ok (.natural value)) _ => .ok value
  | .number (.ok (.negative magnitude)) _ =>
      .error (.mismatch (.wrongValue (.number (.negative magnitude)) .count))
  | node => node.refuse .count

def readDouble : Node → Reading Float
  | .number (.ok value) _ => .ok value.toDouble
  | node => node.refuse .double

def readSingle : Node → Reading Float32
  | .number (.ok value) _ => .ok value.toSingle
  | node => node.refuse .single

def readText : Node → Reading String
  | .string used _ => .ofFault used
  | node => node.refuse .string

/-- Reads two numbers and nothing behind them. -/
def readPair : Node → Reading (Float × Float)
  | .array items =>
    let short (length : Nat) : Reading (Float × Float) :=
      .error (.mismatch (.wrongLength length .pair))
    match items with
    | .close => short 0
    | .cut fault => .error (.fault fault)
    | .next first rest => do
      let first ← readDouble first
      match rest with
      | .close => short 1
      | .cut fault => .error (.fault fault)
      | .next second rest => do
        let second ← readDouble second
        match rest with
        | .close => return (first, second)
        | .cut fault => .error (.fault fault)
        | .next _ _ => .error (.fault .malformed)
  | node => node.refuse .pair

def parseCoordinate (text : String) : Reading Float :=
  let trimmed := Text.trim text.toList
  match Decimal.double? trimmed with
  | some value => .ok value
  | none => .error (.mismatch (if trimmed.isEmpty then .emptyCoordinate else .badCoordinate))

/-- Reads a coordinate below the given number of arrays and objects.  Whatever
stands there is read to its end before it is judged. -/
def readCoordinate (depth : Nat) (node : Node) : Reading Float := do
  node.keep depth
  match node with
  | .number (.ok value) _ => return value.toDouble
  | .string (.ok text) _ => parseCoordinate text
  | _ => throw (.mismatch .neitherNumberNorString)

def placeKindOf (text : String) : Reading PlaceKind :=
  match PlaceKind.ofName? text with
  | some kind => .ok kind
  | none => .error (.mismatch (.unknownVariant text (PlaceKind.all.map PlaceKind.name)))

/-- Reads a kind of place, given by its name or as the only member of an object,
whose value is `null`. -/
def readPlaceKind : Node → Reading PlaceKind
  | .string used _ => do placeKindOf (← .ofFault used)
  | .object (.next name value rest) => do
      let kind ←
        match name with
        | .string used _ => do placeKindOf (← .ofFault used)
        | other => other.refuseName
      match value with
      | .null => pure ()
      | other => other.refuse .unit
      match rest with
      | .close => return kind
      | .cut fault => throw (.fault fault)
      | .next _ _ _ => throw (.fault .malformed)
  | .object (.cut fault) => .error (.fault fault)
  | .absent => .error (.fault .truncated)
  | _ => .error (.fault .malformed)

def read (depth : Nat) : (leaf : Leaf) → Node → Reading leaf.Carrier
  | string, node => readText node
  | count, node => readCount node
  | double, node => readDouble node
  | single, node => readSingle node
  | pair, node => readPair node
  | coordinate, node => readCoordinate depth node
  | placeKind, node => readPlaceKind node

def write : (leaf : Leaf) → leaf.Carrier → Value
  | string, text => .string text
  | count, number => .count number
  | double, number => .double number
  | single, number => .single number
  | pair, (first, second) => .array (.cons (.double first) (.cons (.double second) .nil))
  | coordinate, number => .double number
  | placeKind, kind => .string kind.name

end Leaf

def Items.readEach {Result : Type} (read : Node → Reading Result) : Items → Reading (List Result)
  | .close => .ok []
  | .cut fault => .error (.fault fault)
  | .next item rest => do
      let value ← read item
      let values ← rest.readEach read
      return value :: values

/-- Reads every member of an object.  `store` adds a member to what has been read,
or gives nothing if it does not know the name; such a member is passed over. -/
def Members.readEach {Slots : Type} (store : String → Node → Slots → Option (Reading Slots)) :
    Members → Slots → Reading Slots
  | .close, slots => .ok slots
  | .cut fault, _ => .error (.fault fault)
  | .next name value rest, slots => do
      let known ←
        match name with
        | .string used _ => Reading.ofFault used
        | other => other.refuseName
      match store known value slots with
      | some stored => rest.readEach store (← stored)
      | none =>
        value.skip
        rest.readEach store slots

mutual

def Shape.read : (shape : Shape) → Nat → Node → Reading shape.Carrier
  | .leaf leaf, depth, node => leaf.read depth node
  | .optional content, depth, node =>
    match node with
    | .null => .ok none
    | other => (content.read depth other).map some
  | .list item, depth, node =>
    match node with
    | .array items => items.readEach (item.read (depth + 1))
    | other => other.refuse .sequence
  | .record name fields, depth, node =>
    match node with
    | .array items => fields.readItems name fields.size (depth + 1) 0 items
    | .object members => do
        let slots ← members.readEach (fields.store (depth + 1)) fields.noSlots
        fields.finish slots
    | other => other.refuse (.record name)

def Fields.readItems :
    (fields : Fields) → String → Nat → Nat → Nat → Items → Reading fields.Carrier
  | .nil, _, _, _, _, items =>
    match items with
    | .close => .ok ()
    | .cut fault => .error (.fault fault)
    | .next _ _ => .error (.fault .malformed)
  | .cons _ droppable shape rest, record, size, depth, index, items =>
    match items with
    | .next item more => do
        let value ← shape.read depth item
        let values ← rest.readItems record size depth (index + 1) more
        return (value, values)
    | .close =>
      match shape.whenDropped? droppable with
      | some value => do
        let values ← rest.readItems record size depth (index + 1) .close
        return (value, values)
      | none => .error (.mismatch (.wrongLength index (.positional record size)))
    | .cut fault => .error (.fault fault)

/-- Reads the member of this name, unless there is none.  A member that has been
read already is refused. -/
def Fields.store :
    (fields : Fields) → Nat → String → Node → fields.Slots → Option (Reading fields.Slots)
  | .nil, _, _, _, _ => none
  | .cons name _ shape rest, depth, key, node, (slot, slots) =>
    if key = name then
      some (match slot with
        | some _ => .error (.mismatch (.duplicateField name))
        | none => do
          let value ← shape.read depth node
          return (some value, slots))
    else
      (rest.store depth key node slots).map fun stored => do
        return (slot, ← stored)

def Fields.finish : (fields : Fields) → fields.Slots → Reading fields.Carrier
  | .nil, _ => .ok ()
  | .cons name droppable shape rest, (slot, slots) =>
    match slot.or (shape.whenMissing? droppable) with
    | some value => do
      let values ← rest.finish slots
      return (value, values)
    | none => .error (.mismatch (.missingField name))

end

def Shape.isLeftOut : (shape : Shape) → shape.Carrier → Bool
  | .optional _, value => value.isNone
  | .leaf _, _ | .list _, _ | .record _ _, _ => false

mutual

def Shape.write : (shape : Shape) → shape.Carrier → Value
  | .leaf leaf, value => leaf.write value
  | .optional content, value =>
    match value with
    | some value => content.write value
    | none => .null
  | .list item, values => .array (.ofList (values.map item.write))
  | .record _ fields, values => .object (fields.write values)

/-- The members of a record as they are written.  Absent ones are left out. -/
def Fields.write : (fields : Fields) → fields.Carrier → Entries
  | .nil, _ => .nil
  | .cons name _ shape rest, (value, values) =>
    if shape.isLeftOut value then rest.write values
    else .cons name (shape.write value) (rest.write values)

end

/-- Reads a whole text.  Anything but space behind the value is refused last. -/
def Shape.readText (shape : Shape) (text : List Text.Symbol) : Reading shape.Carrier := do
  let document := Document.read text
  let value ← shape.read 0 document.root
  if document.complete then return value else throw (.fault .malformed)

def Shape.writeText (shape : Shape) (style : Style) (value : shape.Carrier) : String :=
  (shape.write value).text style

end Geocoding.Json
