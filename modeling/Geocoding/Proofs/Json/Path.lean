import Geocoding.Proofs.Json.Record
import Mathlib.Data.List.Forall2

/-!
# Members by name or by position

A record may be read from an object, where its members have names, or from an array, where
they have positions.  Either way each of its values is read from one node of the tree, or
is the one that stands for a missing member.  So a value can be found in the tree by the
names and positions that lead to it.
-/

namespace Geocoding.Json

def Items.toList : Items → List Node
  | .next item rest => item :: rest.toList
  | .close | .cut _ => []

/-- A member of a record: its name in an object and its position in an array. -/
structure Member where
  name : String
  position : Nat
deriving DecidableEq, Repr

namespace Node

def member? (node : Node) (member : Member) : Option Node :=
  match node with
  | object members => (members.valuesOf member.name).head?
  | array items => items.toList[member.position]?
  | _ => none

/-- What a path of members leads to. -/
def at? (node : Node) : List Member → Option Node
  | [] => some node
  | member :: path => (node.member? member).bind (·.at? path)

theorem at?_singleton (node : Node) (member : Member) :
    node.at? [member] = node.member? member := by
  rw [at?]
  cases node.member? member <;> rfl

theorem at?_of_member? {node inner : Node} {member : Member}
    (stands : node.member? member = some inner) (path : List Member) :
    node.at? (member :: path) = inner.at? path := by
  rw [at?, stands, Option.bind_some]

theorem at?_of_member?_eq_none {node : Node} {member : Member}
    (missing : node.member? member = none) (path : List Member) :
    node.at? (member :: path) = none := by
  rw [at?, missing, Option.bind_none]

def text? : Node → Option String
  | string (.ok text) _ => some text
  | _ => none

def count? : Node → Option Nat
  | number (.ok (.natural value)) _ => some value
  | _ => none

def coordinate? : Node → Option Float
  | number (.ok value) _ => some value.toDouble
  | string (.ok text) _ => Decimal.double? (Text.trim text.toList)
  | _ => none

/-- What may be left out or be `null`, if it is one of these or else of the kind. -/
def optional? {Content : Type} (kind : Node → Option Content) :
    Option Node → Option (Option Content)
  | none | some null => some none
  | some node => (kind node).map some

def items? : Option Node → Option (List Node)
  | none => some []
  | some (array items) => some items.toList
  | some _ => none

end Node

/-- What a member of a record holds if this is all that stands for it. -/
def Shape.StandsFor (shape : Shape) (droppable : Bool) (depth : Nat) (value : shape.Carrier) :
    Option Node → Prop
  | some node => shape.read depth node = .ok value
  | none => shape.whenMissing? droppable = some value

/-- Each value of a record, from the member at this position on, is read from what stands
for it in the node. -/
def Fields.TakenFrom (node : Node) (depth : Nat) :
    (fields : Fields) → Nat → fields.Carrier → Prop
  | .nil, _, _ => True
  | .cons name droppable shape rest, position, (value, values) =>
    shape.StandsFor droppable depth value (node.member? ⟨name, position⟩) ∧
      rest.TakenFrom node depth (position + 1) values

namespace Fields

variable {depth : Nat}

theorem takenFrom_object {fields : Fields} {members : Members} {position : Nat}
    {values : fields.Carrier} (held : fields.HeldBy depth members values) :
    fields.TakenFrom (.object members) depth position values := by
  induction fields generalizing position with
  | nil => trivial
  | cons name droppable shape rest ih =>
    obtain ⟨value, values⟩ := values
    obtain ⟨holds, others⟩ := held
    refine ⟨?_, ih others⟩
    simp only [Node.member?]
    match found : members.valuesOf name with
    | [] => rwa [found] at holds
    | [node] => rwa [found] at holds
    | _ :: _ :: _ => rw [found] at holds; exact holds.elim

theorem whenMissing?_of_whenDropped? {shape : Shape} {droppable : Bool} {value : shape.Carrier}
    (dropped : shape.whenDropped? droppable = some value) :
    shape.whenMissing? droppable = some value := by
  cases droppable with
  | true => exact dropped
  | false => cases dropped

theorem takenFrom_items {fields : Fields} {record : String} {size index : Nat}
    {items left : Items} {values : fields.Carrier}
    (behind : left.toList = items.toList.drop index)
    (read : fields.readItems record size depth index left = .ok values) :
    fields.TakenFrom (.array items) depth index values := by
  induction fields generalizing index left with
  | nil => trivial
  | cons name droppable shape rest ih =>
    have stands : (Node.array items).member? ⟨name, index⟩ = left.toList.head? := by
      rw [behind, List.head?_drop, Node.member?]
    cases left with
    | cut fault => cases read
    | close =>
      cases dropped : shape.whenDropped? droppable with
      | none => rw [readItems, dropped] at read; cases read
      | some value =>
        rw [readItems, dropped] at read
        obtain ⟨values', others, same⟩ := Reading.bind_eq_ok.mp read
        obtain rfl : (value, values') = values := Except.ok.inj same
        refine ⟨?_, ih ?_ others⟩
        · rw [stands]
          exact whenMissing?_of_whenDropped? dropped
        · rw [← List.tail_drop, ← behind]
          rfl
    | next item more =>
      obtain ⟨value, first, rest'⟩ := Reading.bind_eq_ok.mp read
      obtain ⟨values', others, same⟩ := Reading.bind_eq_ok.mp rest'
      obtain rfl : (value, values') = values := Except.ok.inj same
      refine ⟨?_, ih ?_ others⟩
      · rw [stands]
        exact first
      · rw [← List.tail_drop, ← behind]
        rfl

end Fields

/-- A record is read from the nodes that stand for its members. -/
theorem Shape.takenFrom_of_read {name : String} {fields : Fields}
    (distinct : fields.names.Nodup) {depth : Nat} {node : Node} {values : fields.Carrier}
    (read : (Shape.record name fields).read depth node = .ok values) :
    fields.TakenFrom node (depth + 1) 0 values := by
  cases node with
  | object members => exact Fields.takenFrom_object ((read_object_iff distinct).mp read).2
  | array items => exact Fields.takenFrom_items rfl read
  | null | boolean _ | broken _ | absent => cases read
  | number used skipped | string used skipped =>
    obtain ⟨_, _, refused⟩ := Reading.bind_eq_ok.mp read
    cases refused

theorem Shape.read_root_of_readText {shape : Shape} {text : List Text.Symbol}
    {value : shape.Carrier} (read : shape.readText text = .ok value) :
    shape.read 0 (Document.read text).root = .ok value := by
  obtain ⟨found, readRoot, whole⟩ := Reading.bind_eq_ok.mp read
  split at whole
  · rwa [← Except.ok.inj whole]
  · cases whole

/-- An array is read item by item. -/
theorem Items.forall₂_of_readEach {Result : Type} {read : Node → Reading Result}
    {items : Items} {results : List Result} (ok : items.readEach read = .ok results) :
    List.Forall₂ (fun node result => read node = .ok result) items.toList results := by
  induction items using Items.rec (motive_1 := fun _ => True) (motive_3 := fun _ => True)
    generalizing results with
  | close => cases ok; exact .nil
  | cut fault => cases ok
  | next item rest _ ih =>
    obtain ⟨result, first, more⟩ := Reading.bind_eq_ok.mp ok
    obtain ⟨results', others, same⟩ := Reading.bind_eq_ok.mp more
    obtain rfl : result :: results' = results := Except.ok.inj same
    exact .cons first (ih others)
  | _ => trivial

namespace Shape.StandsFor

variable {droppable : Bool} {depth : Nat} {found : Option Node}

theorem text {value : String} (stands : (leaf .string).StandsFor droppable depth value found) :
    found.bind Node.text? = some value := by
  rcases found with _ | node
  · cases stands
  · cases node with
    | string used skipped => rw [Reading.ofFault_eq_ok.mp stands]; rfl
    | number used skipped => obtain ⟨_, _, refused⟩ := Reading.bind_eq_ok.mp stands; cases refused
    | _ => cases stands

theorem count {value : Nat} (stands : (leaf .count).StandsFor droppable depth value found) :
    found.bind Node.count? = some value := by
  rcases found with _ | node
  · cases stands
  · cases node with
    | number used skipped =>
      match used with
      | .ok (.natural number) => cases stands; rfl
      | .ok (.negative _) | .ok (.real _) | .error _ => cases stands
    | string used skipped => obtain ⟨_, _, refused⟩ := Reading.bind_eq_ok.mp stands; cases refused
    | _ => cases stands

theorem coordinate {value : Float}
    (stands : (leaf .coordinate).StandsFor droppable depth value found) :
    found.bind Node.coordinate? = some value := by
  rcases found with _ | node
  · cases stands
  · obtain ⟨_, _, read⟩ := Reading.bind_eq_ok.mp stands
    match node with
    | .number (.ok number) _ => cases read; rfl
    | .string (.ok text) _ =>
      change Leaf.parseCoordinate text = .ok value at read
      rw [Leaf.parseCoordinate] at read
      rw [Option.bind_some, Node.coordinate?]
      split at read
      · next number parsed => cases read; exact parsed
      · cases read
    | .number (.error _) _ | .string (.error _) _ | .null | .boolean _ | .array _ | .object _
    | .broken _ | .absent => cases read

theorem optional {content : Shape} {value : Option content.Carrier}
    (stands : (Shape.optional content).StandsFor droppable depth value found) :
    (value = none ∧ (found = none ∨ found = some .null)) ∨
      ∃ node present, found = some node ∧ node ≠ .null ∧ value = some present ∧
        content.read depth node = .ok present := by
  rcases found with _ | node
  · exact .inl ⟨(Option.some.inj stands).symm, .inl rfl⟩
  · by_cases absent : node = .null
    · subst absent
      exact .inl ⟨(Except.ok.inj stands).symm, .inr rfl⟩
    · obtain ⟨present, read, rfl⟩ := Reading.map_eq_ok.mp ((read_optional absent).symm.trans stands)
      exact .inr ⟨node, present, rfl, absent, rfl, read⟩

theorem optional_kind {Content : Type} {content : Shape} {kind : Node → Option Content}
    {made : content.Carrier → Content}
    (each : ∀ node value, content.read depth node = .ok value → kind node = some (made value))
    {value : Option content.Carrier}
    (stands : (Shape.optional content).StandsFor droppable depth value found) :
    Node.optional? kind found = some (value.map made) := by
  obtain ⟨rfl, rfl | rfl⟩ | ⟨node, present, rfl, absent, rfl, read⟩ := stands.optional
  · rfl
  · rfl
  · have same := each node present read
    cases node with
    | null => contradiction
    | _ => exact congrArg (Option.map some) same

theorem optionalText {value : Option String}
    (stands : (Shape.optional (.leaf .string)).StandsFor droppable depth value found) :
    Node.optional? Node.text? found = some value :=
  (stands.optional_kind fun node _ read => @text droppable depth (some node) _ read).trans
    (congrArg some Option.map_id')

theorem optionalCount {value : Option Nat}
    (stands : (Shape.optional (.leaf .count)).StandsFor droppable depth value found) :
    Node.optional? Node.count? found = some value :=
  (stands.optional_kind fun node _ read => @count droppable depth (some node) _ read).trans
    (congrArg some Option.map_id')

theorem list {item : Shape} {values : List item.Carrier}
    (stands : (Shape.list item).StandsFor droppable depth values found) :
    ∃ nodes, Node.items? found = some nodes ∧
      List.Forall₂ (fun node value => item.read (depth + 1) node = .ok value) nodes values := by
  rcases found with _ | node
  · cases droppable with
    | true => cases stands; exact ⟨[], rfl, .nil⟩
    | false => cases stands
  · cases node with
    | array items => exact ⟨items.toList, rfl, Items.forall₂_of_readEach stands⟩
    | number used skipped | string used skipped =>
      obtain ⟨_, _, refused⟩ := Reading.bind_eq_ok.mp stands
      cases refused
    | _ => cases stands

theorem record {name : String} {fields : Fields} (distinct : fields.names.Nodup)
    {values : fields.Carrier}
    (stands : (Shape.record name fields).StandsFor droppable depth values found) :
    ∃ node, found = some node ∧ fields.TakenFrom node (depth + 1) 0 values := by
  rcases found with _ | node
  · cases stands
  · exact ⟨node, rfl, takenFrom_of_read distinct stands⟩

end Shape.StandsFor

end Geocoding.Json
