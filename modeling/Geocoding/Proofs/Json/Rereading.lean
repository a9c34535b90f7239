import Geocoding.Proofs.Json.Document
import Geocoding.Proofs.Json.Record
import Mathlib.Data.List.Forall2

/-!
# Written values read again

A value that is written in a shape and read again in the same shape comes back member by
member: what is left out is absent, and every other part is read from the tree of what was
written of it.  So the whole text can be read exactly if each leaf in it can, and it comes
back unchanged if each leaf does.
-/

namespace Geocoding.Json

open Text (Symbol)

def Leaf.Rereads (leaf : Leaf) (value result : leaf.Carrier) : Prop :=
  leaf.read 0 (leaf.write value).node = .ok result

mutual

/-- What a value that is written in a shape is read as in the same shape. -/
def Shape.Rereads : (shape : Shape) → shape.Carrier → shape.Carrier → Prop
  | .leaf leaf, value, result => leaf.Rereads value result
  | .optional content, value, result =>
    match value, result with
    | some value, some result => content.Rereads value result
    | none, none => True
    | _, _ => False
  | .list item, values, results => List.Forall₂ item.Rereads values results
  | .record _ fields, values, results => fields.Rereads values results

def Fields.Rereads : (fields : Fields) → fields.Carrier → fields.Carrier → Prop
  | .nil, _, _ => True
  | .cons _ _ shape rest, (value, values), (result, results) =>
    shape.Rereads value result ∧ rest.Rereads values results

end

def Leaf.neverNull : Leaf → Bool
  | double | single | coordinate => false
  | string | count | pair | placeKind => true

def Shape.neverNull : Shape → Bool
  | .leaf kind => kind.neverNull
  | .optional _ => false
  | .list _ | .record _ _ => true

mutual

/-- Whether absence and presence can be told apart wherever something may be absent, and
the members of each record by their names. -/
def Shape.regular : Shape → Bool
  | .leaf _ => true
  | .optional content => content.neverNull && content.regular
  | .list item => item.regular
  | .record _ fields => decide fields.names.Nodup && fields.regular

def Fields.regular : Fields → Bool
  | .nil => true
  | .cons _ _ shape rest => shape.regular && rest.regular

end

theorem Leaf.read_write (leaf : Leaf) (depth : Nat) (value : leaf.Carrier) :
    leaf.read depth (leaf.write value).node = leaf.read 0 (leaf.write value).node := by
  cases leaf with
  | coordinate =>
    simp only [write, read, Value.node]
    split <;> rfl
  | _ => rfl

theorem Leaf.read_write_iff {leaf : Leaf} {depth : Nat} {value result : leaf.Carrier} :
    leaf.read depth (leaf.write value).node = .ok result ↔ leaf.Rereads value result := by
  rw [leaf.read_write depth]
  rfl

theorem Leaf.node_write_ne_null {leaf : Leaf} (solid : leaf.neverNull = true)
    (value : leaf.Carrier) : (leaf.write value).node ≠ .null := by
  cases leaf with
  | double | single | coordinate => cases solid
  | string | count | pair | placeKind => nofun

theorem Shape.node_write_ne_null {shape : Shape} (solid : shape.neverNull = true)
    (value : shape.Carrier) : (shape.write value).node ≠ .null := by
  cases shape with
  | leaf leaf => exact leaf.node_write_ne_null solid value
  | optional _ => cases solid
  | list item => exact nofun
  | record name fields => exact nofun

def Items.ofList : List Node → Items
  | [] => .close
  | node :: nodes => .next node (ofList nodes)

theorem Items.readEach_ofList {Result : Type} {read : Node → Reading Result} {nodes : List Node}
    {results : List Result} :
    (ofList nodes).readEach read = .ok results ↔
      List.Forall₂ (fun node result => read node = .ok result) nodes results := by
  induction nodes generalizing results with
  | nil => simp [ofList, readEach, eq_comm]
  | cons node nodes ih =>
    simp only [ofList, readEach, Reading.bind_eq_ok, ih, pure, Except.pure, Except.ok.injEq,
      List.forall₂_cons_left_iff]
    constructor
    · rintro ⟨result, first, others, rest, rfl⟩
      exact ⟨result, others, first, rest, rfl⟩
    · rintro ⟨result, others, first, rest, rfl⟩
      exact ⟨result, first, others, rest, rfl⟩

theorem Shape.read_list_iff {item : Shape} {depth : Nat} {nodes : List Node}
    {values : List item.Carrier} :
    (Shape.list item).read depth (.array (.ofList nodes)) = .ok values ↔
      List.Forall₂ (fun node value => item.read (depth + 1) node = .ok value) nodes values :=
  Items.readEach_ofList

theorem Values.nodes_ofList (values : List Value) :
    (Values.ofList values).nodes = .ofList (values.map Value.node) := by
  induction values with
  | nil => rfl
  | cons value values ih => rw [Values.ofList, Values.nodes, ih, List.map_cons, Items.ofList]

/-! ## Records that are written -/

namespace Fields

variable {depth : Nat}

theorem heldBy_next_of_notMem {fields : Fields} {key : String} (unknown : key ∉ fields.names)
    {skipped : Except Fault Unit} {node : Node} {members : Members} {values : fields.Carrier} :
    fields.HeldBy depth (.next (.string (.ok key) skipped) node members) values ↔
      fields.HeldBy depth members values := by
  rw [← filledBy_noSlots_iff, ← filledBy_noSlots_iff, filledBy_next_of_notMem fields unknown]

theorem write_cons {name : String} {droppable : Bool} {shape : Shape} {rest : Fields}
    (value : shape.Carrier) (values : rest.Carrier) :
    (cons name droppable shape rest).write (value, values) =
      if shape.isLeftOut value then rest.write values
      else .cons name (shape.write value) (rest.write values) :=
  rfl

theorem valuesOf_write {fields : Fields} {key : String} (unknown : key ∉ fields.names)
    (values : fields.Carrier) : (fields.write values).nodes.valuesOf key = [] := by
  induction fields with
  | nil => rfl
  | cons name droppable shape rest ih =>
    simp only [names, List.mem_cons, not_or] at unknown
    obtain ⟨value, values⟩ := values
    have others := ih unknown.2 values
    rw [write_cons]
    split
    · exact others
    · simpa [Entries.nodes, Members.valuesOf, Ne.symm unknown.1] using others

theorem readable_write {known : List String} {fields : Fields}
    (all : ∀ name ∈ fields.names, name ∈ known) (values : fields.Carrier) :
    (fields.write values).nodes.Readable known := by
  induction fields with
  | nil => trivial
  | cons name droppable shape rest ih =>
    simp only [names, List.mem_cons, forall_eq_or_imp] at all
    obtain ⟨value, values⟩ := values
    have others := ih all.2 values
    rw [write_cons]
    split
    · exact others
    · rw [Entries.nodes, Members.readable_next]
      exact ⟨fun unknown => absurd all.1 unknown, others⟩

end Fields

theorem Shape.rereads_of_isLeftOut {shape : Shape} {value result : shape.Carrier}
    (absent : shape.isLeftOut value = true) (droppable : Bool) :
    shape.whenMissing? droppable = some result ↔ shape.Rereads value result := by
  cases shape with
  | optional content =>
    cases value with
    | none =>
      cases result with
      | none => exact iff_of_true rfl trivial
      | some result => exact iff_of_false nofun id
    | some value => cases absent
  | _ => cases absent

mutual

/-- What is written in a regular shape is read again as its parts are, and only so. -/
theorem Shape.read_write_iff : (shape : Shape) → (regular : shape.regular = true) →
    (depth : Nat) → {value result : shape.Carrier} →
      (shape.read depth (shape.write value).node = .ok result ↔ shape.Rereads value result)
  | .leaf leaf, _, _, _, _ => leaf.read_write_iff
  | .optional content, regular, depth, value, result => by
    simp only [Shape.regular, Bool.and_eq_true] at regular
    cases value with
    | none =>
      cases result with
      | none => exact iff_of_true rfl trivial
      | some result => exact iff_of_false nofun id
    | some value =>
      have present := Shape.node_write_ne_null regular.1 value
      have same : ((Shape.optional content).write (some value)).node =
        (content.write value).node := rfl
      rw [same, Shape.read_optional present]
      refine Reading.map_eq_ok.trans ?_
      cases result with
      | none => exact iff_of_false (fun ⟨_, _, absent⟩ => nomatch absent) id
      | some result =>
        rw [Shape.Rereads, ← content.read_write_iff regular.2 depth]
        simp
  | .list item, regular, depth, values, results => by
    have each (value result : item.Carrier) :
        item.read (depth + 1) (item.write value).node = .ok result ↔ item.Rereads value result :=
      item.read_write_iff regular (depth + 1)
    rw [Shape.write, Value.node, Values.nodes_ofList]
    refine (Shape.read_list_iff.trans
      (List.forall₂_map_left_iff.trans List.forall₂_map_left_iff)).trans ?_
    simp only [each]
    rfl
  | .record name fields, regular, depth, values, results => by
    simp only [Shape.regular, Bool.and_eq_true, decide_eq_true_eq] at regular
    have readable := Fields.readable_write (fun _ mem => mem) values
    exact ((Shape.read_object_iff regular.1).trans (and_iff_right readable)).trans
      (fields.heldBy_write_iff regular.1 regular.2 (depth + 1))

theorem Fields.heldBy_write_iff : (fields : Fields) → (distinct : fields.names.Nodup) →
    (regular : fields.regular = true) → (depth : Nat) → {values results : fields.Carrier} →
      (fields.HeldBy depth (fields.write values).nodes results ↔ fields.Rereads values results)
  | .nil, _, _, _, _, _ => Iff.rfl
  | .cons name droppable shape rest, distinct, regular, depth, (value, values),
      (result, results) => by
    simp only [Fields.names, List.nodup_cons] at distinct
    simp only [Fields.regular, Bool.and_eq_true] at regular
    have others : rest.HeldBy depth (rest.write values).nodes results ↔
        rest.Rereads values results :=
      rest.heldBy_write_iff distinct.2 regular.2 depth
    rw [Fields.write_cons, Fields.HeldBy, Fields.Rereads]
    split
    · next absent =>
      rw [Fields.valuesOf_write distinct.1, others, ← Shape.rereads_of_isLeftOut absent droppable]
      rfl
    · rw [Entries.nodes, Fields.heldBy_next_of_notMem distinct.1, others,
        ← shape.read_write_iff regular.1 depth]
      simp [Members.valuesOf, Fields.valuesOf_write distinct.1, Shape.HoldsIn]

end

/-- The text of a value is read as what its parts are read as, in either style. -/
theorem Shape.readText_writeText_iff {shape : Shape} (regular : shape.regular = true)
    (style : Style) {value result : shape.Carrier} :
    shape.readText (Symbol.ofString (shape.writeText style value)) = .ok result ↔
      shape.Rereads value result := by
  rw [readText, writeText, read_text, ← shape.read_write_iff regular 0]
  simp only [if_true, Reading.bind_eq_ok, pure, Except.pure, Except.ok.injEq, exists_eq_right]

/-! ## Shapes without floating-point numbers -/

/-- Whether what is written of a leaf is read as the same value.  Counts have to fit into
64 bits, and floating-point numbers may change in their last digit. -/
def Leaf.exact : Leaf → Bool
  | string | placeKind => true
  | count | double | single | pair | coordinate => false

mutual

def Shape.exact : Shape → Bool
  | .leaf leaf => leaf.exact
  | .optional content => content.exact
  | .list item => item.exact
  | .record _ fields => fields.exact

def Fields.exact : Fields → Bool
  | .nil => true
  | .cons _ _ shape rest => shape.exact && rest.exact

end

theorem Leaf.rereads_self {leaf : Leaf} (exact : leaf.exact = true) (value : leaf.Carrier) :
    leaf.Rereads value value := by
  cases leaf with
  | string => rfl
  | placeKind =>
    change placeKindOf value.name = .ok value
    rw [placeKindOf, PlaceKind.ofName?_name]
  | count | double | single | pair | coordinate => cases exact

mutual

theorem Shape.rereads_self : (shape : Shape) → (exact : shape.exact = true) →
    (value : shape.Carrier) → shape.Rereads value value
  | .leaf leaf, exact, value => leaf.rereads_self exact value
  | .optional _, _, none => trivial
  | .optional content, exact, some value => content.rereads_self exact value
  | .list item, exact, _ => List.forall₂_same.mpr fun value _ => item.rereads_self exact value
  | .record _ fields, exact, values => fields.rereads_self exact values

theorem Fields.rereads_self : (fields : Fields) → (exact : fields.exact = true) →
    (values : fields.Carrier) → fields.Rereads values values
  | .nil, _, _ => trivial
  | .cons _ _ shape rest, exact, (value, values) => by
    simp only [Fields.exact, Bool.and_eq_true] at exact
    exact ⟨shape.rereads_self exact.1 value, rest.rereads_self exact.2 values⟩

end

end Geocoding.Json
