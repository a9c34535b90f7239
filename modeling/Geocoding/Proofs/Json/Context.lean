import Geocoding.Proofs.Json.Path
import Geocoding.Proofs.Json.Rereading
import Mathlib.Data.List.Nodup
import Mathlib.Logic.Relation

/-!
# Values inside of values

A value that is read in a shape has parts that are read in shapes of their own: the items
of a list and the members of a record, whether the record stands in an object or in an array.
How such a part is reached is told by a context, a shape with a hole in it.

What comes of reading the whole depends on the part only through what comes of reading the
part, and nothing is read from a whole with a part that cannot be read.
-/

namespace Geocoding.Json

/-- The object of some members, each given by the nodes of its name and its value. -/
def Members.ofList : List (Node × Node) → Members
  | [] => .close
  | (name, value) :: entries => .next name value (ofList entries)

structure Field where
  name : String
  droppable : Bool
  shape : Shape

def Fields.toList : Fields → List Field
  | .nil => []
  | .cons name droppable shape rest => ⟨name, droppable, shape⟩ :: rest.toList

/-- The part of a value in the outer shape that is read in the inner one stands in the hole. -/
inductive Shape.Context : Shape → Shape → (Node → Node) → Prop
  | here {shape : Shape} : Context shape shape fun part => part
  | present {content inner : Shape} {hole : Node → Node} (inside : Context content inner hole) :
      Context (.optional content) inner hole
  | item {item inner : Shape} {hole : Node → Node} (before after : List Node)
      (inside : Context item inner hole) :
      Context (.list item) inner fun part => .array (.ofList (before ++ hole part :: after))
  | member {name : String} {fields : Fields} {field : Field} {inner : Shape}
      {hole : Node → Node} (declared : field ∈ fields.toList) {key : Node}
      (named : key.text? = some field.name) (before after : List (Node × Node))
      (inside : Context field.shape inner hole) :
      Context (.record name fields) inner fun part =>
        .object (.ofList (before ++ (key, hole part) :: after))
  | position {name : String} {fields : Fields} {field : Field} {inner : Shape}
      {hole : Node → Node} (before after : List Node)
      (declared : fields.toList[before.length]? = some field)
      (inside : Context field.shape inner hole) :
      Context (.record name fields) inner fun part =>
        .array (.ofList (before ++ hole part :: after))

/-! ## Declared members -/

namespace Fields

theorem names_eq_map_toList (fields : Fields) : fields.names = fields.toList.map Field.name := by
  induction fields with
  | nil => rfl
  | cons name droppable shape rest ih => rw [names, ih, toList, List.map_cons]

theorem mem_names_of_mem {fields : Fields} {field : Field} (declared : field ∈ fields.toList) :
    field.name ∈ fields.names := by
  rw [names_eq_map_toList]
  exact List.mem_map_of_mem declared

theorem eq_of_name_eq {fields : Fields} (distinct : fields.names.Nodup) {field other : Field}
    (declared : field ∈ fields.toList) (alsoDeclared : other ∈ fields.toList)
    (same : field.name = other.name) : field = other := by
  rw [names_eq_map_toList] at distinct
  exact List.inj_on_of_nodup_map distinct declared alsoDeclared same

theorem regular_of_mem {fields : Fields} (regular : fields.regular = true) {field : Field}
    (declared : field ∈ fields.toList) : field.shape.regular = true := by
  induction fields with
  | nil => cases declared
  | cons name droppable shape rest ih =>
    rw [Fields.regular, Bool.and_eq_true] at regular
    rcases List.mem_cons.mp declared with rfl | others
    · exact regular.1
    · exact ih regular.2 others

end Fields

theorem Shape.regular_record {name : String} {fields : Fields}
    (regular : (Shape.record name fields).regular = true) :
    fields.names.Nodup ∧ fields.regular = true := by
  rw [Shape.regular, Bool.and_eq_true, decide_eq_true_eq] at regular
  exact regular

/-! ## Objects of listed members -/

namespace Members

theorem valuesOf_cons (name : String) (entry : Node × Node) (entries : List (Node × Node)) :
    (ofList (entry :: entries)).valuesOf name =
      if entry.1.text? = some name then entry.2 :: (ofList entries).valuesOf name
      else (ofList entries).valuesOf name := by
  obtain ⟨key, value⟩ := entry
  rw [ofList]
  cases key with
  | string used skipped => cases used <;> simp [valuesOf, Node.text?]
  | _ => simp [valuesOf, Node.text?]

theorem valuesOf_ofList (name : String) (entries : List (Node × Node)) :
    (ofList entries).valuesOf name =
      (entries.filter fun entry => entry.1.text? = some name).map Prod.snd := by
  induction entries with
  | nil => rfl
  | cons entry entries ih =>
    rw [valuesOf_cons, ih]
    by_cases named : entry.1.text? = some name
    · rw [if_pos named, List.filter_cons_of_pos (by simpa using named), List.map_cons]
    · rw [if_neg named, List.filter_cons_of_neg (by simpa using named)]

theorem valuesOf_append (name : String) (before after : List (Node × Node)) :
    (ofList (before ++ after)).valuesOf name =
      (ofList before).valuesOf name ++ (ofList after).valuesOf name := by
  simp only [valuesOf_ofList, List.filter_append, List.map_append]

theorem text?_eq_some {key : Node} {text : String} :
    key.text? = some text ↔ ∃ skipped, key = .string (.ok text) skipped := by
  constructor
  · intro told
    cases key with
    | string used skipped =>
      cases used with
      | ok found => exact ⟨skipped, by rw [Option.some.inj told]⟩
      | error fault => cases told
    | _ => cases told
  · rintro ⟨skipped, rfl⟩
    rfl

theorem readable_ofList {known : List String} {entries : List (Node × Node)} :
    (ofList entries).Readable known ↔
      ∀ entry ∈ entries, ∃ key, entry.1.text? = some key ∧
        (key ∉ known → entry.2.skip = .ok ()) := by
  induction entries with
  | nil => exact iff_of_true trivial nofun
  | cons entry entries ih =>
    rw [List.forall_mem_cons, ← ih, ofList, Readable]
    refine and_congr_left fun _ => exists_congr fun key => ?_
    rw [text?_eq_some, exists_and_right]

end Members

theorem Shape.holdsIn_perm {shape : Shape} {droppable : Bool} {depth : Nat}
    {value : shape.Carrier} {nodes others : List Node} (same : nodes.Perm others) :
    shape.HoldsIn droppable depth value nodes ↔ shape.HoldsIn droppable depth value others := by
  match nodes, others with
  | [], [] => rfl
  | [node], [other] =>
    obtain rfl : node = other := by simpa using same
    rfl
  | _ :: _ :: _, _ :: _ :: _ => rfl
  | [], _ :: _ | _ :: _, [] | [_], _ :: _ :: _ | _ :: _ :: _, [_] =>
    have lengths := same.length_eq
    simp at lengths

namespace Fields

variable {depth : Nat}

theorem heldBy_congr {fields : Fields} {members others : Members} {values : fields.Carrier}
    (same : ∀ field ∈ fields.toList, ∀ value,
      field.shape.HoldsIn field.droppable depth value (members.valuesOf field.name) ↔
        field.shape.HoldsIn field.droppable depth value (others.valuesOf field.name)) :
    fields.HeldBy depth members values ↔ fields.HeldBy depth others values := by
  induction fields with
  | nil => rfl
  | cons name droppable shape rest ih =>
    obtain ⟨value, values⟩ := values
    rw [toList, List.forall_mem_cons] at same
    rw [HeldBy, HeldBy, same.1 value, ih same.2]

theorem HeldBy.holdsIn {fields : Fields} {members : Members} {values : fields.Carrier}
    (held : fields.HeldBy depth members values) {field : Field}
    (declared : field ∈ fields.toList) :
    ∃ value, field.shape.HoldsIn field.droppable depth value (members.valuesOf field.name) := by
  induction fields with
  | nil => cases declared
  | cons name droppable shape rest ih =>
    obtain ⟨value, values⟩ := values
    rcases List.mem_cons.mp declared with rfl | others
    · exact ⟨value, held.1⟩
    · exact ih held.2 others

/-! ## Records in arrays -/

/-- What the members of a record hold if they are read from these values by position. -/
def PlacedIn : (fields : Fields) → Nat → List Node → fields.Carrier → Prop
  | .nil, _, nodes, _ => nodes = []
  | .cons _ droppable shape rest, depth, nodes, (value, values) =>
    (match nodes with
      | [] => shape.whenDropped? droppable = some value
      | node :: _ => shape.read depth node = .ok value) ∧
        rest.PlacedIn depth nodes.tail values

theorem readItems_ofList_iff {fields : Fields} {record : String} {size index : Nat}
    {nodes : List Node} {values : fields.Carrier} :
    fields.readItems record size depth index (.ofList nodes) = .ok values ↔
      fields.PlacedIn depth nodes values := by
  induction fields generalizing index nodes with
  | nil =>
    cases nodes with
    | nil => exact iff_of_true rfl rfl
    | cons node nodes =>
      constructor
      · intro read
        cases read
      · intro placed
        cases placed
  | cons name droppable shape rest ih =>
    obtain ⟨value, values⟩ := values
    cases nodes with
    | nil =>
      rw [Items.ofList, readItems, PlacedIn, List.tail_nil]
      cases dropped : shape.whenDropped? droppable with
      | none =>
        constructor
        · intro read
          cases read
        · intro placed
          cases placed.1
      | some found =>
        rw [Option.some_inj, ← @ih (index + 1) []]
        exact Reading.map_mk_eq_ok found (value, values)
    | cons node nodes =>
      rw [Items.ofList, readItems, PlacedIn, List.tail_cons, ← @ih (index + 1) nodes]
      refine Reading.bind_eq_ok.trans ?_
      constructor
      · rintro ⟨found, read, others⟩
        obtain ⟨rfl, rest⟩ := (Reading.map_mk_eq_ok found (value, values)).mp others
        exact ⟨read, rest⟩
      · rintro ⟨read, others⟩
        exact ⟨value, read, (Reading.map_mk_eq_ok value (value, values)).mpr ⟨rfl, others⟩⟩

theorem placedIn_congr {fields : Fields} {before after : List Node} {node other : Node}
    {values : fields.Carrier}
    (same : ∀ field, fields.toList[before.length]? = some field → ∀ value,
      field.shape.read depth node = .ok value ↔ field.shape.read depth other = .ok value) :
    fields.PlacedIn depth (before ++ node :: after) values ↔
      fields.PlacedIn depth (before ++ other :: after) values := by
  induction before generalizing fields with
  | nil =>
    cases fields with
    | nil => exact iff_of_false nofun nofun
    | cons name droppable shape rest =>
      obtain ⟨value, values⟩ := values
      have first := same ⟨name, droppable, shape⟩ rfl value
      rw [List.nil_append, List.nil_append, PlacedIn, PlacedIn, first, List.tail_cons,
        List.tail_cons]
  | cons first before ih =>
    cases fields with
    | nil => exact iff_of_false nofun nofun
    | cons name droppable shape rest =>
      obtain ⟨value, values⟩ := values
      have others := @ih rest values same
      rw [List.cons_append, List.cons_append, PlacedIn, PlacedIn, List.tail_cons, List.tail_cons,
        others]

theorem PlacedIn.read_at {fields : Fields} {before after : List Node} {node : Node}
    {values : fields.Carrier} (placed : fields.PlacedIn depth (before ++ node :: after) values)
    {field : Field} (declared : fields.toList[before.length]? = some field) :
    ∃ value, field.shape.read depth node = .ok value := by
  induction before generalizing fields with
  | nil =>
    cases fields with
    | nil => cases declared
    | cons name droppable shape rest =>
      obtain ⟨value, values⟩ := values
      obtain rfl : (⟨name, droppable, shape⟩ : Field) = field := Option.some.inj declared
      exact ⟨value, placed.1⟩
  | cons first before ih =>
    cases fields with
    | nil => cases declared
    | cons name droppable shape rest =>
      obtain ⟨value, values⟩ := values
      exact ih placed.2 declared

end Fields

/-! ## Arrays of listed values -/

theorem forall₂_replace {First Second : Type} {related : First → Second → Prop}
    {before after : List First} {first other : First} {seconds : List Second}
    (same : ∀ second, related first second ↔ related other second) :
    List.Forall₂ related (before ++ first :: after) seconds ↔
      List.Forall₂ related (before ++ other :: after) seconds := by
  induction before generalizing seconds with
  | nil => simp only [List.nil_append, List.forall₂_cons_left_iff, same]
  | cons head before ih => simp only [List.cons_append, List.forall₂_cons_left_iff, ih]

theorem exists_of_forall₂ {First Second : Type} {related : First → Second → Prop}
    {before after : List First} {first : First} {seconds : List Second}
    (each : List.Forall₂ related (before ++ first :: after) seconds) :
    ∃ second, related first second := by
  have behind := List.forall₂_drop before.length each
  rw [List.drop_left, List.forall₂_cons_left_iff] at behind
  obtain ⟨second, _, holds, _⟩ := behind
  exact ⟨second, holds⟩

theorem Shape.read_object_congr {name : String} {fields : Fields}
    (distinct : fields.names.Nodup) {members others : Members}
    (readable : members.Readable fields.names ↔ others.Readable fields.names) {depth : Nat}
    (same : ∀ field ∈ fields.toList, ∀ value,
      field.shape.HoldsIn field.droppable (depth + 1) value (members.valuesOf field.name) ↔
        field.shape.HoldsIn field.droppable (depth + 1) value (others.valuesOf field.name))
    (values : fields.Carrier) :
    (Shape.record name fields).read depth (.object members) = .ok values ↔
      (Shape.record name fields).read depth (.object others) = .ok values := by
  have held : fields.HeldBy (depth + 1) members values ↔ fields.HeldBy (depth + 1) others values :=
    Fields.heldBy_congr same
  exact (read_object_iff distinct).trans
    ((and_congr readable held).trans (read_object_iff distinct).symm)

theorem Shape.read_array_iff {name : String} {fields : Fields} {depth : Nat} {nodes : List Node}
    {values : fields.Carrier} :
    (Shape.record name fields).read depth (.array (.ofList nodes)) = .ok values ↔
      fields.PlacedIn (depth + 1) nodes values :=
  Fields.readItems_ofList_iff

/-! ## Parts in their contexts -/

namespace Members

theorem valuesOf_replace {key part other : Node} (before after : List (Node × Node))
    {name : String} (differs : key.text? ≠ some name) :
    (ofList (before ++ (key, part) :: after)).valuesOf name =
      (ofList (before ++ (key, other) :: after)).valuesOf name := by
  rw [valuesOf_append, valuesOf_append, valuesOf_cons, valuesOf_cons, if_neg differs,
    if_neg differs]

theorem valuesOf_middle {key part : Node} (before after : List (Node × Node)) {name : String}
    (named : key.text? = some name) :
    (ofList (before ++ (key, part) :: after)).valuesOf name =
      (ofList before).valuesOf name ++ part :: (ofList after).valuesOf name := by
  rw [valuesOf_append, valuesOf_cons, if_pos named]

end Members

namespace Shape

theorem holdsIn_middle {shape : Shape} {droppable : Bool} {depth : Nat} {value : shape.Carrier}
    {before after : List Node} {node : Node} :
    shape.HoldsIn droppable depth value (before ++ node :: after) ↔
      before = [] ∧ after = [] ∧ shape.read depth node = .ok value := by
  rcases before with _ | ⟨first, before⟩
  · rcases after with _ | ⟨second, after⟩
    · simp [HoldsIn]
    · simp [HoldsIn]
  · rcases before with _ | ⟨second, before⟩ <;> simp [HoldsIn]

end Shape

namespace Shape.Context

variable {outer inner : Shape} {hole : Node → Node}

theorem ne_null (context : outer.Context inner hole) {part : Node} (solid : part ≠ .null) :
    hole part ≠ .null := by
  induction context with
  | here => exact solid
  | present inside ih => exact ih
  | item before after inside ih => exact nofun
  | member declared named before after inside ih => exact nofun
  | position before after declared inside ih => exact nofun

theorem regular (context : outer.Context inner hole) (regular : outer.regular = true) :
    inner.regular = true := by
  induction context with
  | here => exact regular
  | present inside ih =>
    rw [Shape.regular, Bool.and_eq_true] at regular
    exact ih regular.2
  | item before after inside ih => exact ih regular
  | member declared named before after inside ih =>
    exact ih (Fields.regular_of_mem (regular_record regular).2 declared)
  | position before after declared inside ih =>
    exact ih (Fields.regular_of_mem (regular_record regular).2 (List.mem_of_getElem? declared))

/-- Two parts that are read alike are read alike in every context. -/
theorem read_congr (context : outer.Context inner hole) (regular : outer.regular = true)
    {part other : Node} (solid : part ≠ .null) (alsoSolid : other ≠ .null)
    (same : ∀ depth value, inner.read depth part = .ok value ↔ inner.read depth other = .ok value)
    (depth : Nat) (value : outer.Carrier) :
    outer.read depth (hole part) = .ok value ↔ outer.read depth (hole other) = .ok value := by
  induction context generalizing depth with
  | here => exact same depth value
  | @present content inner hole inside ih =>
    rw [Shape.regular, Bool.and_eq_true] at regular
    rw [read_optional (inside.ne_null solid), read_optional (inside.ne_null alsoSolid)]
    refine Reading.map_eq_ok.trans (Iff.trans ?_ Reading.map_eq_ok.symm)
    exact exists_congr fun content => and_congr_left fun _ => ih regular.2 same depth content
  | @item item inner hole before after inside ih =>
    have each := ih regular same (depth + 1)
    exact read_list_iff.trans ((forall₂_replace each).trans read_list_iff.symm)
  | @member name fields field inner hole declared key named before after inside ih =>
    obtain ⟨distinct, regularFields⟩ := regular_record regular
    have each := ih (Fields.regular_of_mem regularFields declared) same (depth + 1)
    have known : field.name ∈ fields.names := Fields.mem_names_of_mem declared
    refine read_object_congr distinct ?_ ?_ value
    · rw [Members.readable_ofList, Members.readable_ofList, List.forall_mem_append,
        List.forall_mem_append, List.forall_mem_cons, List.forall_mem_cons]
      simp [named, known]
    · intro found alsoDeclared value
      by_cases sameName : field.name = found.name
      · obtain rfl := Fields.eq_of_name_eq distinct declared alsoDeclared sameName
        rw [Members.valuesOf_middle before after named, Members.valuesOf_middle before after named,
          holdsIn_middle, holdsIn_middle, each]
      · have differs : key.text? ≠ some found.name := by
          rw [named]
          exact fun equal => sameName (Option.some.inj equal)
        rw [Members.valuesOf_replace before after differs]
  | @position name fields field inner hole before after declared inside ih =>
    have regularFields := (regular_record regular).2
    refine read_array_iff.trans (Iff.trans ?_ read_array_iff.symm)
    apply Fields.placedIn_congr
    intro found alsoDeclared value
    obtain rfl := Option.some.inj (declared.symm.trans alsoDeclared)
    exact ih (Fields.regular_of_mem regularFields (List.mem_of_getElem? declared)) same
      (depth + 1) value

theorem exists_read (context : outer.Context inner hole) (regular : outer.regular = true)
    {part : Node} (solid : part ≠ .null) {depth : Nat} {value : outer.Carrier}
    (read : outer.read depth (hole part) = .ok value) :
    ∃ below content, inner.read below part = .ok content := by
  induction context generalizing depth with
  | here => exact ⟨depth, value, read⟩
  | present inside ih =>
    rw [Shape.regular, Bool.and_eq_true] at regular
    rw [read_optional (inside.ne_null solid)] at read
    obtain ⟨content, found, _⟩ := Reading.map_eq_ok.mp read
    exact ih regular.2 found
  | item before after inside ih =>
    obtain ⟨content, found⟩ := exists_of_forall₂ (read_list_iff.mp read)
    exact ih regular found
  | member declared named before after inside ih =>
    obtain ⟨distinct, regularFields⟩ := regular_record regular
    obtain ⟨content, holds⟩ := ((read_object_iff distinct).mp read).2.holdsIn declared
    rw [Members.valuesOf_middle before after named, holdsIn_middle] at holds
    exact ih (Fields.regular_of_mem regularFields declared) holds.2.2
  | position before after declared inside ih =>
    have regularFields := (regular_record regular).2
    obtain ⟨content, found⟩ := (read_array_iff.mp read).read_at declared
    exact ih (Fields.regular_of_mem regularFields (List.mem_of_getElem? declared)) found

end Shape.Context

/-! ## Changes in contexts -/

/-- Two values in a shape come from one another by changes to the records in them, each of
which may go either way. -/
def Shape.Alike (change : Fields → Node → Node → Prop) (outer : Shape) : Node → Node → Prop :=
  Relation.EqvGen fun first second =>
    ∃ name fields hole part other, outer.Context (.record name fields) hole ∧
      change fields part other ∧ first = hole part ∧ second = hole other

/-- Changes that no record can be read apart by cannot be read apart in any value. -/
theorem Shape.Alike.read_iff {change : Fields → Node → Node → Prop} {outer : Shape}
    (regular : outer.regular = true)
    (keeps : ∀ name fields part other, (Shape.record name fields).regular = true →
      change fields part other → part ≠ .null ∧ other ≠ .null ∧
        ∀ depth value, (Shape.record name fields).read depth part = .ok value ↔
          (Shape.record name fields).read depth other = .ok value)
    {first second : Node} (alike : outer.Alike change first second) (depth : Nat)
    (value : outer.Carrier) :
    outer.read depth first = .ok value ↔ outer.read depth second = .ok value := by
  induction alike with
  | rel first second step =>
    obtain ⟨name, fields, hole, part, other, context, changed, rfl, rfl⟩ := step
    obtain ⟨solid, alsoSolid, same⟩ :=
      keeps name fields part other (context.regular regular) changed
    exact context.read_congr regular solid alsoSolid same depth value
  | refl => rfl
  | symm first second _ ih => exact ih.symm
  | trans first middle second _ _ ihFirst ihSecond => exact ihFirst.trans ihSecond

end Geocoding.Json
