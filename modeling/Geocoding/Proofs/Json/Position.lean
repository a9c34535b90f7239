import Geocoding.Proofs.Json.Arrangement

/-!
# Records in objects and in arrays

A record may stand in an array that lists the values of its members in the order in which
they are declared.  Such an array is read as the object of these members is.  What may be
absent from an object is `null` in an array, and only members at the end may be left out
of an array, if they are declared so.
-/

namespace Geocoding.Json

/-- An array lists what the members of an object hold, in the order of the record. -/
inductive Fields.Listed (members : Members) : Fields → List Node → Prop
  | none : Listed members .nil []
  | given {name : String} {droppable : Bool} {shape : Shape} {rest : Fields} {node : Node}
      {nodes : List Node} (held : members.valuesOf name = [node])
      (others : Listed members rest nodes) :
      Listed members (.cons name droppable shape rest) (node :: nodes)
  | absent {name : String} {droppable : Bool} {content : Shape} {rest : Fields}
      {nodes : List Node} (missing : members.valuesOf name = [])
      (others : Listed members rest nodes) :
      Listed members (.cons name droppable (.optional content) rest) (.null :: nodes)
  | dropped {name : String} {shape : Shape} {rest : Fields}
      (missing : members.valuesOf name = []) (others : Listed members rest []) :
      Listed members (.cons name true shape rest) []

/-- The object and the array of the same members. -/
inductive Fields.Positions (fields : Fields) : Node → Node → Prop
  | listed {entries : List (Node × Node)} {nodes : List Node}
      (known : ∀ entry ∈ entries, ∃ name ∈ fields.names, entry.1.text? = some name)
      (values : fields.Listed (.ofList entries) nodes) :
      Positions fields (.object (.ofList entries)) (.array (.ofList nodes))

/-- An array has more values than the record has members, or ends in front of a member that
must not be left out. -/
def Fields.Misfits (fields : Fields) (nodes : List Node) : Prop :=
  fields.toList.length < nodes.length ∨
    ∃ index field, nodes.length ≤ index ∧ fields.toList[index]? = some field ∧
      field.droppable = false

namespace Fields

variable {depth : Nat}

theorem Listed.heldBy_iff {members : Members} {fields : Fields} {nodes : List Node}
    (listed : fields.Listed members nodes) (values : fields.Carrier) :
    fields.HeldBy depth members values ↔ fields.PlacedIn depth nodes values := by
  induction listed with
  | none => exact iff_of_true trivial rfl
  | given held others ih =>
    obtain ⟨value, values⟩ := values
    rw [HeldBy, PlacedIn, held, List.tail_cons, ih values]
    rfl
  | @absent name droppable content rest nodes missing others ih =>
    obtain ⟨value, values⟩ := values
    have same := @Shape.holdsIn_nil_iff_null _ content rfl droppable depth value
    rw [HeldBy, PlacedIn, missing, List.tail_cons, ih values, same]
    rfl
  | dropped missing others ih =>
    obtain ⟨value, values⟩ := values
    rw [HeldBy, PlacedIn, missing, List.tail_nil, ih values]
    rfl

theorem PlacedIn.length_le {fields : Fields} {nodes : List Node} {values : fields.Carrier}
    (placed : fields.PlacedIn depth nodes values) : nodes.length ≤ fields.toList.length := by
  induction fields generalizing nodes with
  | nil =>
    obtain rfl : nodes = [] := placed
    exact Nat.le_refl 0
  | cons name droppable shape rest ih =>
    obtain ⟨value, values⟩ := values
    have others := ih placed.2
    rw [List.length_tail] at others
    rw [toList, List.length_cons]
    omega

theorem PlacedIn.droppable_of_le {fields : Fields} {nodes : List Node} {values : fields.Carrier}
    (placed : fields.PlacedIn depth nodes values) {index : Nat} (behind : nodes.length ≤ index)
    {field : Field} (declared : fields.toList[index]? = some field) : field.droppable = true := by
  induction fields generalizing nodes index with
  | nil => cases declared
  | cons name droppable shape rest ih =>
    obtain ⟨value, values⟩ := values
    cases index with
    | zero =>
      obtain rfl : (⟨name, droppable, shape⟩ : Field) = field := Option.some.inj declared
      obtain rfl : nodes = [] := List.length_eq_zero_iff.mp (Nat.le_zero.mp behind)
      by_contra kept
      rw [PlacedIn, Shape.whenDropped?, if_neg kept] at placed
      cases placed.1
    | succ index =>
      have tailBehind : nodes.tail.length ≤ index := by
        rw [List.length_tail]
        omega
      exact ih placed.2 tailBehind declared

theorem Misfits.not_placedIn {fields : Fields} {nodes : List Node} (misfit : fields.Misfits nodes)
    (values : fields.Carrier) : ¬ fields.PlacedIn depth nodes values := by
  intro placed
  rcases misfit with long | ⟨index, field, behind, declared, kept⟩
  · have bound := placed.length_le
    omega
  · have dropped := placed.droppable_of_le behind declared
    rw [kept] at dropped
    cases dropped

theorem Positions.read_iff {name : String} {fields : Fields} (distinct : fields.names.Nodup)
    {object array : Node} (positions : fields.Positions object array) (values : fields.Carrier) :
    (Shape.record name fields).read depth object = .ok values ↔
      (Shape.record name fields).read depth array = .ok values := by
  obtain ⟨known, listed⟩ := positions
  rename_i entries nodes
  have readable : (Members.ofList entries).Readable fields.names := by
    rw [Members.readable_ofList]
    intro entry mem
    obtain ⟨key, declared, named⟩ := known entry mem
    exact ⟨key, named, fun unknown => absurd declared unknown⟩
  refine (Shape.read_object_iff distinct).trans ?_
  rw [and_iff_right readable]
  exact (listed.heldBy_iff values).trans Shape.read_array_iff.symm

end Fields

/-- A value is read as any other that differs from it in the form of its records. -/
theorem Shape.read_iff_of_positions {outer : Shape} (regular : outer.regular = true)
    {first second : Node} (alike : outer.Alike Fields.Positions first second) (depth : Nat)
    (value : outer.Carrier) :
    outer.read depth first = .ok value ↔ outer.read depth second = .ok value := by
  apply alike.read_iff regular
  intro name fields object array regularRecord positions
  have distinct := (regular_record regularRecord).1
  have solid : object ≠ .null ∧ array ≠ .null := by
    cases positions
    exact ⟨nofun, nofun⟩
  exact ⟨solid.1, solid.2, fun _ values => positions.read_iff distinct values⟩

/-- Nothing is read from a value in which an array does not fit its record. -/
theorem Shape.Context.read_ne_ok_of_misfits {outer : Shape} {name : String} {fields : Fields}
    {hole : Node → Node} (context : outer.Context (.record name fields) hole)
    (regular : outer.regular = true) {nodes : List Node} (misfit : fields.Misfits nodes)
    (depth : Nat) (value : outer.Carrier) :
    outer.read depth (hole (.array (.ofList nodes))) ≠ .ok value := by
  intro read
  obtain ⟨below, values, found⟩ := context.exists_read regular Node.noConfusion read
  exact misfit.not_placedIn values (read_array_iff.mp found)

theorem Shape.readText_iff_of_positions {outer : Shape} (regular : outer.regular = true)
    {first second : Node} (alike : outer.Alike Fields.Positions first second)
    {text other : List Text.Symbol} (written : text ∈ first.documents)
    (otherWritten : other ∈ second.documents) (value : outer.Carrier) :
    outer.readText text = .ok value ↔ outer.readText other = .ok value := by
  rw [readText_iff written, readText_iff otherWritten]
  exact read_iff_of_positions regular alike 0 value

theorem Shape.Context.readText_ne_ok_of_misfits {outer : Shape} {name : String} {fields : Fields}
    {hole : Node → Node} (context : outer.Context (.record name fields) hole)
    (regular : outer.regular = true) {nodes : List Node} (misfit : fields.Misfits nodes)
    {text : List Text.Symbol} (written : text ∈ (hole (.array (.ofList nodes))).documents)
    (value : outer.Carrier) : outer.readText text ≠ .ok value := by
  rw [ne_eq, readText_iff written]
  exact context.read_ne_ok_of_misfits regular misfit 0 value

end Geocoding.Json
