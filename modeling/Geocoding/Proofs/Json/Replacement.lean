import Geocoding.Proofs.Json.Context

/-!
# Parts that are replaced

A value can be read if its parts can, whatever they are read as.  So a part may be replaced by
any other that can be read in its shape, and something will be read from the whole again.  The
coordinates that are read from the whole tell those of the two parts apart.
-/

namespace Geocoding.Json

variable {depth : Nat}

theorem exists_forall₂_replace {First Second : Type} {related : First → Second → Prop}
    {before after : List First} {first other : First} {seconds : List Second}
    (each : List.Forall₂ related (before ++ first :: after) seconds)
    (reads : ∃ second, related other second) :
    ∃ others, List.Forall₂ related (before ++ other :: after) others := by
  obtain ⟨second, relates⟩ := reads
  have front := List.forall₂_take before.length each
  have behind := List.forall₂_drop before.length each
  rw [List.take_left] at front
  rw [List.drop_left, List.forall₂_cons_left_iff] at behind
  obtain ⟨_, others, _, rest, _⟩ := behind
  exact ⟨_, List.rel_append front (.cons relates rest)⟩

namespace Fields

theorem exists_heldBy_iff {fields : Fields} {members : Members} :
    (∃ values, fields.HeldBy depth members values) ↔
      ∀ field ∈ fields.toList, ∃ value,
        field.shape.HoldsIn field.droppable depth value (members.valuesOf field.name) := by
  constructor
  · rintro ⟨values, held⟩ field declared
    exact held.holdsIn declared
  · intro holds
    induction fields with
    | nil => exact ⟨(), trivial⟩
    | cons name droppable shape rest ih =>
      rw [toList, List.forall_mem_cons] at holds
      obtain ⟨⟨value, first⟩, others⟩ := holds
      obtain ⟨values, held⟩ := ih others
      exact ⟨(value, values), first, held⟩

theorem PlacedIn.exists_replace {fields : Fields} {before after : List Node} {node other : Node}
    {values : fields.Carrier} (placed : fields.PlacedIn depth (before ++ node :: after) values)
    {field : Field} (declared : fields.toList[before.length]? = some field)
    (reads : ∃ value, field.shape.read depth other = .ok value) :
    ∃ others, fields.PlacedIn depth (before ++ other :: after) others := by
  induction before generalizing fields with
  | nil =>
    cases fields with
    | nil => cases declared
    | cons name droppable shape rest =>
      obtain ⟨value, values⟩ := values
      obtain rfl : (⟨name, droppable, shape⟩ : Field) = field := Option.some.inj declared
      obtain ⟨found, read⟩ := reads
      exact ⟨(found, values), read, placed.2⟩
  | cons first before ih =>
    cases fields with
    | nil => cases declared
    | cons name droppable shape rest =>
      obtain ⟨value, values⟩ := values
      obtain ⟨others, behind⟩ := ih placed.2 declared
      exact ⟨(value, others), placed.1, behind⟩

end Fields

/-- What can be read in place of a part makes a whole that can be read. -/
theorem Shape.Context.exists_read_replace {outer inner : Shape} {hole : Node → Node}
    (context : outer.Context inner hole) (regular : outer.regular = true) {part other : Node}
    (solid : part ≠ .null) (alsoSolid : other ≠ .null)
    (reads : ∀ depth, ∃ content, inner.read depth other = .ok content) {value : outer.Carrier}
    (read : outer.read depth (hole part) = .ok value) :
    ∃ found, outer.read depth (hole other) = .ok found := by
  induction context generalizing depth with
  | here => exact reads depth
  | present inside ih =>
    rw [Shape.regular, Bool.and_eq_true] at regular
    rw [read_optional (inside.ne_null solid)] at read
    rw [read_optional (inside.ne_null alsoSolid)]
    obtain ⟨content, readPart, _⟩ := Reading.map_eq_ok.mp read
    obtain ⟨found, readOther⟩ := ih regular.2 reads readPart
    exact ⟨some found, Reading.map_eq_ok.mpr ⟨found, readOther, rfl⟩⟩
  | item before after inside ih =>
    have each := read_list_iff.mp read
    obtain ⟨content, readPart⟩ := exists_of_forall₂ each
    obtain ⟨others, replaced⟩ := exists_forall₂_replace each (ih regular reads readPart)
    exact ⟨others, read_list_iff.mpr replaced⟩
  | @member name fields field inner hole declared key named before after inside ih =>
    obtain ⟨distinct, regularFields⟩ := regular_record regular
    obtain ⟨readable, held⟩ := (read_object_iff distinct).mp read
    have known : field.name ∈ fields.names := Fields.mem_names_of_mem declared
    have stillReadable :
        (Members.ofList (before ++ (key, hole other) :: after)).Readable fields.names := by
      rw [Members.readable_ofList, List.forall_mem_append, List.forall_mem_cons] at readable ⊢
      exact ⟨readable.1, ⟨field.name, named, fun unknown => absurd known unknown⟩, readable.2.2⟩
    have holds : ∀ found ∈ fields.toList, ∃ value, found.shape.HoldsIn found.droppable (depth + 1)
        value ((Members.ofList (before ++ (key, hole other) :: after)).valuesOf found.name) := by
      intro found alsoDeclared
      obtain ⟨value, holdsPart⟩ := held.holdsIn alsoDeclared
      by_cases sameName : field.name = found.name
      · obtain rfl := Fields.eq_of_name_eq distinct declared alsoDeclared sameName
        rw [Members.valuesOf_middle before after named, holdsIn_middle] at holdsPart
        obtain ⟨noneBefore, noneAfter, readPart⟩ := holdsPart
        obtain ⟨content, readOther⟩ :=
          ih (Fields.regular_of_mem regularFields declared) reads readPart
        refine ⟨content, ?_⟩
        rw [Members.valuesOf_middle before after named, holdsIn_middle]
        exact ⟨noneBefore, noneAfter, readOther⟩
      · have differs : key.text? ≠ some found.name := by
          rw [named]
          exact fun equal => sameName (Option.some.inj equal)
        rw [Members.valuesOf_replace before after differs] at holdsPart
        exact ⟨value, holdsPart⟩
    obtain ⟨values, replaced⟩ := Fields.exists_heldBy_iff.mpr holds
    exact ⟨values, (read_object_iff distinct).mpr ⟨stillReadable, replaced⟩⟩
  | position before after declared inside ih =>
    have regularFields := (regular_record regular).2
    have placed := read_array_iff.mp read
    obtain ⟨content, readPart⟩ := placed.read_at declared
    have readOther :=
      ih (Fields.regular_of_mem regularFields (List.mem_of_getElem? declared)) reads readPart
    obtain ⟨others, replaced⟩ := placed.exists_replace declared readOther
    exact ⟨others, read_array_iff.mpr replaced⟩

/-! ## Coordinates of a value -/

mutual

/-- The coordinates of a value, in the order in which they are declared. -/
def Shape.coordinates : (shape : Shape) → shape.Carrier → List Float
  | .leaf .coordinate, value => [value]
  | .leaf .string, _ | .leaf .count, _ | .leaf .double, _ | .leaf .single, _ | .leaf .pair, _
  | .leaf .placeKind, _ => []
  | .optional content, value => value.elim [] content.coordinates
  | .list item, values => values.flatMap item.coordinates
  | .record _ fields, values => fields.coordinates values

def Fields.coordinates : (fields : Fields) → fields.Carrier → List Float
  | .nil, _ => []
  | .cons _ _ shape rest, (value, values) => shape.coordinates value ++ rest.coordinates values

end

theorem Shape.HoldsIn.unique {shape : Shape} {droppable : Bool} {nodes : List Node}
    {value other : shape.Carrier} (holds : shape.HoldsIn droppable depth value nodes)
    (alsoHolds : shape.HoldsIn droppable depth other nodes) : value = other := by
  match nodes, holds, alsoHolds with
  | [], missing, alsoMissing => exact Option.some.inj (missing.symm.trans alsoMissing)
  | [_], read, alsoRead => exact Except.ok.inj (read.symm.trans alsoRead)

namespace Fields

theorem HeldBy.unique {fields : Fields} {members others : Members}
    {values found : fields.Carrier} (held : fields.HeldBy depth members values)
    (alsoHeld : fields.HeldBy depth others found)
    (same : ∀ name ∈ fields.names, members.valuesOf name = others.valuesOf name) :
    values = found := by
  induction fields with
  | nil => rfl
  | cons name droppable shape rest ih =>
    obtain ⟨value, values⟩ := values
    obtain ⟨other, found⟩ := found
    rw [names, List.forall_mem_cons] at same
    obtain ⟨first, behind⟩ := held
    obtain ⟨alsoFirst, alsoBehind⟩ := alsoHeld
    rw [same.1] at first
    rw [first.unique alsoFirst, ih behind alsoBehind same.2]

theorem HeldBy.coordinates_eq {fields : Fields} (distinct : fields.names.Nodup)
    {members others : Members} {values found : fields.Carrier}
    (held : fields.HeldBy depth members values) (alsoHeld : fields.HeldBy depth others found)
    (equal : fields.coordinates values = fields.coordinates found) {field : Field}
    (declared : field ∈ fields.toList)
    (same : ∀ name ≠ field.name, members.valuesOf name = others.valuesOf name) :
    ∃ value other,
      field.shape.HoldsIn field.droppable depth value (members.valuesOf field.name) ∧
      field.shape.HoldsIn field.droppable depth other (others.valuesOf field.name) ∧
      field.shape.coordinates value = field.shape.coordinates other := by
  induction fields with
  | nil => cases declared
  | cons name droppable shape rest ih =>
    obtain ⟨value, values⟩ := values
    obtain ⟨other, found⟩ := found
    obtain ⟨first, behind⟩ := held
    obtain ⟨alsoFirst, alsoBehind⟩ := alsoHeld
    rw [names, List.nodup_cons] at distinct
    rw [coordinates, coordinates] at equal
    rcases List.mem_cons.mp declared with rfl | declaredBehind
    · obtain rfl := behind.unique alsoBehind fun key mem =>
        same key (by rintro rfl; exact distinct.1 mem)
      exact ⟨value, other, first, alsoFirst, List.append_cancel_right equal⟩
    · have differs : name ≠ field.name := by
        rintro rfl
        exact distinct.1 (mem_names_of_mem declaredBehind)
      rw [same name differs] at first
      obtain rfl := first.unique alsoFirst
      exact ih distinct.2 behind alsoBehind (List.append_cancel_left equal) declaredBehind

theorem PlacedIn.unique {fields : Fields} {nodes : List Node} {values found : fields.Carrier}
    (placed : fields.PlacedIn depth nodes values) (alsoPlaced : fields.PlacedIn depth nodes found) :
    values = found := by
  induction fields generalizing nodes with
  | nil => rfl
  | cons name droppable shape rest ih =>
    obtain ⟨value, values⟩ := values
    obtain ⟨other, found⟩ := found
    obtain ⟨first, behind⟩ := placed
    obtain ⟨alsoFirst, alsoBehind⟩ := alsoPlaced
    obtain rfl := ih behind alsoBehind
    cases nodes with
    | nil => rw [Option.some.inj (first.symm.trans alsoFirst)]
    | cons node nodes => rw [Except.ok.inj (first.symm.trans alsoFirst)]

theorem PlacedIn.coordinates_eq {fields : Fields} {before after : List Node} {node other : Node}
    {values found : fields.Carrier}
    (placed : fields.PlacedIn depth (before ++ node :: after) values)
    (alsoPlaced : fields.PlacedIn depth (before ++ other :: after) found)
    (equal : fields.coordinates values = fields.coordinates found) {field : Field}
    (declared : fields.toList[before.length]? = some field) :
    ∃ value content, field.shape.read depth node = .ok value ∧
      field.shape.read depth other = .ok content ∧
      field.shape.coordinates value = field.shape.coordinates content := by
  induction before generalizing fields with
  | nil =>
    cases fields with
    | nil => cases declared
    | cons name droppable shape rest =>
      obtain ⟨value, values⟩ := values
      obtain ⟨content, found⟩ := found
      obtain rfl : (⟨name, droppable, shape⟩ : Field) = field := Option.some.inj declared
      obtain ⟨read, behind⟩ := placed
      obtain ⟨alsoRead, alsoBehind⟩ := alsoPlaced
      obtain rfl : values = found := PlacedIn.unique behind alsoBehind
      exact ⟨value, content, read, alsoRead, List.append_cancel_right equal⟩
  | cons first before ih =>
    cases fields with
    | nil => cases declared
    | cons name droppable shape rest =>
      obtain ⟨value, values⟩ := values
      obtain ⟨content, found⟩ := found
      obtain ⟨read, behind⟩ := placed
      obtain ⟨alsoRead, alsoBehind⟩ := alsoPlaced
      obtain rfl : value = content := Except.ok.inj (read.symm.trans alsoRead)
      exact ih behind alsoBehind (List.append_cancel_left equal) declared

end Fields

theorem forall₂_unique {First Second : Type} {related : First → Second → Prop}
    (unique : ∀ first second other, related first second → related first other → second = other)
    {firsts : List First} {seconds others : List Second}
    (each : List.Forall₂ related firsts seconds) (also : List.Forall₂ related firsts others) :
    seconds = others := by
  induction each generalizing others with
  | nil => exact (List.forall₂_nil_left_iff.mp also).symm
  | cons relates _ ih =>
    obtain ⟨other, rest, alsoRelates, behind, rfl⟩ := List.forall₂_cons_left_iff.mp also
    rw [unique _ _ _ relates alsoRelates, ih behind]

theorem forall₂_flatMap_eq {First Second Part : Type} {related : First → Second → Prop}
    (unique : ∀ first second other, related first second → related first other → second = other)
    {parts : Second → List Part} {before after : List First} {first other : First}
    {seconds others : List Second}
    (each : List.Forall₂ related (before ++ first :: after) seconds)
    (also : List.Forall₂ related (before ++ other :: after) others)
    (equal : seconds.flatMap parts = others.flatMap parts) :
    ∃ second found, related first second ∧ related other found ∧ parts second = parts found := by
  induction before generalizing seconds others with
  | nil =>
    obtain ⟨second, rest, relates, behind, rfl⟩ := List.forall₂_cons_left_iff.mp each
    obtain ⟨found, alsoRest, alsoRelates, alsoBehind, rfl⟩ := List.forall₂_cons_left_iff.mp also
    obtain rfl := forall₂_unique unique behind alsoBehind
    rw [List.flatMap_cons, List.flatMap_cons] at equal
    exact ⟨second, found, relates, alsoRelates, List.append_cancel_right equal⟩
  | cons head before ih =>
    obtain ⟨second, rest, relates, behind, rfl⟩ := List.forall₂_cons_left_iff.mp each
    obtain ⟨found, alsoRest, alsoRelates, alsoBehind, rfl⟩ := List.forall₂_cons_left_iff.mp also
    obtain rfl := unique _ _ _ relates alsoRelates
    rw [List.flatMap_cons, List.flatMap_cons] at equal
    exact ih behind alsoBehind (List.append_cancel_left equal)

/-- Two wholes with the same coordinates have parts with the same coordinates in their holes. -/
theorem Shape.Context.coordinates_eq {outer inner : Shape} {hole : Node → Node}
    (context : outer.Context inner hole) (regular : outer.regular = true) {part other : Node}
    (solid : part ≠ .null) (alsoSolid : other ≠ .null) {value found : outer.Carrier}
    (read : outer.read depth (hole part) = .ok value)
    (alsoRead : outer.read depth (hole other) = .ok found)
    (equal : outer.coordinates value = outer.coordinates found) :
    ∃ below content also, inner.read below part = .ok content ∧
      inner.read below other = .ok also ∧ inner.coordinates content = inner.coordinates also := by
  induction context generalizing depth with
  | here => exact ⟨depth, value, found, read, alsoRead, equal⟩
  | present inside ih =>
    rw [Shape.regular, Bool.and_eq_true] at regular
    rw [read_optional (inside.ne_null solid)] at read
    rw [read_optional (inside.ne_null alsoSolid)] at alsoRead
    obtain ⟨content, readPart, rfl⟩ := Reading.map_eq_ok.mp read
    obtain ⟨also, readOther, rfl⟩ := Reading.map_eq_ok.mp alsoRead
    exact ih regular.2 readPart readOther equal
  | item before after inside ih =>
    obtain ⟨content, also, readPart, readOther, same⟩ :=
      forall₂_flatMap_eq (fun _ _ _ first second => Except.ok.inj (first.symm.trans second))
        (read_list_iff.mp read) (read_list_iff.mp alsoRead) equal
    exact ih regular readPart readOther same
  | @member name fields field inner hole declared key named before after inside ih =>
    obtain ⟨distinct, regularFields⟩ := regular_record regular
    obtain ⟨content, also, holds, alsoHolds, same⟩ :=
      ((read_object_iff distinct).mp read).2.coordinates_eq distinct
        ((read_object_iff distinct).mp alsoRead).2 equal declared
        fun key differs => Members.valuesOf_replace before after (by
          rw [named]
          exact fun equal => differs (Option.some.inj equal).symm)
    rw [Members.valuesOf_middle before after named, holdsIn_middle] at holds alsoHolds
    exact ih (Fields.regular_of_mem regularFields declared) holds.2.2 alsoHolds.2.2 same
  | position before after declared inside ih =>
    have regularFields := (regular_record regular).2
    obtain ⟨content, also, readPart, readOther, same⟩ :=
      (read_array_iff.mp read).coordinates_eq (read_array_iff.mp alsoRead) equal declared
    exact ih (Fields.regular_of_mem regularFields (List.mem_of_getElem? declared)) readPart
      readOther same

end Geocoding.Json
