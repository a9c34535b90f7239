import Geocoding.Proofs.Json.Context
import Geocoding.Proofs.Json.Grammar

/-!
# Objects in another arrangement

A record takes from an object what stands under the names that it declares.  So it makes no
difference in which order the members of the object stand, which other members there are,
and whether a member that may be absent is left out or is `null`.  A name that is declared
must not stand in the object twice.
-/

namespace Geocoding.Json

/-- The second object has the members of the first one in another order, or has one more
that the record does not need: a value under a name of no declared member, or `null` for a
member that may be absent and is left out of the first. -/
inductive Fields.Rearranges (fields : Fields) : Node → Node → Prop
  | permuted {entries others : List (Node × Node)} (same : entries.Perm others) :
      Rearranges fields (.object (.ofList entries)) (.object (.ofList others))
  | added {before after : List (Node × Node)} {key value : Node} {name : String}
      (named : key.text? = some name) (unknown : name ∉ fields.names)
      (valid : value.IsValid) :
      Rearranges fields (.object (.ofList (before ++ after)))
        (.object (.ofList (before ++ (key, value) :: after)))
  | nulled {before after : List (Node × Node)} {key : Node} {field : Field} {content : Shape}
      (declared : field ∈ fields.toList) (absentable : field.shape = .optional content)
      (named : key.text? = some field.name)
      (missing : (Members.ofList (before ++ after)).valuesOf field.name = []) :
      Rearranges fields (.object (.ofList (before ++ after)))
        (.object (.ofList (before ++ (key, .null) :: after)))

/-- One of the names that a record declares stands in an object twice. -/
def Fields.TwiceIn (fields : Fields) (entries : List (Node × Node)) : Prop :=
  ∃ name ∈ fields.names, ∃ before between after first second,
    entries = before ++ first :: (between ++ second :: after) ∧
      first.1.text? = some name ∧ second.1.text? = some name

namespace Members

theorem valuesOf_perm {entries others : List (Node × Node)} (same : entries.Perm others)
    (name : String) : ((ofList entries).valuesOf name).Perm ((ofList others).valuesOf name) := by
  rw [valuesOf_ofList, valuesOf_ofList]
  exact (same.filter _).map _

theorem readable_perm {entries others : List (Node × Node)} (same : entries.Perm others)
    {known : List String} :
    (ofList entries).Readable known ↔ (ofList others).Readable known := by
  rw [readable_ofList, readable_ofList]
  exact forall_congr' fun entry => by rw [same.mem_iff]

theorem readable_insert {before after : List (Node × Node)} {key value : Node} {name : String}
    (named : key.text? = some name) {known : List String}
    (valid : name ∉ known → value.skip = .ok ()) :
    (ofList (before ++ after)).Readable known ↔
      (ofList (before ++ (key, value) :: after)).Readable known := by
  rw [readable_ofList, readable_ofList, List.forall_mem_append, List.forall_mem_append,
    List.forall_mem_cons]
  have added : ∃ text, key.text? = some text ∧ (text ∉ known → value.skip = .ok ()) :=
    ⟨name, named, valid⟩
  exact and_congr_right fun _ => (and_iff_right added).symm

theorem valuesOf_insert {before after : List (Node × Node)} {key value : Node} {name : String}
    (differs : key.text? ≠ some name) :
    (ofList (before ++ (key, value) :: after)).valuesOf name =
      (ofList (before ++ after)).valuesOf name := by
  rw [valuesOf_append, valuesOf_append, valuesOf_cons, if_neg differs]

end Members

/-- What may be absent holds the same if nothing stands for it as if `null` does. -/
theorem Shape.holdsIn_nil_iff_null {shape content : Shape} (absentable : shape = .optional content)
    {droppable : Bool} {depth : Nat} (value : shape.Carrier) :
    shape.HoldsIn droppable depth value [] ↔ shape.HoldsIn droppable depth value [.null] := by
  subst absentable
  constructor
  · intro absent
    exact congrArg Except.ok (Option.some.inj absent)
  · intro read
    exact congrArg some (Except.ok.inj read)

namespace Fields

variable {depth : Nat}

theorem Rearranges.read_iff {name : String} {fields : Fields} (distinct : fields.names.Nodup)
    {part other : Node} (rearranged : fields.Rearranges part other)
    (values : fields.Carrier) :
    (Shape.record name fields).read depth part = .ok values ↔
      (Shape.record name fields).read depth other = .ok values := by
  cases rearranged with
  | permuted same =>
    apply Shape.read_object_congr distinct (Members.readable_perm same)
    intro field _ value
    exact Shape.holdsIn_perm (Members.valuesOf_perm same field.name)
  | added named unknown valid =>
    apply Shape.read_object_congr distinct (Members.readable_insert named fun _ => valid.skip)
    intro field declared value
    have known := mem_names_of_mem declared
    rw [Members.valuesOf_insert]
    intro found
    obtain rfl := Option.some.inj (named.symm.trans found)
    exact unknown known
  | @nulled before after key field content declared absentable named missing =>
    have known := mem_names_of_mem declared
    apply Shape.read_object_congr distinct
      (Members.readable_insert named fun unknown => absurd known unknown)
    intro found alsoDeclared value
    by_cases same : field.name = found.name
    · obtain rfl := eq_of_name_eq distinct declared alsoDeclared same
      have alone : (Members.ofList (before ++ (key, .null) :: after)).valuesOf field.name =
          [.null] := by
        rw [Members.valuesOf_append, List.append_eq_nil_iff] at missing
        rw [Members.valuesOf_middle before after named, missing.1, missing.2, List.nil_append]
      rw [missing, alone]
      exact Shape.holdsIn_nil_iff_null absentable value
    · rw [Members.valuesOf_insert]
      rw [named]
      exact fun equal => same (Option.some.inj equal)

theorem Rearranges.ne_null {fields : Fields} {part other : Node}
    (rearranged : fields.Rearranges part other) : part ≠ .null ∧ other ≠ .null := by
  cases rearranged <;> exact ⟨nofun, nofun⟩

theorem TwiceIn.read_ne_ok {name : String} {fields : Fields} (distinct : fields.names.Nodup)
    {entries : List (Node × Node)} (twice : fields.TwiceIn entries) (values : fields.Carrier) :
    (Shape.record name fields).read depth (.object (.ofList entries)) ≠ .ok values := by
  obtain ⟨known, mem, before, between, after, ⟨key, first⟩, ⟨other, second⟩, rfl, named,
    alsoNamed⟩ := twice
  intro read
  rw [names_eq_map_toList] at mem
  obtain ⟨field, declared, rfl⟩ := List.mem_map.mp mem
  obtain ⟨value, holds⟩ := ((Shape.read_object_iff distinct).mp read).2.holdsIn declared
  rw [Members.valuesOf_middle _ _ named, Members.valuesOf_middle _ _ alsoNamed,
    Shape.holdsIn_middle] at holds
  simp at holds

end Fields

/-- A value is read as any other that differs from it in the arrangement of objects. -/
theorem Shape.read_iff_of_rearranged {outer : Shape} (regular : outer.regular = true)
    {first second : Node} (alike : outer.Alike Fields.Rearranges first second) (depth : Nat)
    (value : outer.Carrier) :
    outer.read depth first = .ok value ↔ outer.read depth second = .ok value := by
  apply alike.read_iff regular
  intro name fields part other regularRecord rearranged
  obtain ⟨solid, alsoSolid⟩ := rearranged.ne_null
  have distinct := (regular_record regularRecord).1
  exact ⟨solid, alsoSolid, fun _ values => rearranged.read_iff distinct values⟩

/-- Nothing is read from a value in which a record is given one of its members twice. -/
theorem Shape.Context.read_ne_ok_of_twiceIn {outer : Shape} {name : String} {fields : Fields}
    {hole : Node → Node} (context : outer.Context (.record name fields) hole)
    (regular : outer.regular = true) {entries : List (Node × Node)}
    (twice : fields.TwiceIn entries) (depth : Nat) (value : outer.Carrier) :
    outer.read depth (hole (.object (.ofList entries))) ≠ .ok value := by
  intro read
  have distinct := (regular_record (context.regular regular)).1
  obtain ⟨below, values, found⟩ := context.exists_read regular Node.noConfusion read
  exact twice.read_ne_ok distinct values found

/-! ## Texts in another arrangement -/

theorem Shape.readText_iff {shape : Shape} {node : Node} {text : List Text.Symbol}
    (written : text ∈ node.documents) (value : shape.Carrier) :
    shape.readText text = .ok value ↔ shape.read 0 node = .ok value := by
  have document := Document.read_of_mem_documents written
  rw [readText, document]
  cases shape.read 0 node <;> exact Iff.rfl

theorem Shape.readText_iff_of_rearranged {outer : Shape} (regular : outer.regular = true)
    {first second : Node} (alike : outer.Alike Fields.Rearranges first second)
    {text other : List Text.Symbol} (written : text ∈ first.documents)
    (otherWritten : other ∈ second.documents) (value : outer.Carrier) :
    outer.readText text = .ok value ↔ outer.readText other = .ok value := by
  rw [readText_iff written, readText_iff otherWritten]
  exact read_iff_of_rearranged regular alike 0 value

theorem Shape.Context.readText_ne_ok_of_twiceIn {outer : Shape} {name : String} {fields : Fields}
    {hole : Node → Node} (context : outer.Context (.record name fields) hole)
    (regular : outer.regular = true) {entries : List (Node × Node)}
    (twice : fields.TwiceIn entries) {text : List Text.Symbol}
    (written : text ∈ (hole (.object (.ofList entries))).documents) (value : outer.Carrier) :
    outer.readText text ≠ .ok value := by
  rw [ne_eq, readText_iff written]
  exact context.read_ne_ok_of_twiceIn regular twice 0 value

end Geocoding.Json
