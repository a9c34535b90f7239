import Geocoding.Json.Shape

/-!
# Records read from objects

An object is read in one pass, member by member, into slots of the record.  What comes of
it can be told without the pass: every member of the record holds what stands under its
name, once, or may be missing; the order of the members does not matter, and those with
other names only have to be values.
-/

namespace Geocoding.Json

namespace Reading

variable {Cause First Second : Type}

theorem bind_eq_ok {first : Except Cause First} {next : First → Except Cause Second}
    {result : Second} :
    first >>= next = .ok result ↔ ∃ value, first = .ok value ∧ next value = .ok result := by
  cases first with
  | error error => simp [bind, Except.bind]
  | ok value => simp [bind, Except.bind]

theorem map_eq_ok {first : Except Cause First} {next : First → Second} {result : Second} :
    first.map next = .ok result ↔ ∃ value, first = .ok value ∧ next value = result := by
  cases first <;> simp [Except.map]

theorem exists_map_eq_ok (first : Reading First) {next : First → Second} {holds : Second → Prop} :
    (∃ result, first.map next = .ok result ∧ holds result) ↔
      ∃ value, first = .ok value ∧ holds (next value) := by
  cases first <;> simp [Except.map]

theorem map_mk_eq_ok (first : First) {second : Reading Second} (result : First × Second) :
    second.map (Prod.mk first) = .ok result ↔ first = result.1 ∧ second = .ok result.2 := by
  rcases result with ⟨one, other⟩
  cases second <;> simp [Except.map]

theorem ofFault_eq_ok {part : Except Fault First} {result : First} :
    ofFault part = .ok result ↔ part = .ok result := by
  cases part with
  | error fault => constructor <;> intro read <;> cases read
  | ok value =>
    change (Except.ok value : Reading First) = .ok result ↔ _
    simp only [Except.ok.injEq]

end Reading

theorem Shape.read_optional {content : Shape} {depth : Nat} {node : Node}
    (present : node ≠ .null) :
    (Shape.optional content).read depth node = (content.read depth node).map some := by
  cases node with
  | null => contradiction
  | _ => rfl

def Fields.names : Fields → List String
  | .nil => []
  | .cons name _ _ rest => name :: rest.names

/-- Everything that stands under a name in an object. -/
def Members.valuesOf (name : String) : Members → List Node
  | .next (.string (.ok key) _) value rest =>
    if key = name then value :: rest.valuesOf name else rest.valuesOf name
  | .next _ _ rest => rest.valuesOf name
  | .close | .cut _ => []

/-- An object that is read to its end: its names are texts, and what stands under a name
that is not known is a value. -/
def Members.Readable (known : List String) : Members → Prop
  | .close => True
  | .cut _ => False
  | .next name value rest =>
    (∃ key skipped, name = .string (.ok key) skipped ∧ (key ∉ known → value.skip = .ok ())) ∧
      rest.Readable known

/-- What a member of a record holds if these nodes stand under its name. -/
def Shape.HoldsIn (shape : Shape) (droppable : Bool) (depth : Nat) (value : shape.Carrier) :
    List Node → Prop
  | [] => shape.whenMissing? droppable = some value
  | [node] => shape.read depth node = .ok value
  | _ :: _ :: _ => False

/-- What the members of a record hold once an object has been read into their slots. -/
def Fields.FilledBy : (fields : Fields) → Nat → fields.Slots → Members → fields.Carrier → Prop
  | .nil, _, _, _, _ => True
  | .cons name droppable shape rest, depth, (slot, slots), members, (value, values) =>
    (match slot with
      | some known => members.valuesOf name = [] ∧ known = value
      | none => shape.HoldsIn droppable depth value (members.valuesOf name)) ∧
        rest.FilledBy depth slots members values

/-- What the members of a record hold if they are read from an object. -/
def Fields.HeldBy : (fields : Fields) → Nat → Members → fields.Carrier → Prop
  | .nil, _, _, _ => True
  | .cons name droppable shape rest, depth, members, (value, values) =>
    shape.HoldsIn droppable depth value (members.valuesOf name) ∧
      rest.HeldBy depth members values

namespace Fields

@[elab_as_elim, induction_eliminator]
theorem induction {motive : Fields → Prop} (nil : motive .nil)
    (cons : ∀ name droppable shape rest, motive rest → motive (.cons name droppable shape rest))
    (fields : Fields) : motive fields := by
  induction fields using Fields.rec (motive_1 := fun _ => True) with
  | leaf | optional | list | record => trivial
  | nil => exact nil
  | cons name droppable shape rest _ ih => exact cons name droppable shape rest ih

variable {depth : Nat}

theorem filledBy_noSlots_iff (fields : Fields) (members : Members) (values : fields.Carrier) :
    fields.FilledBy depth fields.noSlots members values ↔ fields.HeldBy depth members values := by
  induction fields with
  | nil => rfl
  | cons name droppable shape rest ih =>
    obtain ⟨value, values⟩ := values
    simp only [noSlots, FilledBy, HeldBy]
    rw [ih]

theorem finish_cons {name : String} {droppable : Bool} {shape : Shape} {rest : Fields}
    (slot : Option shape.Carrier) (slots : rest.Slots) (value : shape.Carrier)
    (values : rest.Carrier) :
    (cons name droppable shape rest).finish (slot, slots) = .ok (value, values) ↔
      slot.or (shape.whenMissing? droppable) = some value ∧ rest.finish slots = .ok values := by
  rw [finish]
  cases slot.or (shape.whenMissing? droppable) with
  | none => exact iff_of_false nofun fun known => nomatch known.1
  | some known =>
    refine (Reading.map_mk_eq_ok known (value, values)).trans ?_
    rw [Option.some_inj]

theorem finish_iff (fields : Fields) (slots : fields.Slots) (values : fields.Carrier) :
    fields.finish slots = .ok values ↔ fields.FilledBy depth slots .close values := by
  induction fields with
  | nil => exact iff_of_true rfl trivial
  | cons name droppable shape rest ih =>
    obtain ⟨slot, slots⟩ := slots
    obtain ⟨value, values⟩ := values
    rw [finish_cons, ih]
    simp only [FilledBy, Members.valuesOf, Shape.HoldsIn]
    cases slot <;> simp

theorem store_cons_of_ne {name key : String} (other : key ≠ name) {droppable : Bool}
    {shape : Shape} {rest : Fields} (node : Node) (slot : Option shape.Carrier)
    (slots : rest.Slots) :
    (cons name droppable shape rest).store depth key node (slot, slots) =
      (rest.store depth key node slots).map fun stored => stored.map (Prod.mk slot) := by
  exact if_neg other

theorem store_eq_none (fields : Fields) {key : String} (unknown : key ∉ fields.names)
    (node : Node) (slots : fields.Slots) : fields.store depth key node slots = none := by
  induction fields with
  | nil => rfl
  | cons name droppable shape rest ih =>
    simp only [names, List.mem_cons, not_or] at unknown
    obtain ⟨slot, slots⟩ := slots
    rw [store_cons_of_ne unknown.1, ih unknown.2]
    rfl

theorem filledBy_next_of_notMem (fields : Fields) {key : String} (unknown : key ∉ fields.names)
    {skipped : Except Fault Unit} (node : Node) (slots : fields.Slots) (members : Members)
    (values : fields.Carrier) :
    fields.FilledBy depth slots (.next (.string (.ok key) skipped) node members) values ↔
      fields.FilledBy depth slots members values := by
  induction fields with
  | nil => rfl
  | cons name droppable shape rest ih =>
    simp only [names, List.mem_cons, not_or] at unknown
    obtain ⟨slot, slots⟩ := slots
    obtain ⟨value, values⟩ := values
    simp only [FilledBy, Members.valuesOf, if_neg unknown.1]
    rw [ih unknown.2]

theorem store_of_mem (fields : Fields) (distinct : fields.names.Nodup) {key : String}
    (known : key ∈ fields.names) (node : Node) (slots : fields.Slots) :
    ∃ stored, fields.store depth key node slots = some stored ∧
      ∀ skipped members values,
        (∃ slots', stored = .ok slots' ∧ fields.FilledBy depth slots' members values) ↔
          fields.FilledBy depth slots (.next (.string (.ok key) skipped) node members) values := by
  induction fields with
  | nil => cases known
  | cons name droppable shape rest ih =>
    obtain ⟨slot, slots⟩ := slots
    simp only [names, List.nodup_cons] at distinct
    by_cases same : key = name
    · subst same
      cases slot with
      | some known =>
        refine ⟨.error (.mismatch (.duplicateField key)), by rw [store, if_pos rfl], ?_⟩
        rintro skipped members ⟨value, values⟩
        simp [FilledBy, Members.valuesOf]
      | none =>
        refine ⟨(shape.read depth node).map fun value => (some value, slots),
          by rw [store, if_pos rfl]; rfl, ?_⟩
        rintro skipped members ⟨value, values⟩
        refine (Reading.exists_map_eq_ok (shape.read depth node)).trans ?_
        simp only [FilledBy, Members.valuesOf, if_true,
          filledBy_next_of_notMem rest distinct.1]
        constructor
        · rintro ⟨_, read, ⟨noOther, rfl⟩, others⟩
          simpa [noOther, Shape.HoldsIn] using ⟨read, others⟩
        · rintro ⟨holds, others⟩
          rcases noOther : members.valuesOf key with _ | ⟨other, more⟩
          · rw [noOther] at holds
            exact ⟨value, holds, ⟨rfl, rfl⟩, others⟩
          · rw [noOther] at holds
            exact holds.elim
    · simp only [names, List.mem_cons, same, false_or] at known
      obtain ⟨stored, found, step⟩ := ih distinct.2 known slots
      refine ⟨stored.map (Prod.mk slot), by rw [store_cons_of_ne same, found]; rfl, ?_⟩
      rintro skipped members ⟨value, values⟩
      refine (Reading.exists_map_eq_ok stored).trans ?_
      simp only [FilledBy, Members.valuesOf, if_neg same]
      rw [← step skipped]
      exact ⟨fun ⟨slots', stored, holds, others⟩ => ⟨holds, slots', stored, others⟩,
        fun ⟨holds, slots', stored, others⟩ => ⟨slots', stored, holds, others⟩⟩

end Fields

theorem Members.readEach_next {Slots : Type}
    (store : String → Node → Slots → Option (Reading Slots)) (key : String)
    (skipped : Except Fault Unit) (node : Node) (rest : Members) (slots : Slots) :
    (Members.next (.string (.ok key) skipped) node rest).readEach store slots =
      match store key node slots with
      | some stored => stored >>= rest.readEach store
      | none => node.skip >>= fun _ => rest.readEach store slots :=
  rfl

theorem Members.readable_next {known : List String} {key : String}
    {skipped : Except Fault Unit} {node : Node} {rest : Members} :
    (Members.next (.string (.ok key) skipped) node rest).Readable known ↔
      (key ∉ known → node.skip = .ok ()) ∧ rest.Readable known := by
  simp [Readable]

theorem Members.readEach_next_ok {Slots : Type}
    {store : String → Node → Slots → Option (Reading Slots)} {name node : Node} {rest : Members}
    {slots result : Slots}
    (read : (Members.next name node rest).readEach store slots = .ok result) :
    ∃ key skipped, name = .string (.ok key) skipped := by
  cases name with
  | string used skipped =>
    cases used with
    | ok key => exact ⟨key, skipped, rfl⟩
    | error fault => cases read
  | _ => cases read

namespace Fields

variable {depth : Nat}

/-- Reading an object into the slots of a record and taking what they hold. -/
theorem readEach_finish_iff (fields : Fields) (distinct : fields.names.Nodup) :
    (members : Members) → (slots : fields.Slots) → (values : fields.Carrier) →
      ((members.readEach (fields.store depth) slots >>= fields.finish) = .ok values ↔
        members.Readable fields.names ∧ fields.FilledBy depth slots members values)
  | .close, slots, values => by
    simp only [Members.Readable, true_and]
    exact fields.finish_iff slots values
  | .cut fault, slots, values => iff_of_false nofun fun held => held.1.elim
  | .next name node rest, slots, values => by
    by_cases text : ∃ key skipped, name = .string (.ok key) skipped
    · obtain ⟨key, skipped, rfl⟩ := text
      rw [Members.readEach_next, Members.readable_next]
      by_cases known : key ∈ fields.names
      · obtain ⟨stored, found, step⟩ := fields.store_of_mem distinct known node slots
        rw [found, ← step]
        cases stored with
        | error error => exact iff_of_false nofun fun ⟨_, _, failed, _⟩ => nomatch failed
        | ok slots' =>
          refine (readEach_finish_iff fields distinct rest slots' values).trans ?_
          simp [known]
      · rw [fields.store_eq_none known, fields.filledBy_next_of_notMem known]
        cases skippedNode : node.skip with
        | error error => exact iff_of_false nofun fun held => nomatch held.1.1 known
        | ok _ =>
          refine (readEach_finish_iff fields distinct rest slots values).trans ?_
          simp
    · refine iff_of_false ?_ ?_
      · intro read
        obtain ⟨slots', stored, _⟩ := Reading.bind_eq_ok.mp read
        exact text (Members.readEach_next_ok stored)
      · rintro ⟨⟨⟨key, skipped, rfl, _⟩, _⟩, _⟩
        exact text ⟨key, skipped, rfl⟩

end Fields

/-- A record is read from an object exactly if the object can be read to its end and each
member of the record holds what stands under its name. -/
theorem Shape.read_object_iff {name : String} {fields : Fields} (distinct : fields.names.Nodup)
    {depth : Nat} {members : Members} {values : fields.Carrier} :
    (Shape.record name fields).read depth (.object members) = .ok values ↔
      members.Readable fields.names ∧ fields.HeldBy (depth + 1) members values := by
  rw [← fields.filledBy_noSlots_iff, ← fields.readEach_finish_iff distinct]
  rfl

end Geocoding.Json
