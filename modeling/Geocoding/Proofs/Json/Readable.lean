import Geocoding.Proofs.Json.Magnitude
import Geocoding.Proofs.Json.Rereading

/-!
# Values whose text can be read

What is written of a value can be read again exactly if all numbers in it are in range:
counts have to fit into 64 bits, and floating-point numbers have to be finite, since the
others are written as `null`.
-/

namespace Geocoding.Json

open Text (Symbol)

/-- Whether what is written of a leaf is in the range of what is read. -/
def Leaf.InRange : (leaf : Leaf) → leaf.Carrier → Prop
  | string, _ | placeKind, _ => True
  | count, number => number < 2 ^ 64
  | double, number | coordinate, number => number.isFinite = true
  | single, number => number.isFinite = true
  | pair, (first, second) => first.isFinite = true ∧ second.isFinite = true

mutual

def Shape.InRange : (shape : Shape) → shape.Carrier → Prop
  | .leaf leaf, value => leaf.InRange value
  | .optional content, value =>
    match value with
    | some value => content.InRange value
    | none => True
  | .list item, values => List.Forall item.InRange values
  | .record _ fields, values => fields.InRange values

def Fields.InRange : (fields : Fields) → fields.Carrier → Prop
  | .nil, _ => True
  | .cons _ _ shape rest, (value, values) => shape.InRange value ∧ rest.InRange values

end

namespace Leaf

theorem exists_read_iff_of_literal {Result : Type} {read : Node → Reading Result}
    {ofNumber : Number → Result} {finite : Bool} {literal : Literal}
    (number : ∀ value, read (.number (.ok value) (.ok ())) = .ok (ofNumber value))
    (refused : ∀ result, read .null ≠ .ok result)
    (valued : finite = true → ∃ value, literal.value = .ok value) :
    (∃ result, read (if finite then literal.node else .null) = .ok result) ↔ finite = true := by
  cases finite with
  | false => exact iff_of_false (fun ⟨result, read⟩ => refused result read) Bool.false_ne_true
  | true =>
    obtain ⟨value, known⟩ := valued rfl
    rw [if_pos rfl, Literal.node, known]
    exact iff_of_true ⟨_, number value⟩ rfl

theorem exists_readDouble_iff (number : Float) :
    (∃ result, readDouble (Value.double number).node = .ok result) ↔ number.isFinite = true :=
  exists_read_iff_of_literal (fun _ => rfl) nofun exists_value_doubleLiteral

theorem exists_readSingle_iff (number : Float32) :
    (∃ result, readSingle (Value.single number).node = .ok result) ↔ number.isFinite = true :=
  exists_read_iff_of_literal (fun _ => rfl) nofun fun _ => exists_value_singleLiteral number

theorem exists_readCoordinate_iff (number : Float) :
    (∃ result, readCoordinate 0 (Value.double number).node = .ok result) ↔
      number.isFinite = true :=
  exists_read_iff_of_literal (fun _ => rfl) nofun exists_value_doubleLiteral

theorem ofDigits_whole_naturalLiteral (number : Nat) :
    Decimal.ofDigits (naturalLiteral number).whole = number :=
  Decimal.ofDigits_digitsOf number

theorem value_naturalLiteral {number : Nat} (fits : number < 2 ^ 64) :
    (naturalLiteral number).value = .ok (.natural number) := by
  rw [Literal.value, ofDigits_whole_naturalLiteral]
  exact if_pos ⟨rfl, rfl, Bool.false_ne_true, fits⟩

theorem readCount_count {number : Nat} (fits : number < 2 ^ 64) :
    readCount (Value.count number).node = .ok number := by
  rw [Value.node, Literal.node, value_naturalLiteral fits]
  rfl

theorem exists_readCount_iff (number : Nat) :
    (∃ result, readCount (Value.count number).node = .ok result) ↔ number < 2 ^ 64 := by
  by_cases fits : number < 2 ^ 64
  · exact iff_of_true ⟨number, readCount_count fits⟩ fits
  · have valued : (naturalLiteral number).value = (naturalLiteral number).toDouble.map .real := by
      rw [Literal.value, ofDigits_whole_naturalLiteral]
      refine (if_neg fun parts => fits parts.2.2.2).trans (if_neg fun parts => ?_)
      exact Bool.false_ne_true parts.2.2.1
    rw [Value.node, Literal.node, valued]
    refine iff_of_false ?_ fits
    cases (naturalLiteral number).toDouble <;> (rintro ⟨result, read⟩; cases read)

theorem readPair_eq_ok_iff {first second : Float} {result : Float × Float} :
    readPair (pair.write (first, second)).node = .ok result ↔
      readDouble (Value.double first).node = .ok result.1 ∧
        readDouble (Value.double second).node = .ok result.2 := by
  change (do
    let first ← readDouble (Value.double first).node
    let second ← readDouble (Value.double second).node
    return (first, second)) = .ok result ↔ _
  simp only [Reading.bind_eq_ok, pure, Except.pure, Except.ok.injEq]
  constructor
  · rintro ⟨head, readHead, tail, readTail, rfl⟩
    exact ⟨readHead, readTail⟩
  · rintro ⟨readHead, readTail⟩
    exact ⟨_, readHead, _, readTail, rfl⟩

theorem exists_readPair_iff (first second : Float) :
    (∃ result, readPair (pair.write (first, second)).node = .ok result) ↔
      first.isFinite = true ∧ second.isFinite = true := by
  rw [← exists_readDouble_iff first, ← exists_readDouble_iff second]
  simp only [readPair_eq_ok_iff, Prod.exists, exists_and_left, exists_and_right]

theorem exists_rereads_iff (leaf : Leaf) (value : leaf.Carrier) :
    (∃ result, leaf.Rereads value result) ↔ leaf.InRange value := by
  cases leaf with
  | string | placeKind => exact iff_of_true ⟨value, rereads_self rfl value⟩ trivial
  | count => exact exists_readCount_iff value
  | double => exact exists_readDouble_iff value
  | single => exact exists_readSingle_iff value
  | pair => exact exists_readPair_iff value.1 value.2
  | coordinate => exact exists_readCoordinate_iff value

end Leaf

theorem exists_forall₂_iff {First Second : Type} {related : First → Second → Prop}
    {firsts : List First} :
    (∃ seconds, List.Forall₂ related firsts seconds) ↔
      ∀ first ∈ firsts, ∃ second, related first second := by
  induction firsts with
  | nil => exact iff_of_true ⟨[], .nil⟩ nofun
  | cons first firsts ih =>
    rw [List.forall_mem_cons, ← ih]
    constructor
    · rintro ⟨_, related⟩
      cases related with
      | cons head tail => exact ⟨⟨_, head⟩, _, tail⟩
    · rintro ⟨⟨_, head⟩, _, tail⟩
      exact ⟨_, .cons head tail⟩

mutual

/-- A value comes back from its text in some form exactly if its numbers are in range. -/
theorem Shape.exists_rereads_iff : (shape : Shape) → (value : shape.Carrier) →
    ((∃ result, shape.Rereads value result) ↔ shape.InRange value)
  | .leaf leaf, value => leaf.exists_rereads_iff value
  | .optional content, none => iff_of_true ⟨none, trivial⟩ trivial
  | .optional content, some value => by
    rw [Shape.InRange, ← content.exists_rereads_iff value]
    constructor
    · rintro ⟨_ | result, read⟩
      · exact read.elim
      · exact ⟨result, read⟩
    · rintro ⟨result, read⟩
      exact ⟨some result, read⟩
  | .list item, values => by
    refine exists_forall₂_iff.trans ?_
    simp only [item.exists_rereads_iff]
    exact List.forall_iff_forall_mem.symm
  | .record _ fields, values => fields.exists_rereads_iff values

theorem Fields.exists_rereads_iff : (fields : Fields) → (values : fields.Carrier) →
    ((∃ results, fields.Rereads values results) ↔ fields.InRange values)
  | .nil, _ => iff_of_true ⟨(), trivial⟩ trivial
  | .cons _ _ shape rest, (value, values) => by
    rw [Fields.InRange, ← shape.exists_rereads_iff value, ← rest.exists_rereads_iff values]
    constructor
    · rintro ⟨⟨result, results⟩, head, tail⟩
      exact ⟨⟨result, head⟩, results, tail⟩
    · rintro ⟨⟨result, head⟩, results, tail⟩
      exact ⟨(result, results), head, tail⟩

end

/-- The text of a value can be read exactly if all numbers in the value are in range. -/
theorem Shape.exists_readText_writeText_iff {shape : Shape} (regular : shape.regular = true)
    (style : Style) (value : shape.Carrier) :
    (∃ result, shape.readText (Symbol.ofString (shape.writeText style value)) = .ok result) ↔
      shape.InRange value := by
  simp only [shape.readText_writeText_iff regular, shape.exists_rereads_iff]

end Geocoding.Json
