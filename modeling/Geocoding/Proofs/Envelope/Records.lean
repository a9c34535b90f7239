import Geocoding.Envelope.Response
import Geocoding.Normalization.AnswerText
import Geocoding.Proofs.Json.Position

/-!
# The records of requests, responses and answers

The records that are exchanged as JSON are read by the names of their members, or by their
positions in an array.  Names are looked up wherever they stand in an object, and an array is
read as the object of the members that it lists, at every depth.
-/

namespace Geocoding

open Json (Shape Fields Node Items Members Value Entries Style)
open Text (Symbol)

def Envelope.recordShapes : List Shape :=
  [requestShape, addressShape, streetAddressShape, buildingShape, placeShape, responseShape,
    responseListShape, geocodedAddressShape, pointShape, returnAddressShape, matchCodeShape,
    errorShape]

def Answer.recordShapes : List Shape :=
  [answerShape, recognizedShape, georeferenceShape, streetDataShape, ambiguousShape, itemsShape,
    itemShape, localityShape, localityDataShape]

/-- All records that are read from JSON. -/
def recordShapes : List Shape :=
  Envelope.recordShapes ++ Answer.recordShapes

theorem regular_of_mem_recordShapes {shape : Shape} (mem : shape ∈ recordShapes) :
    shape.regular = true := by
  have each : ∀ shape ∈ recordShapes, shape.regular = true := by decide
  exact each shape mem

def member (name value : String) : Node × Node :=
  ((Value.string name).node, (Value.string value).node)

def placeFields : Fields :=
  .cons "type" false (.leaf .placeKind) (.cons "value" false Envelope.textShape .nil)

def addressIn (place : Value) : Value :=
  .object (.cons "countryCode" (.string "IT") (.cons "places" (.array (.cons place .nil)) .nil))

theorem context_addressIn : Envelope.addressShape.Context (.record "Place" placeFields) fun place =>
    .object (.ofList [member "countryCode" "IT",
      ((Value.string "places").node, .array (.ofList [place]))]) := by
  refine .member (?_ : (⟨"places", true, .list Envelope.placeShape⟩ : Json.Field) ∈ _) rfl
    [member "countryCode" "IT"] [] (.item [] [] .here)
  exact .tail _ (.tail _ (.tail _ (.head _)))

theorem alike_addressIn {change : Fields → Node → Node → Prop} (place other : Value)
    (changed : change placeFields place.node other.node) :
    Envelope.addressShape.Alike change (addressIn place).node (addressIn other).node :=
  .rel _ _ ⟨_, _, _, _, _, context_addressIn, changed, rfl, rfl⟩

/-- A municipality, with its members in order, turned round, and listed. -/
def municipality (name : String) : Value :=
  .object (.cons "type" (.string "MUNICIPALITY") (.cons "value" (.string name) .nil))

def municipalityTurned (name : String) : Value :=
  .object (.cons "value" (.string name) (.cons "type" (.string "MUNICIPALITY") .nil))

def municipalityListed (name : String) : Value :=
  .array (.cons (.string "MUNICIPALITY") (.cons (.string name) .nil))

theorem read_addressIn_municipality (name : String) :
    Envelope.addressShape.read 0 (addressIn (municipality name)).node =
      .ok ("IT", none, none, [(.municipality, name, ())], none, ()) :=
  rfl

/-! ## Members by their names -/

/-- A record is read from what stands under the names of its members.  In which order they
stand, what stands under other names, and whether an absent member is left out or `null`
makes no difference to any text; a member that stands twice is always refused. -/
theorem records_read_by_name {shape : Shape} (mem : shape ∈ recordShapes) :
    (∀ (first second : Node) (text other : List Symbol),
      shape.Alike Fields.Rearranges first second → text ∈ first.documents →
        other ∈ second.documents → ∀ value,
          shape.readText text = .ok value ↔ shape.readText other = .ok value) ∧
    ∀ (name : String) (fields : Fields) (hole : Node → Node) (entries : List (Node × Node))
      (text : List Symbol), shape.Context (.record name fields) hole → fields.TwiceIn entries →
        text ∈ (hole (.object (.ofList entries))).documents → ∀ value,
          shape.readText text ≠ .ok value := by
  have regular := regular_of_mem_recordShapes mem
  constructor
  · intro first second text other alike written otherWritten value
    exact Shape.readText_iff_of_rearranged regular alike written otherWritten value
  · intro name fields hole entries text context twice written value
    exact context.readText_ne_ok_of_twiceIn regular twice written value

theorem records_read_by_name_place :
    Envelope.addressShape ∈ recordShapes ∧
    Envelope.addressShape.readText (Symbol.ofString
      "\x7b\"countryCode\":\"IT\",\"places\":[\x7b\"value\":\"Roma\",\"type\":\"MUNICIPALITY\"\x7d]\x7d") =
        .ok ("IT", none, none, [(.municipality, "Roma", ())], none, ()) ∧
    ∀ value, Envelope.addressShape.readText (Symbol.ofString
      "\x7b\"countryCode\":\"IT\",\"places\":[\x7b\"value\":\"\",\"value\":\"\"\x7d]\x7d") ≠ .ok value := by
  have mem : Envelope.addressShape ∈ recordShapes := .tail _ (.head _)
  obtain ⟨same, refused⟩ := records_read_by_name mem
  have plain := Json.text_mem_documents .compact (addressIn (municipality "Roma"))
  have turned := Json.text_mem_documents .compact (addressIn (municipalityTurned "Roma"))
  have twice := Json.text_mem_documents .compact (addressIn (.object
    (.cons "value" (.string "") (.cons "value" (.string "") .nil))))
  have swapped : [member "type" "MUNICIPALITY", member "value" "Roma"].Perm
      [member "value" "Roma", member "type" "MUNICIPALITY"] := .swap _ _ []
  have alike := alike_addressIn (municipality "Roma") (municipalityTurned "Roma")
    (Fields.Rearranges.permuted swapped)
  have read := (Shape.readText_iff plain _).mpr (read_addressIn_municipality "Roma")
  refine ⟨mem, (same _ _ _ _ alike plain turned _).mp read, ?_⟩
  intro value
  have between : placeFields.TwiceIn [member "value" "", member "value" ""] :=
    ⟨"value", .tail _ (.head _), [], [], [], _, _, rfl, rfl, rfl⟩
  exact refused _ _ _ _ _ context_addressIn between twice value

theorem quotations_unpaired_surrogate :
    Symbol.ofString "\"\\ud800\"" ∈ Json.quotations (.error .malformed) := by
  have unit : Json.readHex (Symbol.ofString "d800\"") = .ok (0xD800, [.char '"']) := by decide
  have escape : Json.readEscape (Symbol.ofString "ud800\"") = .error .malformed := by decide
  refine ⟨.char '\\' :: Symbol.ofString "ud800\"", ?_, ?_, rfl⟩
  · have closed : Json.skipString [.char '"'] = .ok [] := by rw [Json.skipString]
    exact (Json.skipString_codePoint unit).trans closed
  · rw [Json.readString, Json.readSymbols, escape]
    rfl

/-- A name has to be a text.  One that holds half of a character is valid, but no text, and
an object with such a name is refused. -/
theorem unpaired_name_refused :
    Symbol.ofString "\x7b\"message\":\"a\"\x7d" ∈
      (Node.object (.ofList [member "message" "a"])).documents ∧
    Symbol.ofString "\x7b\"message\":\"a\",\"\\ud800\":1\x7d" ∈
      (Node.object (.ofList [member "message" "a",
        (.string (.error .malformed) (.ok ()), (Value.count 1).node)])).documents ∧
    Envelope.errorShape.readText (Symbol.ofString "\x7b\"message\":\"a\"\x7d") = .ok ("a", ()) ∧
    ∀ value, Envelope.errorShape.readText
      (Symbol.ofString "\x7b\"message\":\"a\",\"\\ud800\":1\x7d") ≠ .ok value := by
  have plain : Symbol.ofString "\x7b\"message\":\"a\"\x7d" ∈
      (Node.object (.ofList [member "message" "a"])).documents :=
    Json.text_mem_documents .compact (.object (.cons "message" (.string "a") .nil))
  have added : Symbol.ofString "\x7b\"message\":\"a\",\"\\ud800\":1\x7d" ∈
      (Node.object (.ofList [member "message" "a",
        (.string (.error .malformed) (.ok ()), (Value.count 1).node)])).documents := by
    apply Json.mem_documents_of_texts
    have behind := Json.mem_members.mpr ⟨_, Json.singleton_mem_mark ',', [], Json.nil_mem_blank, _,
      quotations_unpaired_surrogate, _, Json.singleton_mem_mark ':', [], Json.nil_mem_blank, _,
      Json.write_mem_texts .compact 0 (.count 1), _, Json.singleton_mem_mark '\x7d', rfl⟩
    exact Json.mem_members.mpr ⟨_, rfl, [], Json.nil_mem_blank, _,
      Json.writeString_mem_quotations "message", _, Json.singleton_mem_mark ':', [],
      Json.nil_mem_blank, _, Json.writeString_mem_quotations "a", _, behind, by decide⟩
  refine ⟨plain, added, (Shape.readText_iff plain _).mpr rfl, ?_⟩
  intro value read
  cases (Shape.readText_iff added value).mp read

/-! ## Members by their positions -/

/-- A record that lists the values of its members in their order is read as the object of
these members is; a list that is too long, or too short, is always refused. -/
theorem records_read_by_position {shape : Shape} (mem : shape ∈ recordShapes) :
    (∀ (first second : Node) (text other : List Symbol),
      shape.Alike Fields.Positions first second → text ∈ first.documents →
        other ∈ second.documents → ∀ value,
          shape.readText text = .ok value ↔ shape.readText other = .ok value) ∧
    ∀ (name : String) (fields : Fields) (hole : Node → Node) (nodes : List Node)
      (text : List Symbol), shape.Context (.record name fields) hole → fields.Misfits nodes →
        text ∈ (hole (.array (.ofList nodes))).documents → ∀ value,
          shape.readText text ≠ .ok value := by
  have regular := regular_of_mem_recordShapes mem
  constructor
  · intro first second text other alike written otherWritten value
    exact Shape.readText_iff_of_positions regular alike written otherWritten value
  · intro name fields hole nodes text context misfit written value
    exact context.readText_ne_ok_of_misfits regular misfit written value

theorem records_read_by_position_place :
    Envelope.addressShape ∈ recordShapes ∧
    Envelope.addressShape.readText (Symbol.ofString
      "\x7b\"countryCode\":\"IT\",\"places\":[[\"MUNICIPALITY\",\"Roma\"]]\x7d") =
        .ok ("IT", none, none, [(.municipality, "Roma", ())], none, ()) ∧
    ∀ value, Envelope.addressShape.readText (Symbol.ofString
      "\x7b\"countryCode\":\"IT\",\"places\":[[\"MUNICIPALITY\"]]\x7d") ≠ .ok value := by
  have mem : Envelope.addressShape ∈ recordShapes := .tail _ (.head _)
  obtain ⟨same, refused⟩ := records_read_by_position mem
  have object := Json.text_mem_documents .compact (addressIn (municipality "Roma"))
  have array := Json.text_mem_documents .compact (addressIn (municipalityListed "Roma"))
  have short := Json.text_mem_documents .compact (addressIn (.array
    (.cons (.string "MUNICIPALITY") .nil)))
  have known : ∀ entry ∈ [member "type" "MUNICIPALITY", member "value" "Roma"],
      ∃ name ∈ ["type", "value"], entry.1.text? = some name := by decide
  have alike := alike_addressIn (municipality "Roma") (municipalityListed "Roma")
    (Fields.Positions.listed known (.given rfl (.given rfl .none)))
  have read := (Shape.readText_iff object _).mpr (read_addressIn_municipality "Roma")
  refine ⟨mem, (same _ _ _ _ alike object array _).mp read, ?_⟩
  intro value
  have misfit : placeFields.Misfits [(Value.string "MUNICIPALITY").node] :=
    .inr ⟨1, _, Nat.le_refl 1, rfl, rfl⟩
  exact refused _ _ _ _ _ context_addressIn misfit short value

end Geocoding
