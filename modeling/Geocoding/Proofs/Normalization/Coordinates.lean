import Geocoding.Normalization.AnswerText
import Geocoding.Proofs.Json.Arrangement
import Geocoding.Proofs.Json.Coordinate
import Geocoding.Proofs.Json.Replacement

/-!
# Coordinates of an answer, written as numbers or as strings

Whichever coordinate of an answer is written as a string instead of a number, the answer is read
again, and from the string the coordinate is the double nearest to its decimal.  From the number
it is the same double just if the roundings on the way come to the nearest one.
-/

namespace Geocoding

open Json (Node Literal Shape Fields Value)
open Text (Symbol isBlank)

def Coordinates.toList (position : Coordinates) : List Float :=
  [position.longitude, position.latitude]

/-- The coordinates in all sections of an answer. -/
def RawAnswer.coordinates (answer : RawAnswer) : List Float :=
  (answer.recognizedAddress.elim [] fun address => address.position.toList) ++
    (answer.ambiguousAddress.elim [] fun address =>
      address.items.flatMap fun item => item.position.toList) ++
    (answer.normalizedLocality.elim [] fun locality => locality.position.toList)

namespace Answer

theorem regular_answerShape : answerShape.regular = true := by
  decide

/-! ## The coordinates that are kept -/

theorem coordinates_optionalText (text : optionalText.Carrier) :
    optionalText.coordinates text = [] := by
  cases text <;> rfl

theorem coordinates_recognizedOf (carrier : recognizedShape.Carrier) :
    (recognizedOf carrier).position.toList = recognizedShape.coordinates carrier := by
  obtain ⟨⟨longitude, latitude, ⟨⟩⟩,
    ⟨localita, provincia, cap, civico, dug, toponimo, ⟨⟩⟩, ⟨⟩⟩ := carrier
  simp only [recognizedShape, georeferenceShape, streetDataShape, Shape.coordinates,
    Fields.coordinates, coordinates_optionalText]
  rfl

theorem coordinates_itemOf (carrier : itemShape.Carrier) :
    (itemOf carrier).position.toList = itemShape.coordinates carrier := by
  obtain ⟨x, y, indirizzo, civico, ⟨⟩⟩ := carrier
  simp only [itemShape, Shape.coordinates, Fields.coordinates, coordinates_optionalText]
  rfl

theorem coordinates_items (carriers : List itemShape.Carrier) :
    ((carriers.map itemOf).flatMap fun item => item.position.toList) =
      carriers.flatMap itemShape.coordinates := by
  rw [List.flatMap_map]
  exact congrArg (carriers.flatMap ·) (funext coordinates_itemOf)

theorem coordinates_ambiguousOf (carrier : ambiguousShape.Carrier) :
    ((ambiguousOf carrier).items.flatMap fun item => item.position.toList) =
      ambiguousShape.coordinates carrier := by
  obtain ⟨⟨items, count, ⟨⟩⟩, ⟨⟩⟩ := carrier
  refine (coordinates_items items).trans ?_
  cases count <;>
    simp only [ambiguousShape, itemsShape, Shape.coordinates, Fields.coordinates,
      Option.elim_none, Option.elim_some, List.append_nil]

theorem coordinates_localityOf (carrier : localityShape.Carrier) :
    (localityOf carrier).position.toList = localityShape.coordinates carrier := by
  obtain ⟨⟨x, y, frazione, localita, provincia, cap, ⟨⟩⟩, ⟨⟩⟩ := carrier
  simp only [localityShape, localityDataShape, Shape.coordinates, Fields.coordinates,
    coordinates_optionalText]
  rfl

theorem coordinates_answerOf (carrier : answerShape.Carrier) :
    (answerOf carrier).coordinates = answerShape.coordinates carrier := by
  obtain ⟨code, recognized, ambiguous, locality, ⟨⟩⟩ := carrier
  cases recognized <;> cases ambiguous <;> cases locality <;>
    simp [answerShape, textShape, Shape.coordinates, Fields.coordinates, answerOf,
      RawAnswer.coordinates, coordinates_recognizedOf, coordinates_ambiguousOf,
      coordinates_localityOf]

/-! ## One coordinate in place of another -/

variable {hole : Node → Node} {text : List Symbol}

theorem read_eq_ok_iff {node : Node} (written : text ∈ node.documents) {answer : RawAnswer} :
    read text = .ok answer ↔
      ∃ carrier, answerShape.read 0 node = .ok carrier ∧ answerOf carrier = answer := by
  refine Json.Reading.bind_eq_ok.trans (exists_congr fun carrier => ?_)
  exact and_congr (Shape.readText_iff written carrier) (iff_of_eq (Except.ok.injEq _ _))

/-- An answer is accepted with any coordinate in place of one that it is accepted with. -/
theorem exists_read_replace (context : answerShape.Context coordinateShape hole)
    {part other : Node} (solid : part ≠ .null) (alsoSolid : other ≠ .null)
    (written : text ∈ (hole part).documents) (acceptable : ∃ answer, read text = .ok answer)
    {value : Float} (reads : ∀ depth, coordinateShape.read depth other = .ok value)
    {replaced : List Symbol} (replacedWritten : replaced ∈ (hole other).documents) :
    ∃ answer, read replaced = .ok answer := by
  obtain ⟨answer, accepted⟩ := acceptable
  obtain ⟨carrier, whole, _⟩ := (read_eq_ok_iff written).mp accepted
  obtain ⟨found, again⟩ := context.exists_read_replace regular_answerShape solid alsoSolid
    (fun depth => ⟨value, reads depth⟩) whole
  exact ⟨answerOf found, (read_eq_ok_iff replacedWritten).mpr ⟨found, again, rfl⟩⟩

theorem read_congr (context : answerShape.Context coordinateShape hole)
    {part other : Node} (solid : part ≠ .null) (alsoSolid : other ≠ .null)
    (same : ∀ depth (value : Float), coordinateShape.read depth part = .ok value ↔
      coordinateShape.read depth other = .ok value)
    (written : text ∈ (hole part).documents) {replaced : List Symbol}
    (replacedWritten : replaced ∈ (hole other).documents) (answer : RawAnswer) :
    read text = .ok answer ↔ read replaced = .ok answer := by
  rw [read_eq_ok_iff written, read_eq_ok_iff replacedWritten]
  refine exists_congr fun carrier => and_congr_left fun _ => ?_
  exact context.read_congr regular_answerShape solid alsoSolid same 0 carrier

theorem exists_coordinate_of_read (context : answerShape.Context coordinateShape hole)
    {part other : Node} (solid : part ≠ .null) (alsoSolid : other ≠ .null)
    (written : text ∈ (hole part).documents) {replaced : List Symbol}
    (replacedWritten : replaced ∈ (hole other).documents) {answer : RawAnswer}
    (accepted : read text = .ok answer) (again : read replaced = .ok answer) :
    ∃ depth value, coordinateShape.read depth part = .ok value ∧
      coordinateShape.read depth other = .ok value := by
  obtain ⟨carrier, whole, rfl⟩ := (read_eq_ok_iff written).mp accepted
  obtain ⟨found, also, same⟩ := (read_eq_ok_iff replacedWritten).mp again
  have equal : answerShape.coordinates carrier = answerShape.coordinates found := by
    rw [← coordinates_answerOf, ← coordinates_answerOf, same]
  obtain ⟨depth, value, content, readPart, readOther, sameValue⟩ :=
    context.coordinates_eq regular_answerShape solid alsoSolid whole also equal
  obtain rfl : value = content := List.head_eq_of_cons_eq sameValue
  exact ⟨depth, value, readPart, readOther⟩

/-! ## Numbers and strings -/

theorem number_ne_null (used : Except Json.Fault Json.Number) (skipped : Except Json.Fault Unit) :
    Node.number used skipped ≠ .null :=
  nofun

theorem string_ne_null (used : Except Json.Fault String) (skipped : Except Json.Fault Unit) :
    Node.string used skipped ≠ .null :=
  nofun

/-- Wherever a coordinate stands in an answer that is accepted, it may be a string instead, which
holds a number literal with blanks around it.  It may be the literal itself, unless the decimal
is too large.  Both are the same answer just if the literal is valued as the double nearest to
its decimal, which it is if it is a whole number of 64 bits, or if its digits have 53 bits and
its power of ten is at most the 22nd. -/
theorem coordinate_spellings (context : answerShape.Context coordinateShape hole)
    {part : Node} (solid : part ≠ .null) (written : text ∈ (hole part).documents)
    (acceptable : ∃ answer, read text = .ok answer)
    {negative : Bool} {spelling before after : List Char} {literal : Literal}
    (scanned : Literal.scan negative (spelling.map .char) = .ok (literal, []))
    (blankBefore : ∀ character ∈ before, isBlank character = true)
    (blankAfter : ∀ character ∈ after, isBlank character = true)
    {bare quoted : List Symbol}
    (bareWritten : bare ∈ (hole (.number literal.value (.ok ()))).documents)
    (quotedWritten : quoted ∈ (hole (.string (.ok (String.ofList
      (before ++ (Decimal.signText negative ++ spelling) ++ after))) (.ok ()))).documents) :
    (∃ answer, read quoted = .ok answer) ∧
      (literal.magnitude ≤ Decimal.largestDecimal → ∃ answer, read bare = .ok answer) ∧
      ((∃ answer, read bare = .ok answer ∧ read quoted = .ok answer) ↔
        literal.toDouble = .ok literal.nearest) ∧
      (literal.Exact → literal.toDouble = .ok literal.nearest) := by
  have asString (depth : Nat) : coordinateShape.read depth (.string (.ok (String.ofList
      (before ++ (Decimal.signText negative ++ spelling) ++ after))) (.ok ())) =
        .ok literal.nearest :=
    Json.readCoordinate_string.trans (Literal.parseCoordinate_of_scan blankBefore blankAfter scanned)
  have asNumber (depth : Nat) (value : Float) :
      coordinateShape.read depth (.number literal.value (.ok ())) = .ok value ↔
        literal.toDouble = .ok value :=
    Json.readCoordinate_number
  have quotedAccepted : ∃ answer, read quoted = .ok answer :=
    exists_read_replace context solid (string_ne_null _ _) written acceptable asString quotedWritten
  refine ⟨quotedAccepted, ?_, ⟨?_, ?_⟩, Literal.toDouble_of_exact⟩
  · intro within
    obtain ⟨value, valued⟩ := Literal.exists_toDouble (Literal.lt_ten_of_scan scanned) within
    exact exists_read_replace context solid (number_ne_null _ _) written acceptable
      (fun depth => (asNumber depth value).mpr valued) bareWritten
  · rintro ⟨answer, readBare, readQuoted⟩
    obtain ⟨depth, value, number, string⟩ :=
      exists_coordinate_of_read context (number_ne_null _ _) (string_ne_null _ _) bareWritten
        quotedWritten readBare readQuoted
    rw [asString] at string
    rw [Except.ok.inj string]
    exact (asNumber depth value).mp number
  · intro valued
    obtain ⟨answer, readQuoted⟩ := quotedAccepted
    refine ⟨answer, ?_, readQuoted⟩
    refine (read_congr context (number_ne_null _ _) (string_ne_null _ _) (fun depth value => ?_)
      bareWritten quotedWritten answer).mpr readQuoted
    rw [asNumber, valued, asString]
    exact (iff_of_eq (Except.ok.injEq _ _)).trans (iff_of_eq (Except.ok.injEq _ _)).symm

def rifredi (longitude : Float) : RawAnswer where
  responseCode := "8"
  normalizedLocality := some {
    position := { longitude, latitude := 43.5 }
    hamlet := "Rifredi"
    locality := "Firenze"
    province := "FI"
    postalCode := none }

def rifrediText (longitude : String) : List Symbol :=
  Symbol.ofString "\x7b\"tipoRispostaNorm\":\"8\",\"localitaNormalizzata\":\x7b" ++
    Symbol.ofString "\"datiNormalizzazioneLoc\":\x7b\"xSezioneIstat\":" ++
    Symbol.ofString longitude ++
    Symbol.ofString ",\"ySezioneIstat\":43.5,\"frazione\":\"Rifredi\"," ++
    Symbol.ofString "\"localita\":\"Firenze\",\"provincia\":\"FI\"\x7d\x7d\x7d"

def rifrediNode (longitude : Node) : Node :=
  let entry (name : String) (value : Value) := ((Value.string name).node, value.node)
  .object (.ofList [entry "tipoRispostaNorm" (.string "8"),
    ((Value.string "localitaNormalizzata").node,
      .object (.ofList [((Value.string "datiNormalizzazioneLoc").node,
        .object (.ofList [((Value.string "xSezioneIstat").node, longitude),
          entry "ySezioneIstat" (.double 43.5), entry "frazione" (.string "Rifredi"),
          entry "localita" (.string "Firenze"), entry "provincia" (.string "FI")]))]))])

theorem context_rifrediNode : answerShape.Context coordinateShape rifrediNode := by
  refine .member (.tail _ (.tail _ (.tail _ (.head _)))) rfl [_] [] (.present ?_)
  refine .member (.head _) rfl [] [] ?_
  exact .member (.head _) rfl [] [_, _, _, _] .here

def rifrediValue (longitude : Value) : Value :=
  .object (.cons "tipoRispostaNorm" (.string "8") (.cons "localitaNormalizzata"
    (.object (.cons "datiNormalizzazioneLoc" (.object (.cons "xSezioneIstat" longitude
      (.cons "ySezioneIstat" (.double 43.5) (.cons "frazione" (.string "Rifredi")
        (.cons "localita" (.string "Firenze") (.cons "provincia" (.string "FI") .nil))))))
      .nil)) .nil))

theorem rifrediText_mem_documents {longitude : Value} {spelling : String}
    (same : ((rifrediValue longitude).write .compact 0).map .char = rifrediText spelling) :
    rifrediText spelling ∈ (rifrediNode longitude.node).documents := by
  rw [← same]
  exact Json.mem_documents_of_texts (Json.write_mem_texts .compact 0 (rifrediValue longitude))

theorem node_quarter : (Value.double 11.25).node =
    .number (Literal.value ⟨false, [1, 1], some [2, 5], none⟩) (.ok ()) := by
  have finite : Float.isFinite 11.25 = true := by decide +kernel
  have literal : Json.doubleLiteral 11.25 = ⟨false, [1, 1], some [2, 5], none⟩ := by
    decide +kernel
  rw [Value.node, if_pos finite, literal]
  rfl

/-- A short decimal is the same longitude as a number and in a string with blanks around it. -/
theorem coordinate_spellings_quarter :
    ∃ answer, read (rifrediText "11.25") = .ok answer ∧
      read (rifrediText "\"\u00a011.25 \"") = .ok answer := by
  have zero : rifrediText "0" ∈ (rifrediNode (Value.count 0).node).documents :=
    rifrediText_mem_documents (by decide +kernel)
  have accepted : read (rifrediText "0") = .ok (rifredi 0) := by decide +kernel
  have bare : rifrediText "11.25" ∈ (rifrediNode (Value.double 11.25).node).documents :=
    rifrediText_mem_documents (by decide +kernel)
  have quoted : rifrediText "\"\u00a011.25 \"" ∈
      (rifrediNode (Value.string "\u00a011.25 ").node).documents :=
    rifrediText_mem_documents (by decide +kernel)
  have scanned : Literal.scan false (['1', '1', '.', '2', '5'].map .char) =
      .ok (⟨false, [1, 1], some [2, 5], none⟩, []) := by decide
  have blankBefore : ∀ character ∈ ['\u00a0'], isBlank character = true :=
    List.forall_mem_singleton.mpr (by decide)
  have blankAfter : ∀ character ∈ [' '], isBlank character = true :=
    List.forall_mem_singleton.mpr (by decide)
  have spelled : "\u00a011.25 " = String.ofList (['\u00a0'] ++
      (Decimal.signText false ++ ['1', '1', '.', '2', '5']) ++ [' ']) := by decide +kernel
  rw [node_quarter] at bare
  rw [spelled] at quoted
  obtain ⟨-, -, same, nearest⟩ := coordinate_spellings context_rifrediNode (number_ne_null _ _)
    zero ⟨_, accepted⟩ scanned blankBefore blankAfter bare quoted
  exact same.mpr (nearest (by decide))

/-- A number with more than 53 bits may be another longitude than the string with the same digits,
and one that is next to the largest double may be refused. -/
theorem coordinate_spellings_differ :
    read (rifrediText "9.500200258567995") = .ok (rifredi (.ofBits 0x4023001A3F900026)) ∧
    read (rifrediText "\"9.500200258567995\"") = .ok (rifredi (.ofBits 0x4023001A3F900025)) ∧
    rifredi (.ofBits 0x4023001A3F900026) ≠ rifredi (.ofBits 0x4023001A3F900025) ∧
    1797693134862315708 * 10 ^ 290 < (2 ^ 53 - 1) * 2 ^ 971 ∧
    read (rifrediText "1.797693134862315708e308") = .error (.fault .malformed) ∧
    read (rifrediText "\"1.797693134862315708e308\"") =
      .ok (rifredi (.ofBits 0x7FEFFFFFFFFFFFFF)) := by
  decide +kernel

end Answer

end Geocoding
