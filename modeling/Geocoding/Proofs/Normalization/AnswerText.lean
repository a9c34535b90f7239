import Geocoding.Interpretation
import Geocoding.Normalization.AnswerText
import Geocoding.Proofs.Json.Path

/-!
# Where the parts of an answer come from

Each part of an answer stands at one place of its text: there are a code, the two
coordinates of each section, a street for each of several addresses, postal codes and a
count.  These places are told by paths of their own, apart from the records that the text
is read into.
-/

namespace Geocoding.Answer

open Json (Node Member Document Shape)

/-! ## Places in the text of an answer -/

def pairAt? (node : Node) (first second : List Member) : Option (Float × Float) := do
  let x ← (node.at? first).bind Node.coordinate?
  let y ← (node.at? second).bind Node.coordinate?
  return (x, y)

def code? (root : Node) : Option String :=
  (root.at? [⟨"tipoRispostaNorm", 0⟩]).bind Node.text?

def recognizedPath : List Member := [⟨"indirizzoRiconosciuto", 1⟩]

def ambiguousPath : List Member := [⟨"indirizzoAmbiguo", 2⟩]

def localityPath : List Member := [⟨"localitaNormalizzata", 3⟩]

def recognizedPair? (root : Node) : Option (Float × Float) :=
  pairAt? root (recognizedPath ++ [⟨"datiGeoreferenziazioneInd", 0⟩, ⟨"longitudine", 0⟩])
    (recognizedPath ++ [⟨"datiGeoreferenziazioneInd", 0⟩, ⟨"latitudine", 1⟩])

/-- The postal code of the recognized address, which may be left out or `null`. -/
def recognizedPostalCode? (root : Node) : Option (Option String) :=
  Node.optional? Node.text?
    (root.at? (recognizedPath ++ [⟨"datiNormalizzazioneInd", 1⟩, ⟨"cap", 2⟩]))

def localityPair? (root : Node) : Option (Float × Float) :=
  pairAt? root (localityPath ++ [⟨"datiNormalizzazioneLoc", 0⟩, ⟨"xSezioneIstat", 0⟩])
    (localityPath ++ [⟨"datiNormalizzazioneLoc", 0⟩, ⟨"ySezioneIstat", 1⟩])

def localityPostalCode? (root : Node) : Option (Option String) :=
  Node.optional? Node.text?
    (root.at? (localityPath ++ [⟨"datiNormalizzazioneLoc", 0⟩, ⟨"cap", 5⟩]))

/-- The items of the ambiguous section, which are none if the list is left out. -/
def itemNodes? (root : Node) : Option (List Node) :=
  Node.items? (root.at? (ambiguousPath ++ [⟨"ambiguitaInd", 0⟩, ⟨"ambiguitaIndItem", 0⟩]))

/-- The number of items that the ambiguous section tells, which may be left out or `null`. -/
def itemCount? (root : Node) : Option (Option Nat) :=
  Node.optional? Node.count?
    (root.at? (ambiguousPath ++ [⟨"ambiguitaInd", 0⟩, ⟨"ambiguitaIndItemCount", 1⟩]))

def itemPair? (item : Node) : Option (Float × Float) :=
  pairAt? item [⟨"x", 0⟩] [⟨"y", 1⟩]

/-- The street of an item, and behind it the house number if that is present and not
empty. -/
def itemStreet? (item : Node) : Option String := do
  let address ← (item.at? [⟨"indirizzo", 2⟩]).bind Node.text?
  match ← Node.optional? Node.text? (item.at? [⟨"civico", 3⟩]) with
  | none => return address
  | some number => return if number = "" then address else address ++ ", " ++ number

/-! ## Answers that have been read -/

/-- An item is read from the node of it. -/
structure ItemFrom (node : Node) (item : AmbiguousItem) : Prop where
  position : itemPair? node = some (item.position.longitude, item.position.latitude)
  street : itemStreet? node = some (withHouseNumber item.address item.houseNumber)

/-- An answer is read from the text with this root. -/
structure AnswerFrom (root : Node) (answer : RawAnswer) : Prop where
  code : code? root = some answer.responseCode
  recognized : ∀ address, answer.recognizedAddress = some address →
    recognizedPair? root = some (address.position.longitude, address.position.latitude) ∧
      recognizedPostalCode? root = some address.postalCode
  ambiguous : ∀ several, answer.ambiguousAddress = some several →
    ∃ nodes count, itemNodes? root = some nodes ∧ List.Forall₂ ItemFrom nodes several.items ∧
      itemCount? root = some count ∧ several.reportedCount = count.getD nodes.length
  unambiguous : answer.ambiguousAddress = none → itemCount? root = some none
  locality : ∀ found, answer.normalizedLocality = some found →
    localityPair? root = some (found.position.longitude, found.position.latitude) ∧
      localityPostalCode? root = some found.postalCode

variable {depth : Nat} {node : Node}

theorem pairAt?_eq_some {first second : List Member} {x y : Float}
    (atFirst : (node.at? first).bind Node.coordinate? = some x)
    (atSecond : (node.at? second).bind Node.coordinate? = some y) :
    pairAt? node first second = some (x, y) := by
  rw [pairAt?, atFirst, atSecond]
  rfl

theorem recognized_from {carrier : recognizedShape.Carrier}
    (read : recognizedShape.read depth node = .ok carrier) :
    pairAt? node [⟨"datiGeoreferenziazioneInd", 0⟩, ⟨"longitudine", 0⟩]
        [⟨"datiGeoreferenziazioneInd", 0⟩, ⟨"latitudine", 1⟩] =
        some ((recognizedOf carrier).position.longitude,
          (recognizedOf carrier).position.latitude) ∧
      Node.optional? Node.text? (node.at? [⟨"datiNormalizzazioneInd", 1⟩, ⟨"cap", 2⟩]) =
        some (recognizedOf carrier).postalCode := by
  obtain ⟨⟨longitude, latitude, ⟨⟩⟩,
    ⟨localita, provincia, cap, civico, dug, toponimo, ⟨⟩⟩, ⟨⟩⟩ := carrier
  obtain ⟨georeference, normalized, -⟩ := Shape.takenFrom_of_read (by decide) read
  obtain ⟨geo, foundGeo, x, y, -⟩ := georeference.record (by decide)
  obtain ⟨data, foundData, -, -, postalCode, -⟩ := normalized.record (by decide)
  constructor
  · apply pairAt?_eq_some
    · rw [Node.at?_of_member? foundGeo, Node.at?_singleton]
      exact x.coordinate
    · rw [Node.at?_of_member? foundGeo, Node.at?_singleton]
      exact y.coordinate
  · rw [Node.at?_of_member? foundData, Node.at?_singleton]
    exact postalCode.optionalText

theorem locality_from {carrier : localityShape.Carrier}
    (read : localityShape.read depth node = .ok carrier) :
    pairAt? node [⟨"datiNormalizzazioneLoc", 0⟩, ⟨"xSezioneIstat", 0⟩]
        [⟨"datiNormalizzazioneLoc", 0⟩, ⟨"ySezioneIstat", 1⟩] =
        some ((localityOf carrier).position.longitude, (localityOf carrier).position.latitude) ∧
      Node.optional? Node.text? (node.at? [⟨"datiNormalizzazioneLoc", 0⟩, ⟨"cap", 5⟩]) =
        some (localityOf carrier).postalCode := by
  obtain ⟨⟨x, y, frazione, localita, provincia, cap, ⟨⟩⟩, ⟨⟩⟩ := carrier
  obtain ⟨normalized, -⟩ := Shape.takenFrom_of_read (by decide) read
  obtain ⟨data, found, x, y, -, -, -, postalCode, -⟩ := normalized.record (by decide)
  constructor
  · apply pairAt?_eq_some
    · rw [Node.at?_of_member? found, Node.at?_singleton]
      exact x.coordinate
    · rw [Node.at?_of_member? found, Node.at?_singleton]
      exact y.coordinate
  · rw [Node.at?_of_member? found, Node.at?_singleton]
    exact postalCode.optionalText

theorem some_withHouseNumber (street : String) (houseNumber : Option String) :
    some (withHouseNumber street houseNumber) =
      match houseNumber with
      | none => some street
      | some number => some (if number = "" then street else street ++ ", " ++ number) := by
  cases houseNumber with
  | none => rfl
  | some number =>
    by_cases empty : number = ""
    · simp [withHouseNumber, nonEmpty, Option.filter, empty]
    · simp [withHouseNumber, nonEmpty, Option.filter, empty]

theorem item_from {carrier : itemShape.Carrier}
    (read : itemShape.read depth node = .ok carrier) : ItemFrom node (itemOf carrier) := by
  obtain ⟨x, y, indirizzo, civico, ⟨⟩⟩ := carrier
  obtain ⟨x, y, address, houseNumber, -⟩ := Shape.takenFrom_of_read (by decide) read
  constructor
  · apply pairAt?_eq_some
    · rw [Node.at?_singleton]
      exact x.coordinate
    · rw [Node.at?_singleton]
      exact y.coordinate
  · have indirizzo := address.text
    have civico := houseNumber.optionalText
    rw [itemStreet?, Node.at?_singleton, Node.at?_singleton, indirizzo, civico]
    exact (some_withHouseNumber _ _).symm

theorem ambiguous_from {carrier : ambiguousShape.Carrier}
    (read : ambiguousShape.read depth node = .ok carrier) :
    ∃ nodes count,
      Node.items? (node.at? [⟨"ambiguitaInd", 0⟩, ⟨"ambiguitaIndItem", 0⟩]) = some nodes ∧
      List.Forall₂ ItemFrom nodes (ambiguousOf carrier).items ∧
      Node.optional? Node.count?
        (node.at? [⟨"ambiguitaInd", 0⟩, ⟨"ambiguitaIndItemCount", 1⟩]) = some count ∧
      (ambiguousOf carrier).reportedCount = count.getD nodes.length := by
  obtain ⟨⟨items, count, ⟨⟩⟩, ⟨⟩⟩ := carrier
  obtain ⟨several, -⟩ := Shape.takenFrom_of_read (by decide) read
  obtain ⟨inner, found, listed, counted, -⟩ := several.record (by decide)
  obtain ⟨nodes, foundItems, each⟩ := listed.list
  rw [Node.at?_of_member? found, Node.at?_of_member? found, Node.at?_singleton,
    Node.at?_singleton]
  refine ⟨nodes, count, foundItems, ?_, counted.optionalCount, ?_⟩
  · exact List.forall₂_map_right_iff.mpr (each.imp fun node carrier => item_from)
  · rw [each.length_eq]
    rfl

theorem at?_of_absent {root : Node} {member inner : Member} {path : List Member}
    (absent : root.member? member = none ∨ root.member? member = some .null) :
    root.at? (member :: inner :: path) = none := by
  rcases absent with missing | null
  · exact Node.at?_of_member?_eq_none missing _
  · rw [Node.at?_of_member? null]
    rfl

/-- An answer holds what stands in its text. -/
theorem answerFrom_of_read {text : List Text.Symbol} {answer : RawAnswer}
    (read : Answer.read text = .ok answer) : AnswerFrom (Document.read text).root answer := by
  obtain ⟨carrier, readText, same⟩ := Json.Reading.bind_eq_ok.mp read
  obtain rfl : answerOf carrier = answer := Except.ok.inj same
  have readRoot := Shape.read_root_of_readText readText
  obtain ⟨code, recognized, ambiguous, locality, ⟨⟩⟩ := carrier
  obtain ⟨codeStands, recognizedStands, ambiguousStands, localityStands, -⟩ :=
    Shape.takenFrom_of_read (by decide) readRoot
  constructor
  · rw [code?, Node.at?_singleton]
    exact codeStands.text
  · intro address known
    obtain ⟨rfl, -⟩ | ⟨node, present, found, -, rfl, readNode⟩ := recognizedStands.optional
    · cases known
    · cases known
      simpa only [recognizedPair?, recognizedPostalCode?, recognizedPath, pairAt?,
        List.singleton_append, Node.at?_of_member? found] using recognized_from readNode
  · intro several known
    obtain ⟨rfl, -⟩ | ⟨node, present, found, -, rfl, readNode⟩ := ambiguousStands.optional
    · cases known
    · cases known
      simpa only [itemNodes?, itemCount?, ambiguousPath, List.singleton_append,
        Node.at?_of_member? found] using ambiguous_from readNode
  · intro unknown
    obtain ⟨-, absent⟩ | ⟨_, _, _, -, rfl, -⟩ := ambiguousStands.optional
    · rw [itemCount?, ambiguousPath, List.singleton_append, at?_of_absent absent]
      rfl
    · cases unknown
  · intro place known
    obtain ⟨rfl, -⟩ | ⟨node, present, found, -, rfl, readNode⟩ := localityStands.optional
    · cases known
    · cases known
      simpa only [localityPair?, localityPostalCode?, localityPath, pairAt?,
        List.singleton_append, Node.at?_of_member? found] using locality_from readNode

end Geocoding.Answer
