import Geocoding.Proofs.Normalization.AnswerText

/-!
# Answers told from their trees

The tree of a text tells an answer section by section and text by text, apart from the records
that the text is read into.  A section is absent if it is left out or `null`.  So are a postal
code and a house number, but any other text then counts as empty.
-/

namespace Geocoding.Answer

open Json (Node Member Shape)

/-! ## The sections of a tree -/

def textAt? (node : Node) (member : Member) : Option (Option String) :=
  Node.optional? Node.text? (node.member? member)

def recognized? (node : Node) : Option RecognizedAddress := do
  let (longitude, latitude) ← pairAt? node
    [⟨"datiGeoreferenziazioneInd", 0⟩, ⟨"longitudine", 0⟩]
    [⟨"datiGeoreferenziazioneInd", 0⟩, ⟨"latitudine", 1⟩]
  let data ← node.member? ⟨"datiNormalizzazioneInd", 1⟩
  return {
    position := { longitude, latitude }
    locality := (← textAt? data ⟨"localita", 0⟩).getD ""
    province := (← textAt? data ⟨"provincia", 1⟩).getD ""
    postalCode := ← textAt? data ⟨"cap", 2⟩
    houseNumber := ← textAt? data ⟨"civico", 3⟩
    streetType := (← textAt? data ⟨"dug", 4⟩).getD ""
    streetName := (← textAt? data ⟨"toponimo", 5⟩).getD "" }

def item? (node : Node) : Option AmbiguousItem := do
  let (longitude, latitude) ← itemPair? node
  return {
    position := { longitude, latitude }
    address := ← (node.member? ⟨"indirizzo", 2⟩).bind Node.text?
    houseNumber := ← textAt? node ⟨"civico", 3⟩ }

/-- Several addresses with the number of them that is told, or else that of the items. -/
def ambiguous? (node : Node) : Option AmbiguousAddress := do
  let inner ← node.member? ⟨"ambiguitaInd", 0⟩
  let nodes ← Node.items? (inner.member? ⟨"ambiguitaIndItem", 0⟩)
  let count ← Node.optional? Node.count? (inner.member? ⟨"ambiguitaIndItemCount", 1⟩)
  return { reportedCount := count.getD nodes.length, items := ← nodes.mapM item? }

def locality? (node : Node) : Option NormalizedLocality := do
  let (longitude, latitude) ← pairAt? node
    [⟨"datiNormalizzazioneLoc", 0⟩, ⟨"xSezioneIstat", 0⟩]
    [⟨"datiNormalizzazioneLoc", 0⟩, ⟨"ySezioneIstat", 1⟩]
  let data ← node.member? ⟨"datiNormalizzazioneLoc", 0⟩
  return {
    position := { longitude, latitude }
    hamlet := (← textAt? data ⟨"frazione", 2⟩).getD ""
    locality := (← textAt? data ⟨"localita", 3⟩).getD ""
    province := (← textAt? data ⟨"provincia", 4⟩).getD ""
    postalCode := ← textAt? data ⟨"cap", 5⟩ }

/-- The answer that a tree tells. -/
def ofTree? (root : Node) : Option RawAnswer := do
  return {
    responseCode := ← code? root
    recognizedAddress := ← Node.optional? recognized? (root.at? recognizedPath)
    ambiguousAddress := ← Node.optional? ambiguous? (root.at? ambiguousPath)
    normalizedLocality := ← Node.optional? locality? (root.at? localityPath) }

/-! ## Answers that have been read -/

variable {depth : Nat} {node : Node}

theorem recognized?_of_read {carrier : recognizedShape.Carrier}
    (read : recognizedShape.read depth node = .ok carrier) :
    recognized? node = some (recognizedOf carrier) := by
  obtain ⟨position, -⟩ := recognized_from read
  obtain ⟨⟨longitude, latitude, ⟨⟩⟩,
    ⟨localita, provincia, cap, civico, dug, toponimo, ⟨⟩⟩, ⟨⟩⟩ := carrier
  obtain ⟨-, normalized, -⟩ := Shape.takenFrom_of_read (by decide) read
  obtain ⟨data, found, locality, province, postalCode, houseNumber, streetType, streetName, -⟩ :=
    normalized.record (by decide)
  rw [recognized?, position, found]
  simp only [Option.bind_eq_bind, Option.bind_some, textAt?]
  rw [locality.optionalText, province.optionalText, postalCode.optionalText,
    houseNumber.optionalText, streetType.optionalText, streetName.optionalText]
  rfl

theorem locality?_of_read {carrier : localityShape.Carrier}
    (read : localityShape.read depth node = .ok carrier) :
    locality? node = some (localityOf carrier) := by
  obtain ⟨position, -⟩ := locality_from read
  obtain ⟨⟨x, y, frazione, localita, provincia, cap, ⟨⟩⟩, ⟨⟩⟩ := carrier
  obtain ⟨normalized, -⟩ := Shape.takenFrom_of_read (by decide) read
  obtain ⟨data, found, -, -, hamlet, locality, province, postalCode, -⟩ :=
    normalized.record (by decide)
  rw [locality?, position, found]
  simp only [Option.bind_eq_bind, Option.bind_some, textAt?]
  rw [hamlet.optionalText, locality.optionalText, province.optionalText, postalCode.optionalText]
  rfl

theorem item?_of_read {carrier : itemShape.Carrier}
    (read : itemShape.read depth node = .ok carrier) : item? node = some (itemOf carrier) := by
  have position := (item_from read).position
  obtain ⟨x, y, indirizzo, civico, ⟨⟩⟩ := carrier
  obtain ⟨-, -, address, houseNumber, -⟩ := Shape.takenFrom_of_read (by decide) read
  rw [item?, position]
  simp only [Option.bind_eq_bind, Option.bind_some, textAt?]
  rw [address.text, houseNumber.optionalText]
  rfl

theorem mapM_item?_of_read {nodes : List Node} {carriers : List itemShape.Carrier}
    (read : List.Forall₂ (fun node carrier => itemShape.read depth node = .ok carrier) nodes
      carriers) : nodes.mapM item? = some (carriers.map itemOf) := by
  induction read with
  | nil => rfl
  | cons first _ ih =>
    rw [List.mapM_cons, item?_of_read first, ih]
    rfl

theorem ambiguous?_of_read {carrier : ambiguousShape.Carrier}
    (read : ambiguousShape.read depth node = .ok carrier) :
    ambiguous? node = some (ambiguousOf carrier) := by
  obtain ⟨⟨items, count, ⟨⟩⟩, ⟨⟩⟩ := carrier
  obtain ⟨several, -⟩ := Shape.takenFrom_of_read (by decide) read
  obtain ⟨inner, found, listed, counted, -⟩ := several.record (by decide)
  obtain ⟨nodes, foundItems, each⟩ := listed.list
  rw [ambiguous?, found]
  simp only [Option.bind_eq_bind, Option.bind_some]
  rw [foundItems, counted.optionalCount]
  simp only [Option.bind_some]
  rw [mapM_item?_of_read each, each.length_eq]
  rfl

/-- What is read of a tree is the answer that it tells. -/
theorem ofTree?_of_read {carrier : answerShape.Carrier}
    (read : answerShape.read depth node = .ok carrier) :
    ofTree? node = some (answerOf carrier) := by
  obtain ⟨code, recognized, ambiguous, locality, ⟨⟩⟩ := carrier
  obtain ⟨codeStands, recognizedStands, ambiguousStands, localityStands, -⟩ :=
    Shape.takenFrom_of_read (by decide) read
  rw [ofTree?, code?, recognizedPath, ambiguousPath, localityPath]
  simp only [Node.at?_singleton]
  rw [codeStands.text, recognizedStands.optional_kind fun _ _ => recognized?_of_read,
    ambiguousStands.optional_kind fun _ _ => ambiguous?_of_read,
    localityStands.optional_kind fun _ _ => locality?_of_read]
  rfl

end Geocoding.Answer
