import Geocoding.Proofs.Interpretation.Outcome
import Geocoding.Proofs.Normalization.AnswerText
import Geocoding.Proofs.Text.Blank
import Geocoding.Proofs.Text.Symbol

/-!
# Traces of missing parts

The service may leave out most texts of an address.  A postal code that is left out stays
absent, and a house number that is left out or empty is not put behind the street.  The other
texts count as empty, and an empty text is put into the candidate like any other: it leaves a
place without a name, or a blank at an end of the street or in front of its comma.
-/

namespace Geocoding

open Json (Node Member Document Shape)

/-! ## The texts of a section -/

structure StreetTexts where
  locality : Option String
  province : Option String
  postalCode : Option String
  houseNumber : Option String
  streetType : Option String
  streetName : Option String
deriving DecidableEq, Repr

structure LocalityTexts where
  hamlet : Option String
  locality : Option String
  province : Option String
  postalCode : Option String
deriving DecidableEq, Repr

/-- The text of a section, unless it is left out or `null`, and not empty. -/
def Given (text : Option String) : Prop :=
  ∃ content, text = some content ∧ content ≠ ""

theorem given_iff {text : Option String} : Given text ↔ Answer.orEmpty text ≠ "" := by
  cases text with
  | none => simp [Given, Answer.orEmpty]
  | some content => simp [Given, Answer.orEmpty]

def AllTrimmed (texts : List (Option String)) : Prop :=
  ∀ text ∈ texts, ∀ content ∈ text, Text.Trimmed content.toList

instance (texts : List (Option String)) : Decidable (AllTrimmed texts) :=
  inferInstanceAs (Decidable (∀ text ∈ texts, ∀ content ∈ text, _))

def StreetTexts.Trimmed (texts : StreetTexts) : Prop :=
  AllTrimmed [texts.locality, texts.province, texts.postalCode, texts.houseNumber,
    texts.streetType, texts.streetName]

namespace Answer

def streetTexts? (root : Node) : Option StreetTexts := do
  let textOf (member : Member) :=
    Node.optional? Node.text? (root.at? (recognizedPath ++ [⟨"datiNormalizzazioneInd", 1⟩, member]))
  return {
    locality := ← textOf ⟨"localita", 0⟩
    province := ← textOf ⟨"provincia", 1⟩
    postalCode := ← textOf ⟨"cap", 2⟩
    houseNumber := ← textOf ⟨"civico", 3⟩
    streetType := ← textOf ⟨"dug", 4⟩
    streetName := ← textOf ⟨"toponimo", 5⟩ }

def localityTexts? (root : Node) : Option LocalityTexts := do
  let textOf (member : Member) :=
    Node.optional? Node.text? (root.at? (localityPath ++ [⟨"datiNormalizzazioneLoc", 0⟩, member]))
  return {
    hamlet := ← textOf ⟨"frazione", 2⟩
    locality := ← textOf ⟨"localita", 3⟩
    province := ← textOf ⟨"provincia", 4⟩
    postalCode := ← textOf ⟨"cap", 5⟩ }

/-- A recognized address is made of the texts that the answer gives of it. -/
structure StreetFrom (texts : StreetTexts) (address : RecognizedAddress) : Prop where
  locality : address.locality = orEmpty texts.locality
  province : address.province = orEmpty texts.province
  postalCode : address.postalCode = texts.postalCode
  houseNumber : address.houseNumber = texts.houseNumber
  streetType : address.streetType = orEmpty texts.streetType
  streetName : address.streetName = orEmpty texts.streetName

structure LocalityFrom (texts : LocalityTexts) (found : NormalizedLocality) : Prop where
  hamlet : found.hamlet = orEmpty texts.hamlet
  locality : found.locality = orEmpty texts.locality
  province : found.province = orEmpty texts.province
  postalCode : found.postalCode = texts.postalCode

variable {text : List Text.Symbol} {answer : RawAnswer}

theorem exists_streetTexts (read : Answer.read text = .ok answer) {address : RecognizedAddress}
    (known : answer.recognizedAddress = some address) :
    ∃ texts, streetTexts? (Document.read text).root = some texts ∧ StreetFrom texts address := by
  obtain ⟨carrier, readText, same⟩ := Json.Reading.bind_eq_ok.mp read
  obtain rfl : answerOf carrier = answer := Except.ok.inj same
  obtain ⟨code, recognized, ambiguous, locality, ⟨⟩⟩ := carrier
  obtain ⟨-, stands, -⟩ :=
    Shape.takenFrom_of_read (by decide) (Shape.read_root_of_readText readText)
  obtain ⟨rfl, -⟩ | ⟨node, present, found, -, rfl, readNode⟩ := stands.optional
  · cases known
  · cases known
    obtain ⟨georeference, ⟨localita, provincia, cap, civico, dug, toponimo, ⟨⟩⟩, ⟨⟩⟩ := present
    obtain ⟨-, normalized, -⟩ := Shape.takenFrom_of_read (by decide) readNode
    obtain ⟨data, foundData, first, second, third, fourth, fifth, sixth, -⟩ :=
      normalized.record (by decide)
    refine ⟨⟨localita, provincia, cap, civico, dug, toponimo⟩, ?_, ⟨rfl, rfl, rfl, rfl, rfl, rfl⟩⟩
    simp only [streetTexts?, recognizedPath, List.singleton_append, Node.at?_of_member? found,
      Node.at?_of_member? foundData, Node.at?_singleton]
    rw [first.optionalText, second.optionalText, third.optionalText, fourth.optionalText,
      fifth.optionalText, sixth.optionalText]
    rfl

theorem exists_localityTexts (read : Answer.read text = .ok answer) {place : NormalizedLocality}
    (known : answer.normalizedLocality = some place) :
    ∃ texts, localityTexts? (Document.read text).root = some texts ∧ LocalityFrom texts place := by
  obtain ⟨carrier, readText, same⟩ := Json.Reading.bind_eq_ok.mp read
  obtain rfl : answerOf carrier = answer := Except.ok.inj same
  obtain ⟨code, recognized, ambiguous, locality, ⟨⟩⟩ := carrier
  obtain ⟨-, -, -, stands, -⟩ :=
    Shape.takenFrom_of_read (by decide) (Shape.read_root_of_readText readText)
  obtain ⟨rfl, -⟩ | ⟨node, present, found, -, rfl, readNode⟩ := stands.optional
  · cases known
  · cases known
    obtain ⟨⟨x, y, frazione, localita, provincia, cap, ⟨⟩⟩, ⟨⟩⟩ := present
    obtain ⟨normalized, -⟩ := Shape.takenFrom_of_read (by decide) readNode
    obtain ⟨data, foundData, -, -, first, second, third, fourth, -⟩ :=
      normalized.record (by decide)
    refine ⟨⟨frazione, localita, provincia, cap⟩, ?_, ⟨rfl, rfl, rfl, rfl⟩⟩
    simp only [localityTexts?, localityPath, List.singleton_append, Node.at?_of_member? found,
      Node.at?_of_member? foundData, Node.at?_singleton]
    rw [first.optionalText, second.optionalText, third.optionalText, fourth.optionalText]
    rfl

end Answer

/-! ## Streets -/

/-- No blank stands in front of the comma that puts the house number behind the street.  An empty
house number and the number `0` are not put there. -/
def NoBlankBeforeNumber (street : String) (houseNumber : Option String) : Prop :=
  ∀ number ∈ houseNumber, number ≠ "" → number ≠ "0" → ∀ front, street = front ++ ", " ++ number →
    ∀ character ∈ front.toList.getLast?, Text.isBlank character = false

section Streets

variable {base number : String} {houseNumber : Option String}

theorem withHouseNumber_cases (base : String) (houseNumber : Option String) :
    (∃ number, houseNumber = some number ∧ number ≠ "" ∧ number ≠ "0" ∧
      withHouseNumber base (houseNumber.filter (· ≠ "0")) = base ++ ", " ++ number) ∨
    ((∀ number ∈ houseNumber, number = "" ∨ number = "0") ∧
      withHouseNumber base (houseNumber.filter (· ≠ "0")) = base) := by
  cases houseNumber with
  | none => exact .inr ⟨nofun, rfl⟩
  | some number =>
    by_cases zero : number = "0"
    · subst zero
      exact .inr ⟨by simp, rfl⟩
    · by_cases empty : number = ""
      · subst empty
        exact .inr ⟨by simp, rfl⟩
      · refine .inl ⟨number, rfl, empty, zero, ?_⟩
        simp [withHouseNumber, nonEmpty, Option.filter, zero, empty]

theorem trimmed_append {first last : String} (between : String) (some : first ≠ "")
    (alsoSome : last ≠ "") (trimmed : Text.Trimmed first.toList)
    (alsoTrimmed : Text.Trimmed last.toList) :
    Text.Trimmed (first ++ between ++ last).toList := by
  have firstNonempty : first.toList ≠ [] := by simpa using some
  have lastNonempty : last.toList ≠ [] := by simpa using alsoSome
  constructor
  · rw [String.toList_append, String.toList_append, List.append_assoc,
      List.head?_append_of_ne_nil _ firstNonempty]
    exact trimmed.1
  · rw [String.toList_append, List.getLast?_append_of_ne_nil _ lastNonempty]
    exact alsoTrimmed.2

/-- A street of two texts shows that one of them is missing, and only that: it has blanks at its
ends and in front of its comma just where one of the texts should be. -/
theorem street_traceless_iff {streetType streetName : String}
    (typeTrimmed : Text.Trimmed streetType.toList) (nameTrimmed : Text.Trimmed streetName.toList)
    (numberTrimmed : ∀ number ∈ houseNumber, Text.Trimmed number.toList) :
    (Text.Trimmed (withHouseNumber (streetType ++ " " ++ streetName)
        (houseNumber.filter (· ≠ "0"))).toList ∧
      NoBlankBeforeNumber (withHouseNumber (streetType ++ " " ++ streetName)
        (houseNumber.filter (· ≠ "0"))) houseNumber) ↔
      streetType ≠ "" ∧ streetName ≠ "" := by
  constructor
  · rintro ⟨trimmed, comma⟩
    have blank : Text.isBlank ' ' = true := by decide
    obtain ⟨number, rfl, nonempty, nonzero, shown⟩ | ⟨-, shown⟩ :=
      withHouseNumber_cases (streetType ++ " " ++ streetName) houseNumber
    · rw [shown] at trimmed comma
      constructor
      · rintro rfl
        exact Bool.false_ne_true ((trimmed.1 ' ' (by simp)).symm.trans blank)
      · rintro rfl
        have front := comma number rfl nonempty nonzero _ rfl
        exact Bool.false_ne_true ((front ' ' (by simp)).symm.trans blank)
    · rw [shown] at trimmed
      constructor
      · rintro rfl
        exact Bool.false_ne_true ((trimmed.1 ' ' (by simp)).symm.trans blank)
      · rintro rfl
        exact Bool.false_ne_true ((trimmed.2 ' ' (by simp)).symm.trans blank)
  · rintro ⟨typed, named⟩
    have base := trimmed_append " " typed named typeTrimmed nameTrimmed
    obtain ⟨number, rfl, nonempty, nonzero, shown⟩ | ⟨hidden, shown⟩ :=
      withHouseNumber_cases (streetType ++ " " ++ streetName) houseNumber
    · rw [shown]
      have some : streetType ++ " " ++ streetName ≠ "" := by simp
      refine ⟨trimmed_append ", " some nonempty base (numberTrimmed number rfl), ?_⟩
      rintro _ ⟨⟩ - - front same
      obtain rfl : streetType ++ " " ++ streetName = front := by
        rw [String.append_left_inj, String.append_left_inj] at same
        exact same
      exact base.2
    · rw [shown]
      refine ⟨base, ?_⟩
      intro number present nonempty nonzero
      obtain empty | zero := hidden number present
      · exact (nonempty empty).elim
      · exact (nonzero zero).elim

end Streets

/-! ## Candidates -/

/-- Nothing in a candidate tells that a part of it was missing: every place has a name, and no
blank stands at an end of the street or in front of the comma before the house number. -/
structure Candidate.Traceless (candidate : Candidate) (houseNumber : Option String) : Prop where
  places : ∀ place ∈ candidate.address.places, place.value ≠ ""
  street : ∀ street ∈ candidate.address.street,
    Text.Trimmed street.toList ∧ NoBlankBeforeNumber street houseNumber

theorem ne_empty_of_named {region : String}
    (named : ∃ character ∈ region.toList, Text.isBlank character = false) : region ≠ "" := by
  rintro rfl
  obtain ⟨_, mem, _⟩ := named
  cases mem

theorem trimmed_orEmpty {text : Option String}
    (trimmed : ∀ content ∈ text, Text.Trimmed content.toList) :
    Text.Trimmed (Answer.orEmpty text).toList := by
  cases text with
  | none => exact ⟨nofun, nofun⟩
  | some content => exact trimmed content rfl

theorem RecognizedAddress.traceless_iff {texts : StreetTexts} {address : RecognizedAddress}
    (made : Answer.StreetFrom texts address) (trimmed : texts.Trimmed) {region : String}
    (regionNamed : region ≠ "") :
    (address.candidate region).Traceless texts.houseNumber ↔
      Given texts.streetType ∧ Given texts.streetName ∧ Given texts.locality ∧
        Given texts.province := by
  have each := fun text mem => trimmed_orEmpty (trimmed text mem)
  have street := street_traceless_iff (each texts.streetType (by simp))
    (each texts.streetName (by simp)) (trimmed texts.houseNumber (by simp))
  rw [← made.streetType, ← made.streetName] at street
  simp only [given_iff, ← made.streetType, ← made.streetName, ← made.locality, ← made.province]
  have candidateStreet : (address.candidate region).address.street = some (withHouseNumber
      (address.streetType ++ " " ++ address.streetName)
      (texts.houseNumber.filter (· ≠ "0"))) := by
    rw [← made.houseNumber]
    rfl
  constructor
  · intro traceless
    obtain ⟨typed, named⟩ := street.mp (traceless.street _ candidateStreet)
    exact ⟨typed, named, traceless.places ⟨.municipality, address.locality⟩ (by simp [candidate]),
      traceless.places ⟨.countrySecondarySubdivision, address.province⟩ (by simp [candidate])⟩
  · rintro ⟨typed, named, locality, province⟩
    constructor
    · intro place mem
      simp only [candidate, List.mem_cons, List.not_mem_nil, or_false] at mem
      rcases mem with rfl | rfl | rfl
      · exact locality
      · exact province
      · exact regionNamed
    · intro other same
      obtain rfl := Option.some.inj (candidateStreet.symm.trans same)
      exact street.mpr ⟨typed, named⟩

theorem NormalizedLocality.traceless_iff {texts : LocalityTexts} {found : NormalizedLocality}
    (made : Answer.LocalityFrom texts found) {region : String} (regionNamed : region ≠ "") :
    (found.candidate region).Traceless none ↔
      Given texts.hamlet ∧ Given texts.locality ∧ Given texts.province := by
  simp only [given_iff, ← made.hamlet, ← made.locality, ← made.province]
  constructor
  · intro traceless
    exact ⟨traceless.places ⟨.municipalitySubdivision, found.hamlet⟩ (by simp [candidate]),
      traceless.places ⟨.municipality, found.locality⟩ (by simp [candidate]),
      traceless.places ⟨.countrySecondarySubdivision, found.province⟩ (by simp [candidate])⟩
  · rintro ⟨hamlet, locality, province⟩
    constructor
    · intro place mem
      simp only [candidate, List.mem_cons, List.not_mem_nil, or_false] at mem
      rcases mem with rfl | rfl | rfl | rfl
      · exact hamlet
      · exact locality
      · exact province
      · exact regionNamed
    · nofun

namespace RawAnswer

open Answer (streetTexts? localityTexts?)

variable {text : List Text.Symbol} {answer : RawAnswer} {region : String} {set : ResultSet}

/-- What an answer does not give of an address leaves no trace in the candidate just if it is a
postal code or a house number.  The other texts all have to be given. -/
theorem traceless_iff_given (read : Answer.read text = .ok answer)
    (named : ∃ character ∈ region.toList, Text.isBlank character = false)
    (interpreted : answer.interpret region = .ok set) :
    (answer.responseCode = "0" → ∃ texts candidate,
      streetTexts? (Document.read text).root = some texts ∧ set.candidates = [candidate] ∧
        (texts.Trimmed → (candidate.Traceless texts.houseNumber ↔
          Given texts.streetType ∧ Given texts.streetName ∧ Given texts.locality ∧
            Given texts.province))) ∧
    (answer.responseCode = "8" → ∃ texts candidate,
      localityTexts? (Document.read text).root = some texts ∧ set.candidates = [candidate] ∧
        candidate.address.street = none ∧
        (candidate.Traceless none ↔
          Given texts.hamlet ∧ Given texts.locality ∧ Given texts.province)) := by
  have readAs := interpret_eq_ok_iff.mp interpreted
  have regionNamed := ne_empty_of_named named
  constructor
  · intro code
    cases readAs with
    | @recognized address _ known =>
      obtain ⟨texts, stand, made⟩ := Answer.exists_streetTexts read known
      exact ⟨texts, _, stand, rfl, fun trimmed =>
        RecognizedAddress.traceless_iff made trimmed regionNamed⟩
    | unmatched other => simp [code] at other
    | ambiguous other => simp [code] at other
    | locality other => simp [code] at other
  · intro code
    cases readAs with
    | recognized other => simp [code] at other
    | unmatched other => simp [code] at other
    | ambiguous other => simp [code] at other
    | @locality place _ known =>
      obtain ⟨texts, stand, made⟩ := Answer.exists_localityTexts read known
      exact ⟨texts, _, stand, rfl, rfl, NormalizedLocality.traceless_iff made regionNamed⟩

def inFirenze (street : String) : List Text.Symbol :=
  Text.Symbol.ofString ("\x7b\"tipoRispostaNorm\":\"0\",\"indirizzoRiconosciuto\":\x7b" ++
    "\"datiGeoreferenziazioneInd\":\x7b\"longitudine\":11.25,\"latitudine\":43.77\x7d," ++
    "\"datiNormalizzazioneInd\":\x7b\"localita\":\"Firenze\",\"provincia\":\"FI\"," ++
    street ++ "\x7d\x7d\x7d")

def romaInFirenze (streetType : String) : RawAnswer where
  responseCode := "0"
  recognizedAddress := some {
    position := { longitude := 11.25, latitude := 43.77 }
    locality := "Firenze"
    province := "FI"
    postalCode := none
    houseNumber := none
    streetType
    streetName := "Roma" }

/-- The text in its pieces, which are short enough to be evaluated. -/
theorem inFirenze_eq (street : String) : inFirenze street =
    Text.Symbol.ofString "\x7b\"tipoRispostaNorm\":\"0\",\"indirizzoRiconosciuto\":\x7b" ++
      Text.Symbol.ofString
        "\"datiGeoreferenziazioneInd\":\x7b\"longitudine\":11.25,\"latitudine\":43.77\x7d," ++
      Text.Symbol.ofString
        "\"datiNormalizzazioneInd\":\x7b\"localita\":\"Firenze\",\"provincia\":\"FI\"," ++
      Text.Symbol.ofString street ++ Text.Symbol.ofString "\x7d\x7d\x7d" := by
  simp only [inFirenze, Text.Symbol.ofString_append, -String.reduceAppend]

/-- A street without a postal code and a house number shows no trace of them. -/
theorem traceless_iff_given_noNumber :
    Answer.read (inFirenze "\"dug\":\"Via\",\"toponimo\":\"Roma\"") = .ok (romaInFirenze "Via") ∧
    ∃ set candidate, (romaInFirenze "Via").interpret "Toscana" = .ok set ∧
      set.candidates = [candidate] ∧ candidate.Traceless none := by
  have read : Answer.read (inFirenze "\"dug\":\"Via\",\"toponimo\":\"Roma\"") =
      .ok (romaInFirenze "Via") := by
    rw [inFirenze_eq]
    decide +kernel
  have found : streetTexts? (Document.read
      (inFirenze "\"dug\":\"Via\",\"toponimo\":\"Roma\"")).root =
      some ⟨some "Firenze", some "FI", none, none, some "Via", some "Roma"⟩ := by
    rw [inFirenze_eq]
    decide +kernel
  obtain ⟨street, _⟩ := traceless_iff_given read ⟨'T', by decide, by decide⟩
    (rfl : (romaInFirenze "Via").interpret "Toscana" = .ok _)
  obtain ⟨texts, candidate, stand, single, traceless⟩ := street rfl
  obtain rfl := Option.some.inj (found.symm.trans stand)
  refine ⟨read, _, candidate, rfl, single, (traceless ?_).mpr ?_⟩
  · rw [StreetTexts.Trimmed]
    decide +kernel
  · exact ⟨⟨"Via", rfl, by decide⟩, ⟨"Roma", rfl, by decide⟩, ⟨"Firenze", rfl, by decide⟩,
      ⟨"FI", rfl, by decide⟩⟩

/-- A street whose type is `null` begins with a blank. -/
theorem null_streetType_traced :
    Answer.read (inFirenze "\"dug\":null,\"toponimo\":\"Roma\"") = .ok (romaInFirenze "") ∧
    ∃ set candidate, (romaInFirenze "").interpret "Toscana" = .ok set ∧
      set.candidates = [candidate] ∧ candidate.address.street = some " Roma" ∧
      ¬ candidate.Traceless none := by
  have read : Answer.read (inFirenze "\"dug\":null,\"toponimo\":\"Roma\"") =
      .ok (romaInFirenze "") := by
    rw [inFirenze_eq]
    decide +kernel
  refine ⟨read, _, _, rfl, rfl, rfl, ?_⟩
  intro traceless
  obtain ⟨trimmed, _⟩ := traceless.street " Roma" rfl
  revert trimmed
  decide

end RawAnswer

end Geocoding
