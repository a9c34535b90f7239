import Geocoding.Proofs.Interpretation.Outcome

/-!
# What the reading of an answer depends on

An answer is read from its code and the one section that the code selects.  Whatever stands
in the other sections, and in the selected one of another code, leaves no trace.

The region is no part of the answer.  It is the value of the candidates' regional places and
of nothing else, so the set for one region is that for another with these places renamed.
-/

namespace Geocoding

/-! ## Naming the region -/

def Place.inRegion (region : String) (place : Place) : Place :=
  if place.kind = .countrySubdivision then { place with value := region } else place

def ReconstructedAddress.inRegion (region : String) (address : ReconstructedAddress) :
    ReconstructedAddress :=
  { address with places := address.places.map (Place.inRegion region) }

def Candidate.inRegion (region : String) (candidate : Candidate) : Candidate :=
  { candidate with address := candidate.address.inRegion region }

def ResultSet.inRegion (region : String) (set : ResultSet) : ResultSet :=
  { set with candidates := set.candidates.map (Candidate.inRegion region) }

def ResultSet.withoutRegion (set : ResultSet) : ResultSet :=
  set.inRegion ""

variable (region other : String)

theorem ResultSet.inRegion_single (candidate : Candidate) :
    (single candidate).inRegion region = single (candidate.inRegion region) :=
  rfl

theorem RecognizedAddress.inRegion_candidate (recognized : RecognizedAddress) :
    (recognized.candidate region).inRegion other = recognized.candidate other :=
  rfl

theorem NormalizedLocality.inRegion_candidate (locality : NormalizedLocality) :
    (locality.candidate region).inRegion other = locality.candidate other :=
  rfl

theorem AmbiguousItem.inRegion_candidate (item : AmbiguousItem) :
    item.candidate.inRegion region = item.candidate :=
  rfl

/-- Several addresses that may have been meant have no places, and so no region. -/
theorem AmbiguousAddress.inRegion_resultSet (ambiguous : AmbiguousAddress) :
    ambiguous.resultSet.map (ResultSet.inRegion region) = ambiguous.resultSet := by
  have items : (ambiguous.items.map AmbiguousItem.candidate).map (Candidate.inRegion region) =
      ambiguous.items.map AmbiguousItem.candidate := by
    rw [List.map_map]
    apply List.map_congr_left
    intro item _
    exact item.inRegion_candidate region
  rw [resultSet]
  split
  · simp only [Except.map, ResultSet.inRegion, items]
  · rfl

namespace RawAnswer

theorem inRegion_interpretAs (answer : RawAnswer) (code : ResponseCode) :
    (answer.interpretAs region code).map (ResultSet.inRegion other) =
      answer.interpretAs other code := by
  cases code with
  | ok =>
    simp only [interpretAs]
    cases answer.recognizedAddress with
    | none => rfl
    | some recognized =>
      simp only [Except.map, ResultSet.inRegion_single, RecognizedAddress.inRegion_candidate]
  | ambiguousAddress =>
    simp only [interpretAs]
    cases answer.ambiguousAddress with
    | none => rfl
    | some ambiguous => exact ambiguous.inRegion_resultSet other
  | municipalityDataOnly =>
    simp only [interpretAs]
    cases answer.normalizedLocality with
    | none => rfl
    | some locality =>
      simp only [Except.map, ResultSet.inRegion_single, NormalizedLocality.inRegion_candidate]
  | unknownAddress | unknownMunicipality | ambiguousMunicipality => rfl
  | inputParameterError | dataAccessError => rfl

/-- The reading for another region is the same reading with the region renamed. -/
theorem inRegion_interpret (answer : RawAnswer) :
    (answer.interpret region).map (ResultSet.inRegion other) = answer.interpret other := by
  rw [interpret, interpret]
  cases ResponseCode.ofWire? answer.responseCode with
  | none => rfl
  | some code => exact answer.inRegion_interpretAs region other code

/-! ## The selected section -/

/-- The answers have the same code and the same section for it.  Only three codes select
a section. -/
structure SameSelection (first second : RawAnswer) : Prop where
  code : first.responseCode = second.responseCode
  recognized : first.responseCode = "0" → first.recognizedAddress = second.recognizedAddress
  ambiguous : first.responseCode = "7" → first.ambiguousAddress = second.ambiguousAddress
  locality : first.responseCode = "8" → first.normalizedLocality = second.normalizedLocality

theorem SameSelection.interpret_eq {first second : RawAnswer}
    (same : first.SameSelection second) : first.interpret region = second.interpret region := by
  rw [interpret, interpret, ← same.code]
  cases found : ResponseCode.ofWire? first.responseCode with
  | none => rfl
  | some code =>
    have text := ResponseCode.ofWire?_eq_some_iff.mp found
    cases code with
    | ok => simp only [interpretAs, same.recognized text]
    | ambiguousAddress => simp only [interpretAs, same.ambiguous text]
    | municipalityDataOnly => simp only [interpretAs, same.locality text]
    | unknownAddress | unknownMunicipality | ambiguousMunicipality => rfl
    | inputParameterError | dataAccessError => rfl

/-- Only a candidate that answers the question directly is given the region. -/
theorem interpret_eq_of_regionless {answer : RawAnswer}
    (regionless : answer.responseCode ∈ ["1", "2", "6", "7"]) :
    answer.interpret region = answer.interpret other := by
  rw [interpret, interpret]
  cases found : ResponseCode.ofWire? answer.responseCode with
  | none => rfl
  | some code =>
    have text := ResponseCode.ofWire?_eq_some_iff.mp found
    rw [text] at regionless
    cases code with
    | ok | municipalityDataOnly => exact absurd regionless (by decide)
    | unknownAddress | unknownMunicipality | ambiguousMunicipality | ambiguousAddress => rfl
    | inputParameterError | dataAccessError => rfl

/-- An answer is read from its code and the section that the code selects, and from nothing
else in it.  For two regions it is refused for the same cause or read as sets that differ in
the values of their regions alone, and four of the codes never tell the regions apart. -/
theorem interpret_independent :
    (∀ first second : RawAnswer, first.SameSelection second →
      ∀ region, first.interpret region = second.interpret region) ∧
    (∀ (answer : RawAnswer) (region other : String),
      (∃ error, answer.interpret region = .error error ∧ answer.interpret other = .error error) ∨
      ∃ set otherSet, answer.interpret region = .ok set ∧ answer.interpret other = .ok otherSet ∧
        set.withoutRegion = otherSet.withoutRegion) ∧
    ∀ answer : RawAnswer, answer.responseCode ∈ ["1", "2", "6", "7"] →
      ∀ region other, answer.interpret region = answer.interpret other := by
  refine ⟨fun _ _ same region => same.interpret_eq region, ?_,
    fun _ regionless region other => interpret_eq_of_regionless region other regionless⟩
  intro answer region other
  have renamed := answer.inRegion_interpret region other
  have erased := answer.inRegion_interpret region ""
  have otherErased := answer.inRegion_interpret other ""
  cases read : answer.interpret region with
  | error error =>
    rw [read] at renamed
    exact .inl ⟨error, rfl, renamed.symm⟩
  | ok set =>
    rw [read] at renamed erased
    rw [← renamed, ← erased] at otherErased
    exact .inr ⟨set, _, rfl, renamed.symm, (Except.ok.inj otherErased).symm⟩

def localityBeside (recognized : Option RecognizedAddress) : RawAnswer where
  responseCode := "8"
  recognizedAddress := recognized
  ambiguousAddress := some { reportedCount := 3 }
  normalizedLocality := some ⟨⟨11.25, 43.75⟩, "Brozzi", "Firenze", "FI", some "50145"⟩

theorem interpret_independent_locality :
    let leftover : RecognizedAddress :=
      ⟨⟨10.4, 43.7⟩, "Pisa", "PI", none, some "12", "VIA", "ROMA"⟩
    localityBeside none ≠ localityBeside (some leftover) ∧
      (∀ region, (localityBeside none).interpret region =
        (localityBeside (some leftover)).interpret region) ∧
      (localityBeside none).interpret "Toscana" ≠ (localityBeside none).interpret "Lazio" := by
  intro leftover
  have same : (localityBeside none).SameSelection (localityBeside (some leftover)) :=
    ⟨rfl, nofun, fun _ => rfl, fun _ => rfl⟩
  refine ⟨by decide +kernel, interpret_independent.1 _ _ same, ?_⟩
  intro alike
  exact absurd (Except.ok.inj alike) (by decide +kernel)

end RawAnswer

end Geocoding
