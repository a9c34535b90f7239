import Geocoding.Proofs.Interpretation.Outcome

/-!
# What every result set is like

The set that an answer is read as counts its own candidates, and they are all of one kind:
a single candidate that answers the question, with its administrative places, or candidates
for an ambiguous question, each with a street and nothing else.
-/

namespace Geocoding

/-- An address with its administrative places up to the region, each level once. -/
structure ReconstructedAddress.LocatedIn (region : String) (address : ReconstructedAddress) :
    Prop where
  distinct : (address.places.map Place.kind).Nodup
  municipality : (address.places.map Place.kind).count .municipality = 1
  province : (address.places.map Place.kind).count .countrySecondarySubdivision = 1
  region : ∃ inner, address.places = inner ++ [⟨.countrySubdivision, region⟩] ∧
    ∀ place ∈ inner, place.kind ≠ .countrySubdivision

structure ReconstructedAddress.StreetOnly (address : ReconstructedAddress) : Prop where
  places : address.places = []
  postalCode : address.postalCode = none
  street : address.street.isSome = true

namespace ResultSet

/-- What holds of a result set whatever answer it comes from. -/
structure Consistent (region : String) (set : ResultSet) : Prop where
  counted : set.addressCount = set.candidates.length
  country : ∀ candidate ∈ set.candidates, candidate.address.countryCode = "IT"
  labelled : ∀ candidate ∈ set.candidates, candidate.matchCode.matchType = adapterMatchType
  oneKind : (∀ candidate ∈ set.candidates, candidate.matchCode.accuracy = 1) ∨
    ∀ candidate ∈ set.candidates, candidate.matchCode.accuracy = 0
  direct : ∀ candidate ∈ set.candidates, candidate.matchCode.accuracy = 1 →
    set.candidates = [candidate] ∧ candidate.address.LocatedIn region
  ambiguous : ∀ candidate ∈ set.candidates, candidate.matchCode.accuracy = 0 →
    candidate.address.StreetOnly

theorem directMatch_accuracy_ne_zero : directMatch.accuracy ≠ 0 := by decide

theorem ambiguousMatch_accuracy_ne_one : ambiguousMatch.accuracy ≠ 1 := by decide

variable {region : String}

theorem consistent_empty : empty.Consistent region where
  counted := rfl
  country := nofun
  labelled := nofun
  oneKind := .inl nofun
  direct := nofun
  ambiguous := nofun

theorem consistent_single {candidate : Candidate} (country : candidate.address.countryCode = "IT")
    (mark : candidate.matchCode = directMatch) (located : candidate.address.LocatedIn region) :
    (single candidate).Consistent region where
  counted := rfl
  country := by simpa [single] using country
  labelled := by simp [single, mark, directMatch]
  oneKind := .inl (by simp [single, mark, directMatch])
  direct := by simpa [single] using fun _ => located
  ambiguous := by simp [single, mark, directMatch_accuracy_ne_zero]

theorem consistent_ambiguous (items : List AmbiguousItem) :
    Consistent region ⟨items.length, items.map AmbiguousItem.candidate⟩ where
  counted := by simp
  country := by simp [AmbiguousItem.candidate, supportedCountry]
  labelled := by simp [AmbiguousItem.candidate, ambiguousMatch]
  oneKind := .inr (by simp [AmbiguousItem.candidate, ambiguousMatch])
  direct := by simp [AmbiguousItem.candidate, ambiguousMatch_accuracy_ne_one]
  ambiguous := by
    simp only [List.forall_mem_map]
    exact fun item _ _ => ⟨rfl, rfl, rfl⟩

end ResultSet

theorem RecognizedAddress.locatedIn_candidate (recognized : RecognizedAddress) (region : String) :
    (recognized.candidate region).address.LocatedIn region where
  distinct := by simp [candidate]
  municipality := rfl
  province := rfl
  region := ⟨[⟨.municipality, recognized.locality⟩,
    ⟨.countrySecondarySubdivision, recognized.province⟩], rfl, by simp⟩

theorem NormalizedLocality.locatedIn_candidate (found : NormalizedLocality) (region : String) :
    (found.candidate region).address.LocatedIn region where
  distinct := by simp [candidate]
  municipality := rfl
  province := rfl
  region := ⟨[⟨.municipalitySubdivision, found.hamlet⟩, ⟨.municipality, found.locality⟩,
    ⟨.countrySecondarySubdivision, found.province⟩], rfl, by simp⟩

theorem RawAnswer.ReadAs.consistent {answer : RawAnswer} {region : String} {set : ResultSet}
    (read : answer.ReadAs region set) : set.Consistent region := by
  cases read with
  | recognized code found =>
    exact ResultSet.consistent_single rfl rfl (RecognizedAddress.locatedIn_candidate _ region)
  | unmatched code => exact ResultSet.consistent_empty
  | ambiguous code found complete =>
    rw [complete]
    exact ResultSet.consistent_ambiguous _
  | locality code found =>
    exact ResultSet.consistent_single rfl rfl (NormalizedLocality.locatedIn_candidate _ region)

end Geocoding
