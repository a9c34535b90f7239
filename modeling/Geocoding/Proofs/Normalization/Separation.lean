import Geocoding.Proofs.Address.Acceptance
import Geocoding.Proofs.Batch.Course
import Geocoding.Proofs.Text.Joining

/-!
# Different addresses are asked for differently

A question holds the line of an address, in which the street, the number and the part of a
building are joined by separators, and the places and the postal code that count.  The
latter can always be told from the question, and the line can be taken apart again unless a
street or a number holds the separator that follows it.
-/

namespace Geocoding

open Text (Contains joined)

namespace AddressQuery

/-! ## The parts of a query -/

def street? (query : AddressQuery) : Option String :=
  query.streetAddress.bind fun address => address.streets.head?

def building? (query : AddressQuery) : Option Building :=
  query.streetAddress.bind StreetAddress.building

def buildingNumber? (query : AddressQuery) : Option String :=
  query.building?.bind Building.number

/-- The subdivision of the building, unless it is empty. -/
def buildingPart? (query : AddressQuery) : Option String :=
  nonEmpty (query.building?.bind Building.subdivision)

def place? (kind : PlaceKind) (query : AddressQuery) : Option String :=
  nonEmpty (valuesOf kind query.places).getLast?

/-- The street name does not hold what separates it from the number. -/
def StreetClear (query : AddressQuery) : Prop :=
  ∀ street ∈ query.street?, ¬ Contains street ", "

/-- The number does not hold what separates it from the part of the building. -/
def NumberClear (query : AddressQuery) : Prop :=
  ∀ number ∈ query.buildingNumber?, ¬ Contains number "/"

end AddressQuery

/-! ## The line of an address -/

theorem ValidatedAddress.line_eq (address : ValidatedAddress) :
    address.line = joined ", " address.street address.buildingNumber := by
  rw [line]
  cases address.buildingNumber <;> rfl

theorem Building.label?_eq (building : Building) :
    building.label? =
      building.number.map fun number => joined "/" number (nonEmpty building.subdivision) := by
  rw [label?, nonEmpty]
  cases building.subdivision.filter (· ≠ "") <;> rfl

namespace AddressQuery.PassesAs

variable {query : AddressQuery} {address : ValidatedAddress}

theorem street?_eq (passes : query.PassesAs address) : query.street? = some address.street := by
  obtain ⟨building, street, -⟩ := passes.street
  rw [street?, street]
  rfl

theorem buildingNumber_eq (passes : query.PassesAs address) :
    address.buildingNumber =
      query.buildingNumber?.map fun number => joined "/" number query.buildingPart? := by
  obtain ⟨building, street, number⟩ := passes.street
  rw [number, buildingNumber?, buildingPart?, building?, street]
  cases building with
  | none => rfl
  | some building => exact building.label?_eq

/-- Two addresses have the same line only if they agree in the street, unless one of the names
holds a comma and a blank, and then also in the building, unless one of the numbers holds a
slash. -/
theorem parts_eq_of_line_eq (passes : query.PassesAs address) {otherQuery : AddressQuery}
    {other : ValidatedAddress} (alsoPasses : otherQuery.PassesAs other)
    (line : address.line = other.line) (clear : query.StreetClear)
    (alsoClear : otherQuery.StreetClear) :
    query.street? = otherQuery.street? ∧
      (query.NumberClear → otherQuery.NumberClear →
        query.buildingNumber? = otherQuery.buildingNumber? ∧
          (query.buildingNumber?.isSome → query.buildingPart? = otherQuery.buildingPart?)) := by
  rw [ValidatedAddress.line_eq, ValidatedAddress.line_eq] at line
  obtain ⟨streets, labels⟩ := Text.joined_inj (by decide)
    (clear _ passes.street?_eq) (alsoClear _ alsoPasses.street?_eq) line
  constructor
  · rw [passes.street?_eq, alsoPasses.street?_eq, streets]
  intro numberClear otherNumberClear
  rw [passes.buildingNumber_eq, alsoPasses.buildingNumber_eq] at labels
  cases number : query.buildingNumber? with
  | none =>
    rw [number] at labels
    have unnumbered : otherQuery.buildingNumber? = none := Option.map_eq_none_iff.mp labels.symm
    exact ⟨unnumbered.symm, nofun⟩
  | some text =>
    rw [number, Option.map_some] at labels
    obtain ⟨otherText, otherNumber, label⟩ := Option.map_eq_some_iff.mp labels.symm
    obtain ⟨numbers, parts⟩ := Text.joined_inj (by decide)
      (otherNumberClear _ otherNumber) (numberClear _ number) label
    exact ⟨by rw [otherNumber, numbers], fun _ => parts.symm⟩

end AddressQuery.PassesAs

theorem AddressQuery.question_eq_ok_iff {query : AddressQuery} {request : NormalizationRequest} :
    query.question = .ok request ↔
      ∃ address, query.PassesAs address ∧ NormalizationRequest.ofAddress address = request := by
  simp only [← validate_eq_ok_iff]
  rw [question]
  cases query.validate <;> simp [Except.map]

/-- Two addresses that pass their checks are asked for by one question only if they agree in
the places and the postal code that count, and in the street and the building as far as the
separators in their line allow to tell these apart. -/
theorem question_separates {first second : AddressQuery} {request : NormalizationRequest}
    (asked : first.question = .ok request) (alsoAsked : second.question = .ok request) :
    first.place? .municipality = second.place? .municipality ∧
      first.place? .countrySecondarySubdivision = second.place? .countrySecondarySubdivision ∧
      nonEmpty first.postalCode = nonEmpty second.postalCode ∧
      (first.StreetClear → second.StreetClear → first.street? = second.street? ∧
        (first.NumberClear → second.NumberClear →
          first.buildingNumber? = second.buildingNumber? ∧
            (first.buildingNumber?.isSome → first.buildingPart? = second.buildingPart?))) := by
  obtain ⟨address, passes, rfl⟩ := AddressQuery.question_eq_ok_iff.mp asked
  obtain ⟨other, alsoPasses, same⟩ := AddressQuery.question_eq_ok_iff.mp alsoAsked
  have municipality : other.municipality = address.municipality :=
    congrArg NormalizationRequest.municipality same
  have subdivision : other.subdivision = address.subdivision :=
    congrArg NormalizationRequest.subdivision same
  have postalCode : other.postalCode = address.postalCode :=
    congrArg NormalizationRequest.postalCode same
  have line : other.line = address.line := congrArg NormalizationRequest.address same
  refine ⟨?_, ?_, ?_, passes.parts_eq_of_line_eq alsoPasses line.symm⟩
  · rw [AddressQuery.place?, AddressQuery.place?, passes.municipality, alsoPasses.municipality,
      municipality]
  · rw [AddressQuery.place?, AddressQuery.place?, passes.subdivision, alsoPasses.subdivision,
      subdivision]
  · rw [passes.postalCode, alsoPasses.postalCode, postalCode]

/-! ## Spellings of one address -/

/-- An address in a street whose name ends in a comma. -/
def florentineQuery (building : Building) (places : List Place) : AddressQuery where
  countryCode := "IT"
  streetAddress := some ⟨["Via Roma,"], some building⟩
  places
  postalCode := some ""

def florentineQuestion (label : String) : NormalizationRequest where
  algorithm := adapterAlgorithm
  address := "Via Roma,, " ++ label
  municipality := "Firenze"
  subdivision := none
  postalCode := none
  dataSource := adapterDataSource

theorem question_separates_spellings :
    let plain := florentineQuery ⟨some "12, scala A", none⟩ [⟨.municipality, "Firenze"⟩]
    let wordy := florentineQuery ⟨some "12, scala A", some ""⟩
      [⟨.municipality, ""⟩, ⟨.countrySecondarySubdivision, ""⟩, ⟨.countrySubdivision, "Toscana"⟩,
        ⟨.municipality, "Firenze"⟩]
    plain ≠ wordy ∧ plain.question = .ok (florentineQuestion "12, scala A") ∧
      wordy.question = .ok (florentineQuestion "12, scala A") ∧
      plain.place? .municipality = wordy.place? .municipality ∧
      plain.street? = wordy.street? ∧ plain.buildingNumber? = wordy.buildingNumber? ∧
      plain.buildingPart? = wordy.buildingPart? := by
  intro plain wordy
  have asked : plain.question = .ok (florentineQuestion "12, scala A") := by decide +kernel
  have alsoAsked : wordy.question = .ok (florentineQuestion "12, scala A") := by decide +kernel
  have street : plain.StreetClear := by rintro _ ⟨⟩; decide
  have alsoStreet : wordy.StreetClear := by rintro _ ⟨⟩; decide
  have number : plain.NumberClear := by rintro _ ⟨⟩; decide
  have alsoNumber : wordy.NumberClear := by rintro _ ⟨⟩; decide
  obtain ⟨municipalities, -, -, separates⟩ := question_separates asked alsoAsked
  obtain ⟨streets, buildings⟩ := separates street alsoStreet
  obtain ⟨numbers, parts⟩ := buildings number alsoNumber
  exact ⟨by decide, asked, alsoAsked, municipalities, streets, numbers, parts rfl⟩

/-- A slash in a number is taken for the one in front of the part of the building. -/
example :
    (florentineQuery ⟨some "12/B", none⟩ [⟨.municipality, "Firenze"⟩]).question =
      (florentineQuery ⟨some "12", some "B"⟩ [⟨.municipality, "Firenze"⟩]).question := by
  decide +kernel

end Geocoding
