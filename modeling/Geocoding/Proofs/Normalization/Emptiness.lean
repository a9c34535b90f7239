import Geocoding.Proofs.Address.Refusal
import Geocoding.Proofs.Normalization.Separation

/-!
# Empty texts and absent ones

A free form text, a postal code or a part of a building that is empty says as much as one that
is absent: an address is accepted, and asked for, alike with either.  Not so the number of a
building.  An empty number is a number, so the line of the address goes on behind the street
with nothing, or with the part of the building alone.
-/

namespace Geocoding

def Building.withoutEmpty (building : Building) : Building where
  number := nonEmpty building.number
  subdivision := nonEmpty building.subdivision

def StreetAddress.withoutEmpty (address : StreetAddress) : StreetAddress :=
  { address with building := address.building.map Building.withoutEmpty }

namespace AddressQuery

def withoutEmpty (query : AddressQuery) : AddressQuery :=
  { query with
    freeForm := nonEmpty query.freeForm
    streetAddress := query.streetAddress.map StreetAddress.withoutEmpty
    postalCode := nonEmpty query.postalCode }

/-- The queries differ at most in texts that are empty in one and absent in the other. -/
structure SameUpToEmpty (first second : AddressQuery) : Prop where
  country : first.countryCode = second.countryCode
  freeForm : nonEmpty first.freeForm = nonEmpty second.freeForm
  streets : first.streetAddress.map StreetAddress.streets =
    second.streetAddress.map StreetAddress.streets
  number : nonEmpty first.buildingNumber? = nonEmpty second.buildingNumber?
  part : first.buildingPart? = second.buildingPart?
  places : first.places = second.places
  postalCode : nonEmpty first.postalCode = nonEmpty second.postalCode

/-- The lines in which every separator has a text on both sides. -/
inductive LineOf (query : AddressQuery) : String → Prop
  | street {street : String} (named : query.street? = some street)
      (unnumbered : query.buildingNumber? = none) : LineOf query street
  | number {street number : String} (named : query.street? = some street)
      (numbered : query.buildingNumber? = some number) (full : number ≠ "")
      (undivided : query.buildingPart? = none) : LineOf query (street ++ ", " ++ number)
  | part {street number part : String} (named : query.street? = some street)
      (numbered : query.buildingNumber? = some number) (full : number ≠ "")
      (divided : query.buildingPart? = some part) (alsoFull : part ≠ "") :
      LineOf query (street ++ ", " ++ (number ++ "/" ++ part))

end AddressQuery

theorem nonEmpty_nonEmpty (text : Option String) : nonEmpty (nonEmpty text) = nonEmpty text := by
  simp [nonEmpty, Option.filter_filter]

theorem eq_nonEmpty_iff {text : Option String} : text = nonEmpty text ↔ text ≠ some "" := by
  cases text with
  | none => exact iff_of_true rfl nofun
  | some value => by_cases empty : value = "" <;> simp [nonEmpty, Option.filter, empty]

namespace AddressQuery

theorem building?_withoutEmpty (query : AddressQuery) :
    query.withoutEmpty.building? = query.building?.map Building.withoutEmpty := by
  rw [building?, building?, withoutEmpty]
  cases query.streetAddress <;> rfl

theorem buildingNumber?_withoutEmpty (query : AddressQuery) :
    query.withoutEmpty.buildingNumber? = nonEmpty query.buildingNumber? := by
  rw [buildingNumber?, buildingNumber?, building?_withoutEmpty]
  cases query.building? <;> rfl

theorem buildingPart?_withoutEmpty (query : AddressQuery) :
    query.withoutEmpty.buildingPart? = query.buildingPart? := by
  rw [buildingPart?, buildingPart?, building?_withoutEmpty]
  cases query.building? with
  | none => rfl
  | some building => exact nonEmpty_nonEmpty building.subdivision

theorem sameUpToEmpty_withoutEmpty (query : AddressQuery) :
    query.SameUpToEmpty query.withoutEmpty where
  country := rfl
  freeForm := (nonEmpty_nonEmpty query.freeForm).symm
  streets := by
    rw [withoutEmpty]
    cases query.streetAddress <;> rfl
  number := by rw [buildingNumber?_withoutEmpty, nonEmpty_nonEmpty]
  part := query.buildingPart?_withoutEmpty.symm
  places := rfl
  postalCode := (nonEmpty_nonEmpty query.postalCode).symm

end AddressQuery

/-! ## The outcome apart from the number -/

def ValidatedAddress.unnumbered (address : ValidatedAddress) : ValidatedAddress :=
  { address with buildingNumber := none }

theorem ValidatedAddress.eq_iff_of_unnumbered_eq {address other : ValidatedAddress}
    (apart : address.unnumbered = other.unnumbered) :
    address = other ↔ address.buildingNumber = other.buildingNumber := by
  obtain ⟨street, number, municipality, subdivision, postalCode⟩ := address
  cases other
  cases apart
  simp

theorem ValidatedAddress.eq_of_line_eq {address other : ValidatedAddress}
    (apart : address.unnumbered = other.unnumbered) (line : address.line = other.line) :
    address = other := by
  have street : address.street = other.street := (congrArg ValidatedAddress.street apart :)
  rw [line_eq, line_eq, street] at line
  exact (eq_iff_of_unnumbered_eq apart).mpr (Text.joined_right_injective (by decide) _ line)

namespace AddressQuery

theorem map_unnumbered_completed (query : AddressQuery) (street : String)
    (building : Option Building) :
    (query.completed street building).map ValidatedAddress.unnumbered =
      query.completed street none := by
  rw [completed, completed]
  split
  · rfl
  · cases PlaceChoice.ofPlaces {} query.places with
    | error error => rfl
    | ok choice =>
      simp only [Except.bind]
      cases nonEmpty choice.municipality <;> rfl

theorem map_unnumbered_validate (query : AddressQuery) :
    query.validate.map ValidatedAddress.unnumbered =
      (query.front.map Prod.fst).bind fun street => query.completed street none := by
  rw [validate_eq]
  cases query.front with
  | error error => rfl
  | ok found => exact query.map_unnumbered_completed found.1 found.2

theorem map_fst_singleStreet_congr {first second : AddressQuery}
    (streets : first.streetAddress.map StreetAddress.streets =
      second.streetAddress.map StreetAddress.streets) :
    first.singleStreet.map Prod.fst = second.singleStreet.map Prod.fst := by
  rw [singleStreet, singleStreet]
  generalize first.streetAddress = address at streets ⊢
  generalize second.streetAddress = other at streets ⊢
  rcases address with _ | ⟨names, building⟩ <;> rcases other with _ | ⟨otherNames, otherBuilding⟩
  · rfl
  · cases streets
  · cases streets
  · obtain rfl : names = otherNames := Option.some.inj streets
    rcases names with _ | ⟨name, _ | ⟨next, others⟩⟩
    · rfl
    · dsimp only
      split <;> rfl
    · rfl

namespace SameUpToEmpty

variable {first second : AddressQuery}

theorem map_fst_front (same : first.SameUpToEmpty second) :
    first.front.map Prod.fst = second.front.map Prod.fst := by
  have country : first.inSupportedCountry = second.inSupportedCountry := by
    rw [inSupportedCountry, inSupportedCountry, same.country]
  rw [front, front, country, same.freeForm, same.country]
  split
  · rfl
  · split
    · rfl
    · exact map_fst_singleStreet_congr same.streets

theorem map_unnumbered_validate (same : first.SameUpToEmpty second) :
    first.validate.map ValidatedAddress.unnumbered =
      second.validate.map ValidatedAddress.unnumbered := by
  have completed (street : String) :
      first.completed street none = second.completed street none := by
    rw [AddressQuery.completed, AddressQuery.completed, same.places, same.postalCode]
  rw [AddressQuery.map_unnumbered_validate, AddressQuery.map_unnumbered_validate,
    same.map_fst_front]
  simp only [completed]

theorem validate_eq_iff (same : first.SameUpToEmpty second) :
    first.validate = second.validate ↔
      (∃ error, first.validate = .error error) ∨
        first.buildingNumber? = second.buildingNumber? := by
  have apart := same.map_unnumbered_validate
  cases checked : first.validate <;> cases alsoChecked : second.validate <;>
    rw [checked, alsoChecked] at apart
  case error.error => cases apart; exact iff_of_true rfl (.inl ⟨_, rfl⟩)
  case error.ok | ok.error => cases apart
  case ok.ok address other =>
    have number := (validate_eq_ok_iff.mp checked).buildingNumber_eq
    have otherNumber := (validate_eq_ok_iff.mp alsoChecked).buildingNumber_eq
    rw [← same.part] at otherNumber
    rw [Except.ok.injEq, ValidatedAddress.eq_iff_of_unnumbered_eq (Except.ok.inj apart), number,
      otherNumber, Option.map_inj_right fun _ _ alike => Text.joined_left_injective _ _ alike]
    simp

/-- The number shows in the line, so the questions differ as soon as the addresses do. -/
theorem question_eq_iff (same : first.SameUpToEmpty second) :
    first.question = second.question ↔ first.validate = second.validate := by
  refine ⟨fun asked => ?_, fun checked => by rw [question, question, checked]⟩
  have apart := same.map_unnumbered_validate
  rw [question, question] at asked
  cases checked : first.validate <;> cases alsoChecked : second.validate <;>
    rw [checked, alsoChecked] at apart asked
  case error.error => cases apart; rfl
  case error.ok | ok.error => cases apart
  case ok.ok address other =>
    have line : address.line = other.line :=
      congrArg NormalizationRequest.address (Except.ok.inj asked)
    rw [ValidatedAddress.eq_of_line_eq (Except.ok.inj apart) line]

end SameUpToEmpty

/-! ## The line -/

theorem LineOf.buildingNumber?_ne {query : AddressQuery} {line : String}
    (composed : query.LineOf line) : query.buildingNumber? ≠ some "" := by
  cases composed with
  | street named unnumbered => rw [unnumbered]; exact nofun
  | number named numbered full undivided | part named numbered full divided alsoFull =>
    rw [numbered]
    exact fun empty => full (Option.some.inj empty)

theorem PassesAs.lineOf {query : AddressQuery} {address : ValidatedAddress}
    (passes : query.PassesAs address) (full : query.buildingNumber? ≠ some "") :
    query.LineOf address.line := by
  rw [address.line_eq, passes.buildingNumber_eq]
  cases numbered : query.buildingNumber? with
  | none => exact .street passes.street?_eq numbered
  | some number =>
    have full : number ≠ "" := fun empty => full (by rw [numbered, empty])
    cases divided : query.buildingPart? with
    | none => exact .number passes.street?_eq numbered full divided
    | some part =>
      exact .part passes.street?_eq numbered full divided (nonEmpty_eq_some_iff.mp divided).2

/-- A query may have absent texts in the place of empty ones, and the other way round, without
a change of the outcome, nor of the question, exactly if it is refused either way or the number
of the building stays as it is.  So an accepted query goes without its empty texts exactly if
its number is not one of them, and then every separator of the line that is asked for has a
text on both sides. -/
theorem empty_text_as_absent (query : AddressQuery) :
    (∀ other, query.SameUpToEmpty other →
      (query.question = other.question ↔ query.validate = other.validate) ∧
      (query.validate = other.validate ↔
        (∃ error, query.validate = .error error) ∨
          query.buildingNumber? = other.buildingNumber?)) ∧
    query.SameUpToEmpty query.withoutEmpty ∧
    (query.validate = query.withoutEmpty.validate ↔
      (∃ error, query.validate = .error error) ∨ query.buildingNumber? ≠ some "") ∧
    ∀ request, query.question = .ok request →
      (query.LineOf request.address ↔ query.buildingNumber? ≠ some "") := by
  have same := query.sameUpToEmpty_withoutEmpty
  refine ⟨fun other alike => ⟨alike.question_eq_iff, alike.validate_eq_iff⟩, same, ?_, ?_⟩
  · rw [same.validate_eq_iff, buildingNumber?_withoutEmpty, eq_nonEmpty_iff]
  · intro request asked
    obtain ⟨address, passes, rfl⟩ := question_eq_ok_iff.mp asked
    exact ⟨LineOf.buildingNumber?_ne, passes.lineOf⟩

def queryOf (freeForm number subdivision postalCode : Option String) : AddressQuery where
  countryCode := "IT"
  freeForm
  streetAddress := some ⟨["Via Roma"], some ⟨number, subdivision⟩⟩
  places := [⟨.municipality, "Firenze"⟩]
  postalCode

theorem empty_text_as_absent_numbered :
    let wordy := queryOf (some "") (some "12") (some "") (some "")
    let plain := queryOf none (some "12") none none
    wordy.withoutEmpty = plain ∧ wordy.SameUpToEmpty plain ∧
      wordy.buildingNumber? ≠ some "" ∧ wordy.validate = plain.validate ∧
      wordy.question = plain.question ∧ wordy.LineOf "Via Roma, 12" := by
  intro wordy plain
  have numbered : wordy.buildingNumber? ≠ some "" := by decide
  have asked : ∃ request, wordy.question = .ok request ∧ request.address = "Via Roma, 12" :=
    ⟨⟨adapterAlgorithm, "Via Roma, 12", "Firenze", none, none, adapterDataSource⟩,
      by decide +kernel, rfl⟩
  obtain ⟨exchanged, same, checked, lines⟩ := empty_text_as_absent wordy
  have alike : wordy.validate = plain.validate := checked.mpr (.inr numbered)
  obtain ⟨request, question, line⟩ := asked
  refine ⟨rfl, same, numbered, alike, (exchanged plain same).1.mpr alike, ?_⟩
  rw [← line]
  exact (lines request question).mpr numbered

/-- With an empty number the line ends in a separator, or has no number in front of the slash,
and neither line is asked for once the number is left out. -/
theorem empty_number_not_absent :
    let bare := queryOf none (some "") none none
    let divided := queryOf none (some "") (some "B") none
    let lineOf := fun query : AddressQuery => query.question.map NormalizationRequest.address
    lineOf bare = .ok "Via Roma, " ∧ lineOf bare.withoutEmpty = .ok "Via Roma" ∧
      lineOf divided = .ok "Via Roma, /B" ∧ lineOf divided.withoutEmpty = .ok "Via Roma" ∧
      bare.validate ≠ bare.withoutEmpty.validate := by
  decide +kernel

end AddressQuery

end Geocoding
