import Geocoding.Proofs.Address.Acceptance
import Mathlib.Data.List.Induction

/-!
# What an address is refused for

The country, the free form text and the street are checked first, in this order, and a query
that fails there is refused whatever its places are.  Behind them the places are gone through
once, and the first one that comes after another of its kind with a value is refused together
with that value.  Only a list without such a place can lack a municipality.

A pass over the places remembers no more than the last value of each kind.  That is enough as
long as nothing is repeated, since then only the last one can have a value.
-/

namespace Geocoding

/-! ## The checks in front of the places -/

/-- What is wrong with a street address. -/
inductive StreetFault : Option StreetAddress → Invalidation → Prop
  | absent : StreetFault none .missingStreetAddress
  | noStreet {building : Option Building} : StreetFault (some ⟨[], building⟩) .missingStreets
  | several {first second : String} {others : List String} {building : Option Building} :
      StreetFault (some ⟨first :: second :: others, building⟩) .multiStreetUnsupported
  | unnamed {building : Option Building} : StreetFault (some ⟨[""], building⟩) .missingStreetName

namespace AddressQuery

/-- What is wrong with a query in front of its places.  Each check is made only if those
above it let the query pass. -/
inductive FrontFault (query : AddressQuery) : Invalidation → Prop
  | country (foreign : query.inSupportedCountry = false) :
      FrontFault query (.unsupportedCountry query.countryCode)
  | freeForm (supported : query.inSupportedCountry = true)
      (given : nonEmpty query.freeForm ≠ none) : FrontFault query .freeFormUnsupported
  | street {error : Invalidation} (supported : query.inSupportedCountry = true)
      (noFreeForm : nonEmpty query.freeForm = none)
      (fault : StreetFault query.streetAddress error) : FrontFault query error

/-- A query of which the places are looked at. -/
structure ReachesPlaces (query : AddressQuery) : Prop where
  country : query.inSupportedCountry = true
  freeForm : nonEmpty query.freeForm = none
  street : ∃ name building, query.streetAddress = some ⟨[name], building⟩ ∧ name ≠ ""

def front (query : AddressQuery) : Except Invalidation (String × Option Building) :=
  if query.inSupportedCountry = false then .error (.unsupportedCountry query.countryCode)
  else if nonEmpty query.freeForm ≠ none then .error .freeFormUnsupported
  else query.singleStreet

def completed (query : AddressQuery) (street : String) (building : Option Building) :
    Except Invalidation ValidatedAddress :=
  if query.places = [] then .error .missingPlaces
  else (PlaceChoice.ofPlaces {} query.places).bind fun choice =>
    match nonEmpty choice.municipality with
    | none => .error .missingMunicipality
    | some municipality => .ok {
        street
        buildingNumber := building.bind Building.label?
        municipality
        subdivision := nonEmpty choice.subdivision
        postalCode := nonEmpty query.postalCode }

theorem validate_eq (query : AddressQuery) :
    query.validate = query.front.bind fun found => query.completed found.1 found.2 := by
  rw [validate, front]
  cases query.inSupportedCountry with
  | false => rfl
  | true =>
    cases nonEmpty query.freeForm with
    | some text => rfl
    | none =>
      simp only [bind, Except.bind, completed]
      cases query.singleStreet with
      | error error => rfl
      | ok found =>
        cases query.places with
        | nil => rfl
        | cons place rest =>
          cases PlaceChoice.ofPlaces {} (place :: rest) with
          | error error => rfl
          | ok choice =>
            simp only
            cases nonEmpty choice.municipality <;> rfl

theorem streetFault_iff {query : AddressQuery} {error : Invalidation} :
    query.singleStreet = .error error ↔ StreetFault query.streetAddress error := by
  rw [singleStreet]
  constructor
  · intro refused
    split at refused
    · next absent => cases refused; rw [absent]; exact .absent
    next address found =>
    obtain ⟨streets, building⟩ := address
    rw [found]
    split at refused
    · next none => cases refused; cases none; exact .noStreet
    · next name only =>
      cases only
      split at refused
      · next unnamed => cases refused; rw [unnamed]; exact .unnamed
      · cases refused
    · next several => cases refused; cases several; exact .several
  · intro fault
    generalize query.streetAddress = address at fault
    cases fault <;> rfl

theorem front_eq_error_iff {query : AddressQuery} {error : Invalidation} :
    query.front = .error error ↔ query.FrontFault error := by
  rw [front]
  constructor
  · intro refused
    split at refused
    · next foreign => cases refused; exact .country foreign
    next supported =>
    rw [Bool.not_eq_false] at supported
    split at refused
    · next given => cases refused; exact .freeForm supported given
    next noFreeForm =>
    exact .street supported (not_not.mp noFreeForm) (streetFault_iff.mp refused)
  · intro fault
    cases fault with
    | country foreign => rw [if_pos foreign]
    | freeForm supported given => rw [if_neg (by simp [supported]), if_pos given]
    | street supported noFreeForm fault =>
      rw [if_neg (by simp [supported]), if_neg (not_not.mpr noFreeForm)]
      exact streetFault_iff.mpr fault

theorem front_eq_ok_iff {query : AddressQuery} {street : String} {building : Option Building} :
    query.front = .ok (street, building) ↔
      query.inSupportedCountry = true ∧ nonEmpty query.freeForm = none ∧
        query.streetAddress = some ⟨[street], building⟩ ∧ street ≠ "" := by
  rw [front, ← singleStreet_eq_ok_iff]
  cases query.inSupportedCountry <;> cases nonEmpty query.freeForm <;> simp

theorem reachesPlaces_iff {query : AddressQuery} :
    query.ReachesPlaces ↔ ∃ street building, query.front = .ok (street, building) := by
  simp only [front_eq_ok_iff]
  constructor
  · rintro ⟨country, freeForm, street, building, found, named⟩
    exact ⟨street, building, country, freeForm, found, named⟩
  · rintro ⟨street, building, country, freeForm, found, named⟩
    exact ⟨country, freeForm, street, building, found, named⟩

end AddressQuery

/-! ## The first place that repeats another -/

def PlaceKind.duplicate? : PlaceKind → Option (String → String → Invalidation)
  | municipality => some .duplicateMunicipality
  | countrySecondarySubdivision => some .duplicateSubdivision
  | countrySubdivision | municipalitySubdivision => none

theorem PlaceKind.duplicate_ne_missingPlaces {kind : PlaceKind}
    {duplicate : String → String → Invalidation} (limited : kind.duplicate? = some duplicate)
    (old new : String) : duplicate old new ≠ .missingPlaces := by
  cases kind <;> cases limited <;> nofun

def PlaceKind.isLimited (kind : PlaceKind) : Bool :=
  kind.duplicate?.isSome

/-- The place may not come after these, since one of its kind has a value. -/
def Repeats (before : List Place) (place : Place) : Prop :=
  place.kind.isLimited = true ∧ ∃ value ∈ valuesOf place.kind before, value ≠ ""

def Unrepeated (places : List Place) : Prop :=
  ∀ before place, before ++ [place] <+: places → ¬ Repeats before place

/-- The first place of a list that repeats another, and the one value of its kind that stands
in front of it. -/
def EarliestRepeat (places : List Place) (place : Place) (old : String) : Prop :=
  ∃ before after, places = before ++ place :: after ∧ Unrepeated before ∧
    Repeats before place ∧ (valuesOf place.kind before).filter (· ≠ "") = [old]

theorem valuesOf_append (kind : PlaceKind) (places others : List Place) :
    valuesOf kind (places ++ others) = valuesOf kind places ++ valuesOf kind others := by
  rw [valuesOf, List.filter_append, List.map_append, valuesOf, valuesOf]

theorem unrepeated_append_singleton {places : List Place} {place : Place} :
    Unrepeated (places ++ [place]) ↔ Unrepeated places ∧ ¬ Repeats places place := by
  simp only [Unrepeated, List.prefix_concat_iff]
  constructor
  · intro unrepeated
    exact ⟨fun before other begins => unrepeated before other (.inr begins),
      unrepeated places place (.inl rfl)⟩
  · rintro ⟨unrepeated, fresh⟩ before other (whole | begins)
    · obtain ⟨rfl, same⟩ := List.append_inj' whole rfl
      cases same
      exact fresh
    · exact unrepeated before other begins

theorem exists_earliest {places : List Place} (repeated : ¬ Unrepeated places) :
    ∃ before place after, places = before ++ place :: after ∧ Unrepeated before ∧
      Repeats before place := by
  induction places using List.reverseRecOn with
  | nil => exact absurd (by simp [Unrepeated]) repeated
  | append_singleton places place ih =>
    by_cases unrepeated : Unrepeated places
    · refine ⟨places, place, [], rfl, unrepeated, ?_⟩
      by_contra fresh
      exact repeated (unrepeated_append_singleton.mpr ⟨unrepeated, fresh⟩)
    · obtain ⟨before, other, after, rfl, earliest⟩ := ih unrepeated
      exact ⟨before, other, after ++ [place], by simp, earliest⟩

theorem onlyLast_valuesOf_append_singleton {kind : PlaceKind} {places : List Place}
    {place : Place} :
    OnlyLast (valuesOf kind (places ++ [place])) ↔
      OnlyLast (valuesOf kind places) ∧
        (place.kind = kind → ∀ value ∈ valuesOf kind places, value = "") := by
  rw [valuesOf_append]
  by_cases same : place.kind = kind
  · rw [valuesOf_cons_of_eq same]
    change OnlyLast (_ ++ [place.value]) ↔ _
    rw [onlyLast_append_singleton]
    constructor
    · intro empty
      exact ⟨fun value mem => empty value (List.dropLast_subset _ mem), fun _ => empty⟩
    · exact fun only => only.2 same
  · rw [valuesOf_cons_of_ne same]
    change OnlyLast (_ ++ []) ↔ _
    rw [List.append_nil]
    simp [same]

theorem unrepeated_iff {places : List Place} :
    Unrepeated places ↔ ∀ kind : PlaceKind, kind.isLimited = true →
      OnlyLast (valuesOf kind places) := by
  induction places using List.reverseRecOn with
  | nil => simp [Unrepeated, valuesOf, OnlyLast]
  | append_singleton places place ih =>
    rw [unrepeated_append_singleton, ih]
    simp only [onlyLast_valuesOf_append_singleton]
    constructor
    · rintro ⟨only, fresh⟩ kind limited
      refine ⟨only kind limited, ?_⟩
      rintro rfl value mem
      by_contra full
      exact fresh ⟨limited, value, mem, full⟩
    · intro only
      refine ⟨fun kind limited => (only kind limited).1, ?_⟩
      rintro ⟨limited, value, mem, full⟩
      exact full ((only place.kind limited).2 rfl value mem)

theorem OnlyLast.filter_eq {values : List String} (only : OnlyLast values) :
    values.filter (· ≠ "") = (nonEmpty values.getLast?).toList := by
  cases values using List.reverseRecOn with
  | nil => rfl
  | append_singleton earlier last =>
    rw [onlyLast_append_singleton] at only
    have none : earlier.filter (· ≠ "") = [] := by
      simpa using only
    rw [List.filter_append, none, List.getLast?_concat, List.nil_append, nonEmpty]
    by_cases empty : last = "" <;> simp [empty, Option.filter]

theorem OnlyLast.nonEmpty_getLast?_eq_none_iff {values : List String} (only : OnlyLast values) :
    nonEmpty values.getLast? = none ↔ ∀ value ∈ values, value = "" := by
  rw [← Option.toList_eq_nil_iff, ← only.filter_eq]
  simp

namespace PlaceChoice

def slot (choice : PlaceChoice) : PlaceKind → Option String
  | .municipality => choice.municipality
  | .countrySecondarySubdivision => choice.subdivision
  | .countrySubdivision | .municipalitySubdivision => none

def lastValues (places : List Place) : PlaceChoice :=
  ⟨(valuesOf .municipality places).getLast?,
    (valuesOf .countrySecondarySubdivision places).getLast?⟩

theorem slot_lastValues {kind : PlaceKind} (places : List Place)
    (limited : kind.isLimited = true) :
    (lastValues places).slot kind = (valuesOf kind places).getLast? := by
  cases kind with
  | municipality | countrySecondarySubdivision => rfl
  | countrySubdivision | municipalitySubdivision => cases limited

theorem add_eq_error {choice : PlaceChoice} {place : Place}
    {duplicate : String → String → Invalidation} {old : String}
    (limited : place.kind.duplicate? = some duplicate)
    (filled : nonEmpty (choice.slot place.kind) = some old) :
    choice.add place = .error (duplicate old place.value) := by
  rw [add]
  cases kind : place.kind with
  | municipality | countrySecondarySubdivision =>
    rw [kind] at limited filled
    cases limited
    simp only [slot] at filled
    simp only [fill, filled]
    rfl
  | countrySubdivision | municipalitySubdivision => rw [kind] at limited; cases limited

theorem add_of_unlimited {choice : PlaceChoice} {place : Place}
    (unlimited : ¬ place.kind.isLimited = true) : choice.add place = .ok choice := by
  rw [add]
  cases kind : place.kind with
  | municipality | countrySecondarySubdivision =>
    rw [kind] at unlimited
    exact absurd rfl unlimited
  | countrySubdivision | municipalitySubdivision => rfl

theorem ofPlaces_append (choice : PlaceChoice) (places others : List Place) :
    choice.ofPlaces (places ++ others) =
      (choice.ofPlaces places).bind fun next => next.ofPlaces others := by
  induction places generalizing choice with
  | nil => rfl
  | cons place rest ih =>
    rw [List.cons_append, ofPlaces, ofPlaces]
    cases choice.add place with
    | error error => rfl
    | ok next => exact ih next

theorem ofPlaces_of_unrepeated {places : List Place} (unrepeated : Unrepeated places) :
    ofPlaces {} places = .ok (lastValues places) := by
  have only := unrepeated_iff.mp unrepeated
  exact ofPlaces_eq_ok_iff.mpr ⟨fills_none_iff.mpr ⟨only .municipality rfl, rfl⟩,
    fills_none_iff.mpr ⟨only .countrySecondarySubdivision rfl, rfl⟩⟩

theorem ofPlaces_of_repeated {places : List Place} (repeated : ¬ Unrepeated places) :
    ∃ place old duplicate, EarliestRepeat places place old ∧
      place.kind.duplicate? = some duplicate ∧
      ofPlaces {} places = .error (duplicate old place.value) := by
  obtain ⟨before, place, after, rfl, unrepeated, repeats⟩ := exists_earliest repeated
  obtain ⟨duplicate, limited⟩ := Option.isSome_iff_exists.mp repeats.1
  have only := unrepeated_iff.mp unrepeated place.kind repeats.1
  obtain ⟨old, filled⟩ : ∃ old, nonEmpty (valuesOf place.kind before).getLast? = some old := by
    rw [← Option.ne_none_iff_exists', ne_eq, only.nonEmpty_getLast?_eq_none_iff]
    obtain ⟨value, mem, full⟩ := repeats.2
    exact fun empty => full (empty value mem)
  refine ⟨place, old, duplicate, ⟨before, after, rfl, unrepeated, repeats, ?_⟩, limited, ?_⟩
  · rw [only.filter_eq, filled]
    rfl
  · have refused : (lastValues before).add place = .error (duplicate old place.value) := by
      apply add_eq_error limited
      rw [slot_lastValues before repeats.1, filled]
    rw [ofPlaces_append, ofPlaces_of_unrepeated unrepeated]
    simp only [Except.bind, ofPlaces, refused]
    rfl

theorem ofPlaces_filter (choice : PlaceChoice) (places : List Place) :
    choice.ofPlaces (places.filter fun place => place.kind.isLimited) =
      choice.ofPlaces places := by
  induction places generalizing choice with
  | nil => rfl
  | cons place rest ih =>
    rw [List.filter_cons]
    split
    · rw [ofPlaces, ofPlaces]
      simp only [ih]
    · next unlimited =>
      rw [ih, ofPlaces, add_of_unlimited unlimited]
      rfl

end PlaceChoice

/-! ## The error of a query -/

def Invalidation.isOfPlaces : Invalidation → Bool
  | missingPlaces | duplicateMunicipality .. | duplicateSubdivision .. | missingMunicipality => true
  | unsupportedCountry _ | freeFormUnsupported | missingStreetAddress | missingStreets
  | multiStreetUnsupported | missingStreetName => false

theorem StreetFault.isOfPlaces_eq_false {address : Option StreetAddress} {error : Invalidation}
    (fault : StreetFault address error) : error.isOfPlaces = false := by
  cases fault <;> rfl

namespace AddressQuery

variable {query : AddressQuery}

theorem FrontFault.isOfPlaces_eq_false {error : Invalidation} (fault : query.FrontFault error) :
    error.isOfPlaces = false := by
  cases fault with
  | country | freeForm => rfl
  | street supported noFreeForm fault => exact fault.isOfPlaces_eq_false

theorem FrontFault.validate_withPlaces {error : Invalidation} (fault : query.FrontFault error)
    (places : List Place) : { query with places }.validate = .error error := by
  have refused : { query with places }.front = query.front := rfl
  rw [validate_eq, refused, front_eq_error_iff.mpr fault]
  rfl

theorem exists_frontFault_or_reachesPlaces (query : AddressQuery) :
    (∃ error, query.FrontFault error) ∨ query.ReachesPlaces := by
  rw [reachesPlaces_iff]
  cases checked : query.front with
  | error error => exact .inl ⟨error, front_eq_error_iff.mp checked⟩
  | ok found => exact .inr ⟨found.1, found.2, rfl⟩

theorem reachesPlaces_of_isOfPlaces {error : Invalidation}
    (refused : query.validate = .error error) (ofPlaces : error.isOfPlaces = true) :
    query.ReachesPlaces := by
  rcases query.exists_frontFault_or_reachesPlaces with ⟨other, fault⟩ | reaches
  · have same := (fault.validate_withPlaces query.places).symm.trans refused
    rw [← Except.error.inj same, fault.isOfPlaces_eq_false] at ofPlaces
    cases ofPlaces
  · exact reaches

namespace ReachesPlaces

theorem exists_validate_eq (reaches : query.ReachesPlaces) :
    ∃ street building, query.validate = query.completed street building := by
  obtain ⟨street, building, found⟩ := reachesPlaces_iff.mp reaches
  refine ⟨street, building, ?_⟩
  rw [validate_eq, found]
  rfl

theorem validate_of_repeated (reaches : query.ReachesPlaces)
    (repeated : ¬ Unrepeated query.places) :
    ∃ place old duplicate, EarliestRepeat query.places place old ∧
      place.kind.duplicate? = some duplicate ∧
      query.validate = .error (duplicate old place.value) := by
  obtain ⟨street, building, checked⟩ := reaches.exists_validate_eq
  obtain ⟨place, old, duplicate, earliest, limited, refused⟩ :=
    PlaceChoice.ofPlaces_of_repeated repeated
  refine ⟨place, old, duplicate, earliest, limited, ?_⟩
  have listed : query.places ≠ [] := by
    obtain ⟨before, after, split, -⟩ := earliest
    simp [split]
  rw [checked, completed, if_neg listed, refused]
  rfl

theorem validate_of_unrepeated (reaches : query.ReachesPlaces) (listed : query.places ≠ [])
    (unrepeated : Unrepeated query.places) :
    query.validate = .error .missingMunicipality ∧
        (∀ value ∈ valuesOf .municipality query.places, value = "") ∨
      (∃ address, query.validate = .ok address) ∧
        ∃ value ∈ valuesOf .municipality query.places, value ≠ "" := by
  obtain ⟨street, building, checked⟩ := reaches.exists_validate_eq
  have only := unrepeated_iff.mp unrepeated .municipality rfl
  rw [checked, completed, if_neg listed, PlaceChoice.ofPlaces_of_unrepeated unrepeated]
  simp only [Except.bind, PlaceChoice.lastValues]
  cases named : nonEmpty (valuesOf .municipality query.places).getLast? with
  | none => exact .inl ⟨rfl, only.nonEmpty_getLast?_eq_none_iff.mp named⟩
  | some municipality =>
    obtain ⟨last, full⟩ := nonEmpty_eq_some_iff.mp named
    exact .inr ⟨⟨_, rfl⟩, municipality, List.mem_of_getLast? last, full⟩

end ReachesPlaces

theorem validate_eq_missingPlaces_iff :
    query.validate = .error .missingPlaces ↔ query.ReachesPlaces ∧ query.places = [] := by
  constructor
  · intro refused
    have reaches := reachesPlaces_of_isOfPlaces refused rfl
    refine ⟨reaches, ?_⟩
    by_contra listed
    by_cases unrepeated : Unrepeated query.places
    · rcases reaches.validate_of_unrepeated listed unrepeated with ⟨other, -⟩ | ⟨⟨_, other⟩, -⟩
      · cases refused.symm.trans other
      · cases refused.symm.trans other
    · obtain ⟨place, old, duplicate, -, limited, other⟩ := reaches.validate_of_repeated unrepeated
      have same := Except.error.inj (refused.symm.trans other)
      exact PlaceKind.duplicate_ne_missingPlaces limited old place.value same.symm
  · rintro ⟨reaches, none⟩
    obtain ⟨street, building, checked⟩ := reaches.exists_validate_eq
    rw [checked, completed, if_pos none]

theorem validate_withPlaces {places : List Place} (listed : query.places ≠ [])
    (alsoListed : places ≠ [])
    (same : places.filter (fun place => place.kind.isLimited) =
      query.places.filter fun place => place.kind.isLimited) :
    { query with places }.validate = query.validate := by
  have front : { query with places }.front = query.front := rfl
  have chosen : PlaceChoice.ofPlaces {} places = PlaceChoice.ofPlaces {} query.places := by
    rw [← PlaceChoice.ofPlaces_filter, same, PlaceChoice.ofPlaces_filter]
  have completed (street : String) (building : Option Building) :
      { query with places }.completed street building = query.completed street building := by
    rw [AddressQuery.completed, AddressQuery.completed, if_neg listed, if_neg alsoListed, chosen]
  rw [validate_eq, validate_eq query, front]
  simp only [completed]

/-- A query is refused for the first of the checks in front of its places that it fails,
whatever its places are, and otherwise for these: for having none, for the first one that
repeats another, or for the lack of a municipality.  Places of which any number may be named
have no part in that. -/
theorem validate_refusal (query : AddressQuery) :
    ((∃ error, query.FrontFault error ∧
        ∀ places, { query with places }.validate = .error error) ∨ query.ReachesPlaces) ∧
    (∀ error, query.validate = .error error → error.isOfPlaces = true → query.ReachesPlaces) ∧
    (query.validate = .error .missingPlaces ↔ query.ReachesPlaces ∧ query.places = []) ∧
    (query.ReachesPlaces → query.places ≠ [] →
      (¬ Unrepeated query.places → ∃ place old duplicate,
        EarliestRepeat query.places place old ∧ place.kind.duplicate? = some duplicate ∧
          query.validate = .error (duplicate old place.value)) ∧
      (Unrepeated query.places →
        (query.validate = .error .missingMunicipality ↔
          ∀ value ∈ valuesOf .municipality query.places, value = "") ∧
        ∀ error, query.validate = .error error → error = .missingMunicipality)) ∧
    ∀ places, query.places ≠ [] → places ≠ [] →
      places.filter (fun place => place.kind.isLimited) =
        query.places.filter (fun place => place.kind.isLimited) →
      { query with places }.validate = query.validate := by
  refine ⟨?_, fun _ => reachesPlaces_of_isOfPlaces, validate_eq_missingPlaces_iff, ?_,
    fun _ listed alsoListed same => validate_withPlaces listed alsoListed same⟩
  · apply query.exists_frontFault_or_reachesPlaces.imp_left
    rintro ⟨error, fault⟩
    exact ⟨error, fault, fault.validate_withPlaces⟩
  · intro reaches listed
    refine ⟨reaches.validate_of_repeated, ?_⟩
    intro unrepeated
    rcases reaches.validate_of_unrepeated listed unrepeated with
      ⟨refused, empty⟩ | ⟨⟨address, accepted⟩, value, mem, full⟩
    · exact ⟨iff_of_true refused empty,
        fun error other => Except.error.inj (other.symm.trans refused)⟩
    · rw [accepted]
      exact ⟨iff_of_false nofun fun empty => full (empty value mem), nofun⟩

/-- A province without a value that comes after another one is refused, although a second
municipality follows. -/
theorem validate_refusal_secondProvince :
    let query (places : List Place) : AddressQuery := {
      countryCode := "IT"
      streetAddress := some ⟨["Via Roma"], none⟩
      places }
    let twice : List Place := [⟨.municipality, ""⟩, ⟨.countrySecondarySubdivision, "FI"⟩,
      ⟨.municipality, "Firenze"⟩, ⟨.countrySecondarySubdivision, ""⟩, ⟨.municipality, "Prato"⟩]
    let unnamed : List Place := [⟨.countrySecondarySubdivision, "FI"⟩, ⟨.municipality, ""⟩]
    (query twice).ReachesPlaces ∧ ¬ Unrepeated twice ∧
      (∃ place old duplicate, EarliestRepeat twice place old ∧
        place.kind.duplicate? = some duplicate ∧
        (query twice).validate = .error (duplicate old place.value)) ∧
      (query twice).validate = .error (.duplicateSubdivision "FI" "") ∧
      (query (⟨.countrySubdivision, "Toscana"⟩ :: twice)).validate = (query twice).validate ∧
      Unrepeated unnamed ∧ (query unnamed).validate = .error .missingMunicipality := by
  intro query twice unnamed
  have listed : twice ≠ [] := List.cons_ne_nil _ _
  have alsoListed : unnamed ≠ [] := List.cons_ne_nil _ _
  have refused : (query twice).validate = .error (.duplicateSubdivision "FI" "") := by
    decide +kernel
  obtain ⟨-, inFront, -, places, inserted⟩ := validate_refusal (query twice)
  obtain ⟨-, -, -, alsoPlaces, -⟩ := validate_refusal (query unnamed)
  have reaches : (query twice).ReachesPlaces := inFront _ refused rfl
  have alsoReaches : (query unnamed).ReachesPlaces := ⟨reaches.country, rfl, reaches.street⟩
  have repeated : ¬ Unrepeated twice := by
    intro unrepeated
    have only := unrepeated_iff.mp unrepeated .countrySecondarySubdivision rfl
    simp [twice, valuesOf, OnlyLast] at only
  have unrepeated : Unrepeated unnamed := by
    rw [unrepeated_iff]
    rintro (_ | _ | _ | _) - <;> simp [unnamed, valuesOf, OnlyLast]
  refine ⟨reaches, repeated, (places reaches listed).1 repeated, refused,
    inserted _ listed (List.cons_ne_nil _ _) rfl, unrepeated, ?_⟩
  exact ((alsoPlaces alsoReaches alsoListed).2 unrepeated).1.mpr
    (by simp [query, unnamed, valuesOf])

end AddressQuery

end Geocoding
