import Geocoding.Address.Validation
import Mathlib.Data.List.Induction

/-!
# Which addresses pass their checks

An address is taken from its places in one pass over their list, in which a place may be
replaced by a later one of its kind as long as it is empty.  So a kind of place is settled
by the values of that kind alone: all but the last have to be empty, and the last counts.

Together with the country, the free form text and the street that is the whole condition for
a query to pass, told part by part in `validate_acceptance`.
-/

namespace Geocoding

def valuesOf (kind : PlaceKind) (places : List Place) : List String :=
  (places.filter fun place => place.kind = kind).map Place.value

/-- No value but the last says anything. -/
def OnlyLast (values : List String) : Prop :=
  ∀ value ∈ values.dropLast, value = ""

/-- A slot with these contents comes to hold the result if the values are put into it in
order, each in the place of nothing or of an empty text. -/
def Fills (slot : Option String) : List String → Option String → Prop
  | [], result => result = slot
  | value :: rest, result => nonEmpty slot = none ∧ Fills (some value) rest result

theorem nonEmpty_some_eq_none_iff {text : String} : nonEmpty (some text) = none ↔ text = "" := by
  simp [nonEmpty, Option.filter]

theorem nonEmpty_eq_some_iff {text : Option String} {value : String} :
    nonEmpty text = some value ↔ text = some value ∧ value ≠ "" := by
  simp [nonEmpty, Option.filter_eq_some_iff]

theorem nonEmpty_eq_none_iff {text : Option String} :
    nonEmpty text = none ↔ text = none ∨ text = some "" := by
  cases text with
  | none => exact iff_of_true rfl (.inl rfl)
  | some value => simp [nonEmpty_some_eq_none_iff]

theorem valuesOf_cons_of_eq {kind : PlaceKind} {place : Place} (same : place.kind = kind)
    (places : List Place) :
    valuesOf kind (place :: places) = place.value :: valuesOf kind places := by
  simp [valuesOf, same]

theorem valuesOf_cons_of_ne {kind : PlaceKind} {place : Place} (other : place.kind ≠ kind)
    (places : List Place) : valuesOf kind (place :: places) = valuesOf kind places := by
  simp [valuesOf, other]

theorem onlyLast_cons_cons {value next : String} {rest : List String} :
    OnlyLast (value :: next :: rest) ↔ value = "" ∧ OnlyLast (next :: rest) := by
  rw [OnlyLast, List.dropLast_cons_cons, List.forall_mem_cons]
  rfl

theorem onlyLast_append_singleton {earlier : List String} {last : String} :
    OnlyLast (earlier ++ [last]) ↔ ∀ value ∈ earlier, value = "" := by
  rw [OnlyLast, List.dropLast_concat]

theorem fills_cons_iff {slot result : Option String} {value : String} {rest : List String} :
    Fills slot (value :: rest) result ↔
      nonEmpty slot = none ∧ OnlyLast (value :: rest) ∧ result = (value :: rest).getLast? := by
  rw [Fills]
  apply and_congr_right
  intro _
  induction rest generalizing value with
  | nil => simp [Fills, OnlyLast]
  | cons next rest ih =>
    rw [Fills, ih, nonEmpty_some_eq_none_iff, onlyLast_cons_cons, List.getLast?_cons_cons,
      and_assoc]

theorem fills_none_iff {values : List String} {result : Option String} :
    Fills none values result ↔ OnlyLast values ∧ result = values.getLast? := by
  cases values with
  | nil => simp [Fills, OnlyLast]
  | cons value rest =>
    rw [fills_cons_iff]
    exact and_iff_right rfl

namespace PlaceChoice

theorem add_eq_ok_iff {choice next : PlaceChoice} {place : Place} :
    choice.add place = .ok next ↔
      match place.kind with
      | .municipality => nonEmpty choice.municipality = none ∧
          next = { choice with municipality := some place.value }
      | .countrySecondarySubdivision => nonEmpty choice.subdivision = none ∧
          next = { choice with subdivision := some place.value }
      | .countrySubdivision | .municipalitySubdivision => next = choice := by
  rw [add]
  cases place.kind with
  | municipality =>
    cases slot : nonEmpty choice.municipality <;>
      simp [fill, slot, bind, Except.bind, pure, Except.pure, eq_comm]
  | countrySecondarySubdivision =>
    cases slot : nonEmpty choice.subdivision <;>
      simp [fill, slot, bind, Except.bind, pure, Except.pure, eq_comm]
  | countrySubdivision | municipalitySubdivision => simp [eq_comm]

theorem ofPlaces_cons_eq_ok_iff {choice last : PlaceChoice} {place : Place} {rest : List Place} :
    choice.ofPlaces (place :: rest) = .ok last ↔
      ∃ next, choice.add place = .ok next ∧ next.ofPlaces rest = .ok last := by
  rw [ofPlaces]
  cases choice.add place <;> simp [bind, Except.bind]

theorem ofPlaces_eq_ok_iff {choice last : PlaceChoice} {places : List Place} :
    choice.ofPlaces places = .ok last ↔
      Fills choice.municipality (valuesOf .municipality places) last.municipality ∧
        Fills choice.subdivision (valuesOf .countrySecondarySubdivision places)
          last.subdivision := by
  induction places generalizing choice with
  | nil =>
    obtain ⟨municipality, subdivision⟩ := choice
    obtain ⟨lastMunicipality, lastSubdivision⟩ := last
    simp [ofPlaces, valuesOf, Fills, eq_comm]
  | cons place rest ih =>
    rw [ofPlaces_cons_eq_ok_iff]
    simp only [add_eq_ok_iff, ih]
    cases kind : place.kind with
    | municipality =>
      rw [valuesOf_cons_of_eq kind, valuesOf_cons_of_ne (by simp [kind])]
      constructor
      · rintro ⟨_, ⟨free, rfl⟩, filled, others⟩
        exact ⟨⟨free, filled⟩, others⟩
      · rintro ⟨⟨free, filled⟩, others⟩
        exact ⟨_, ⟨free, rfl⟩, filled, others⟩
    | countrySecondarySubdivision =>
      rw [valuesOf_cons_of_ne (by simp [kind]), valuesOf_cons_of_eq kind]
      constructor
      · rintro ⟨_, ⟨free, rfl⟩, others, filled⟩
        exact ⟨others, free, filled⟩
      · rintro ⟨others, free, filled⟩
        exact ⟨_, ⟨free, rfl⟩, others, filled⟩
    | countrySubdivision | municipalitySubdivision =>
      rw [valuesOf_cons_of_ne (by simp [kind]), valuesOf_cons_of_ne (by simp [kind])]
      simp

end PlaceChoice

namespace AddressQuery

theorem singleStreet_eq_ok_iff {query : AddressQuery} {street : String}
    {building : Option Building} :
    query.singleStreet = .ok (street, building) ↔
      query.streetAddress = some ⟨[street], building⟩ ∧ street ≠ "" := by
  rw [singleStreet]
  rcases query.streetAddress with _ | ⟨_ | ⟨only, _ | ⟨second, others⟩⟩, found⟩
  · simp
  · simp
  · by_cases unnamed : only = ""
    · dsimp only
      rw [if_pos unnamed]
      refine iff_of_false nofun ?_
      rintro ⟨⟨⟩, named⟩
      exact named unnamed
    · dsimp only
      rw [if_neg unnamed]
      constructor
      · rintro ⟨⟩
        exact ⟨rfl, unnamed⟩
      · rintro ⟨⟨⟩, _⟩
        rfl
  · simp

/-- What a query that passes its checks is like, and the address it comes to. -/
structure PassesAs (query : AddressQuery) (address : ValidatedAddress) : Prop where
  country : query.inSupportedCountry = true
  freeForm : nonEmpty query.freeForm = none
  street : ∃ building, query.streetAddress = some ⟨[address.street], building⟩ ∧
    address.buildingNumber = building.bind Building.label?
  named : address.street ≠ ""
  municipalities : OnlyLast (valuesOf .municipality query.places)
  municipality : nonEmpty (valuesOf .municipality query.places).getLast? =
    some address.municipality
  provinces : OnlyLast (valuesOf .countrySecondarySubdivision query.places)
  subdivision : nonEmpty (valuesOf .countrySecondarySubdivision query.places).getLast? =
    address.subdivision
  postalCode : nonEmpty query.postalCode = address.postalCode

theorem PassesAs.places_ne_nil {query : AddressQuery} {address : ValidatedAddress}
    (passes : query.PassesAs address) : query.places ≠ [] := by
  intro empty
  have municipality := passes.municipality
  rw [empty] at municipality
  cases municipality

theorem validate_eq_ok_iff {query : AddressQuery} {address : ValidatedAddress} :
    query.validate = .ok address ↔ query.PassesAs address := by
  rw [validate]
  simp only [bind, Except.bind, pure, Except.pure, throw, throwThe, MonadExceptOf.throw]
  constructor
  · intro accepted
    split at accepted
    · cases accepted
    split at accepted
    · cases accepted
    next supported noFreeForm =>
    split at accepted
    · cases accepted
    next single singleStreet =>
    split at accepted
    · cases accepted
    split at accepted
    · cases accepted
    next choice chosen =>
    split at accepted
    · next municipality named =>
      cases accepted
      obtain ⟨street, found⟩ := singleStreet_eq_ok_iff.mp singleStreet
      obtain ⟨municipalities, provinces⟩ := PlaceChoice.ofPlaces_eq_ok_iff.mp chosen
      obtain ⟨onlyMunicipality, lastMunicipality⟩ := fills_none_iff.mp municipalities
      obtain ⟨onlyProvince, lastProvince⟩ := fills_none_iff.mp provinces
      exact {
        country := by simpa using supported
        freeForm := by simpa using noFreeForm
        street := ⟨_, street, rfl⟩
        named := found
        municipalities := onlyMunicipality
        municipality := by rw [← lastMunicipality, named]
        provinces := onlyProvince
        subdivision := by rw [← lastProvince]
        postalCode := rfl }
    · cases accepted
  · intro passes
    obtain ⟨building, street, number⟩ := passes.street
    have single : query.singleStreet = .ok (address.street, building) :=
      singleStreet_eq_ok_iff.mpr ⟨street, passes.named⟩
    have chosen : PlaceChoice.ofPlaces {} query.places =
        .ok ⟨(valuesOf .municipality query.places).getLast?,
          (valuesOf .countrySecondarySubdivision query.places).getLast?⟩ :=
      PlaceChoice.ofPlaces_eq_ok_iff.mpr ⟨fills_none_iff.mpr ⟨passes.municipalities, rfl⟩,
        fills_none_iff.mpr ⟨passes.provinces, rfl⟩⟩
    simp [passes.country, passes.freeForm, single, passes.places_ne_nil, chosen,
      passes.municipality, passes.subdivision, passes.postalCode, ← number]

/-! ## The exact condition -/

theorem toNat_toLower (letter : Char) :
    letter.toLower.toNat =
      if 65 ≤ letter.toNat ∧ letter.toNat ≤ 90 then letter.toNat + 32 else letter.toNat := by
  have bounds : letter.val ≥ 'A'.val ∧ letter.val ≤ 'Z'.val ↔
      65 ≤ letter.toNat ∧ letter.toNat ≤ 90 := by
    simp [UInt32.le_iff_toNat_le]
  delta Char.toLower
  by_cases large : 65 ≤ letter.toNat ∧ letter.toNat ≤ 90
  · rw [dif_pos (bounds.mpr large), if_pos large, Char.toNat, UInt32.toNat_add, Char.toNat_val]
    have offset : ('a'.val - 'A'.val).toNat = 32 := rfl
    omega
  · rw [dif_neg (mt bounds.mp large), if_neg large]

theorem toLower_eq_iff {letter small : Char} (isSmall : 97 ≤ small.toNat ∧ small.toNat ≤ 122) :
    letter.toLower = small ↔ letter = small ∨ letter.toNat + 32 = small.toNat := by
  rw [← Char.toNat_inj, ← Char.toNat_inj, toNat_toLower]
  split <;> omega

theorem inSupportedCountry_iff {query : AddressQuery} :
    query.inSupportedCountry = true ↔ query.countryCode ∈ ["IT", "It", "iT", "it"] := by
  have spelled : query.inSupportedCountry = true ↔
      query.countryCode.toList.map Char.toLower = ['i', 't'] := by
    rw [inSupportedCountry, decide_eq_true_iff, ← String.toList_inj, String.toList_map]
    simp [supportedCountry]
  rw [spelled]
  simp only [List.mem_cons, List.not_mem_nil, or_false, ← String.toList_inj]
  have i (letter : Char) : letter.toLower = 'i' ↔ letter = 'i' ∨ letter = 'I' := by
    rw [toLower_eq_iff (by decide)]
    simp [← Char.toNat_inj]
  have t (letter : Char) : letter.toLower = 't' ↔ letter = 't' ∨ letter = 'T' := by
    rw [toLower_eq_iff (by decide)]
    simp [← Char.toNat_inj]
  rcases query.countryCode.toList with _ | ⟨first, _ | ⟨second, _ | ⟨third, others⟩⟩⟩
  · simp
  · simp
  · simp only [List.map_cons, List.map_nil, List.cons.injEq, i, t]
    grind
  · simp

/-- What the parts of a query have to be like for it to pass its checks. -/
structure Acceptable (query : AddressQuery) : Prop where
  country : query.countryCode ∈ ["IT", "It", "iT", "it"]
  freeForm : query.freeForm = none ∨ query.freeForm = some ""
  street : ∃ name building, query.streetAddress = some ⟨[name], building⟩ ∧ name ≠ ""
  municipality : ∃ earlier last, valuesOf .municipality query.places = earlier ++ [last] ∧
    (∀ value ∈ earlier, value = "") ∧ last ≠ ""
  provinces : ∀ value ∈ (valuesOf .countrySecondarySubdivision query.places).dropLast, value = ""

/-- An address made of what counts among the parts of a query. -/
structure ComesTo (query : AddressQuery) (address : ValidatedAddress) : Prop where
  street : ∃ building, query.streetAddress = some ⟨[address.street], building⟩ ∧
    address.buildingNumber = building.bind Building.label?
  municipality : (valuesOf .municipality query.places).getLast? = some address.municipality
  subdivision : ∀ value, address.subdivision = some value ↔
    (valuesOf .countrySecondarySubdivision query.places).getLast? = some value ∧ value ≠ ""
  postalCode : ∀ value, address.postalCode = some value ↔
    query.postalCode = some value ∧ value ≠ ""

namespace PassesAs

variable {query : AddressQuery} {address : ValidatedAddress}

theorem acceptable (passes : query.PassesAs address) : query.Acceptable := by
  obtain ⟨building, street, -⟩ := passes.street
  obtain ⟨last, named⟩ := nonEmpty_eq_some_iff.mp passes.municipality
  obtain ⟨earlier, values⟩ := List.getLast?_eq_some_iff.mp last
  have empty := passes.municipalities
  rw [values, onlyLast_append_singleton] at empty
  exact {
    country := inSupportedCountry_iff.mp passes.country
    freeForm := nonEmpty_eq_none_iff.mp passes.freeForm
    street := ⟨address.street, building, street, passes.named⟩
    municipality := ⟨earlier, address.municipality, values, empty, named⟩
    provinces := passes.provinces }

theorem comesTo (passes : query.PassesAs address) : query.ComesTo address where
  street := passes.street
  municipality := (nonEmpty_eq_some_iff.mp passes.municipality).1
  subdivision value := by rw [← passes.subdivision, nonEmpty_eq_some_iff]
  postalCode value := by rw [← passes.postalCode, nonEmpty_eq_some_iff]

end PassesAs

theorem Acceptable.exists_passesAs {query : AddressQuery} (acceptable : query.Acceptable) :
    ∃ address, query.PassesAs address := by
  obtain ⟨name, building, street, named⟩ := acceptable.street
  obtain ⟨earlier, last, values, empty, full⟩ := acceptable.municipality
  refine ⟨⟨name, building.bind Building.label?, last,
    nonEmpty (valuesOf .countrySecondarySubdivision query.places).getLast?,
    nonEmpty query.postalCode⟩, ?_⟩
  exact {
    country := inSupportedCountry_iff.mpr acceptable.country
    freeForm := nonEmpty_eq_none_iff.mpr acceptable.freeForm
    street := ⟨building, street, rfl⟩
    named := named
    municipalities := by rw [values, onlyLast_append_singleton]; exact empty
    municipality := by
      rw [values, List.getLast?_concat]
      exact nonEmpty_eq_some_iff.mpr ⟨rfl, full⟩
    provinces := acceptable.provinces
    subdivision := rfl
    postalCode := rfl }

theorem PassesAs.withPlaces {query : AddressQuery} {address : ValidatedAddress}
    (passes : query.PassesAs address) {places : List Place}
    (municipalities : valuesOf .municipality places = valuesOf .municipality query.places)
    (provinces : valuesOf .countrySecondarySubdivision places =
      valuesOf .countrySecondarySubdivision query.places) :
    { query with places }.PassesAs address where
  country := passes.country
  freeForm := passes.freeForm
  street := passes.street
  named := passes.named
  municipalities := by rw [municipalities]; exact passes.municipalities
  municipality := by rw [municipalities]; exact passes.municipality
  provinces := by rw [provinces]; exact passes.provinces
  subdivision := by rw [provinces]; exact passes.subdivision
  postalCode := passes.postalCode

/-- A query passes its checks exactly if its parts are acceptable, and then as the address
they come to.  Its places matter by the values of the municipalities and those of the
provinces, each in their order, and neither by other kinds nor by how the two are mixed. -/
theorem validate_acceptance (query : AddressQuery) :
    ((∃ address, query.validate = .ok address) ↔ query.Acceptable) ∧
    (∀ address, query.validate = .ok address → query.ComesTo address) ∧
    ∀ places, valuesOf .municipality places = valuesOf .municipality query.places →
      valuesOf .countrySecondarySubdivision places =
        valuesOf .countrySecondarySubdivision query.places →
      ∀ address, { query with places }.validate = .ok address ↔ query.validate = .ok address := by
  simp only [validate_eq_ok_iff]
  refine ⟨⟨?_, Acceptable.exists_passesAs⟩, fun _ passes => passes.comesTo, ?_⟩
  · rintro ⟨address, passes⟩
    exact passes.acceptable
  · intro places municipalities provinces address
    exact ⟨fun passes => passes.withPlaces municipalities.symm provinces.symm,
      fun passes => passes.withPlaces municipalities provinces⟩

theorem validate_acceptance_interleaved :
    let query : AddressQuery := {
      countryCode := "iT"
      freeForm := some ""
      streetAddress := some ⟨["Via Roma"], some ⟨some "12", some "B"⟩⟩
      places := [⟨.countrySubdivision, "Toscana"⟩, ⟨.municipality, ""⟩,
        ⟨.countrySecondarySubdivision, ""⟩, ⟨.municipality, "Firenze"⟩,
        ⟨.countrySecondarySubdivision, "FI"⟩, ⟨.municipalitySubdivision, "Rifredi"⟩]
      postalCode := some "" }
    let sorted : List Place := [⟨.countrySecondarySubdivision, ""⟩,
      ⟨.countrySecondarySubdivision, "FI"⟩, ⟨.municipality, ""⟩, ⟨.municipality, "Firenze"⟩]
    let address : ValidatedAddress := ⟨"Via Roma", some "12/B", "Firenze", some "FI", none⟩
    query.Acceptable ∧ query.validate = .ok address ∧ query.ComesTo address ∧
      { query with places := sorted }.validate = .ok address := by
  intro query sorted address
  have valid : query.validate = .ok address := by decide +kernel
  obtain ⟨accepted, comes, mixed⟩ := validate_acceptance query
  exact ⟨accepted.mp ⟨address, valid⟩, valid, comes address valid,
    (mixed sorted (by decide) (by decide) address).mpr valid⟩

end AddressQuery

end Geocoding
