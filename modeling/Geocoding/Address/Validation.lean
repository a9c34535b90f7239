import Geocoding.Address

/-!
# Checking an address

Only addresses in Italy with exactly one named street and a municipality can be
asked for.  `AddressQuery.validate` makes these checks in a fixed order, so an
address with several faults is always refused for the same one, and hands on
the parts that a question to the normalization service is made of.
-/

namespace Geocoding

/-- Why an address cannot be asked for. -/
inductive Invalidation
  | unsupportedCountry (code : String)
  | freeFormUnsupported
  | missingStreetAddress
  | missingStreets
  | multiStreetUnsupported
  | missingStreetName
  | missingPlaces
  | duplicateMunicipality (old new : String)
  | duplicateSubdivision (old new : String)
  | missingMunicipality
deriving DecidableEq, Repr

def Invalidation.message : Invalidation → String
  | unsupportedCountry code => s!"Unsupported country code: {code}"
  | freeFormUnsupported => "Cannot parse free form requests"
  | missingStreetAddress => "StreetAddress missing in geocoding request"
  | missingStreets => "Streets list missing or empty in geocoding request"
  | multiStreetUnsupported => "Cannot manage street crossing"
  | missingStreetName => "Street name missing in geocoding request"
  | missingPlaces => "Places list missing or empty in geocoding request"
  | duplicateMunicipality old new =>
      s!"Too many municipalities in geocoding request: old one {old} new one: {new}"
  | duplicateSubdivision old new =>
      s!"Too many country secondary subdivisions in geocoding request: old one {old} new one: {new}"
  | missingMunicipality => "Municipality missing or empty in geocoding request"

def supportedCountry : String := "IT"

/-- The parts of a checked address that are put to the normalization service. -/
structure ValidatedAddress where
  street : String
  buildingNumber : Option String
  municipality : String
  subdivision : Option String
  postalCode : Option String
deriving DecidableEq, Repr

def ValidatedAddress.line (address : ValidatedAddress) : String :=
  match address.buildingNumber with
  | some number => address.street ++ ", " ++ number
  | none => address.street

def nonEmpty (text : Option String) : Option String :=
  text.filter (· ≠ "")

structure PlaceChoice where
  municipality : Option String := none
  subdivision : Option String := none
deriving DecidableEq, Repr

namespace PlaceChoice

/-- Puts a value into a slot, in which nothing but an empty text may stand. -/
def fill (slot : Option String) (value : String) (duplicate : String → String → Invalidation) :
    Except Invalidation (Option String) :=
  match nonEmpty slot with
  | some old => .error (duplicate old value)
  | none => .ok (some value)

/-- The choice after one more place.  Kinds other than the two chosen from leave it alone. -/
def add (choice : PlaceChoice) (place : Place) : Except Invalidation PlaceChoice :=
  match place.kind with
  | .municipality => do
      let slot ← fill choice.municipality place.value .duplicateMunicipality
      return { choice with municipality := slot }
  | .countrySecondarySubdivision => do
      let slot ← fill choice.subdivision place.value .duplicateSubdivision
      return { choice with subdivision := slot }
  | .countrySubdivision | .municipalitySubdivision => .ok choice

def ofPlaces : PlaceChoice → List Place → Except Invalidation PlaceChoice
  | choice, [] => .ok choice
  | choice, place :: rest => do
      let next ← choice.add place
      next.ofPlaces rest

end PlaceChoice

namespace AddressQuery

/-- Whether the query asks for an address in the supported country, the case of
ASCII letters left aside. -/
def inSupportedCountry (query : AddressQuery) : Bool :=
  query.countryCode.map Char.toLower = supportedCountry.map Char.toLower

def singleStreet (query : AddressQuery) : Except Invalidation (String × Option Building) :=
  match query.streetAddress with
  | none => .error .missingStreetAddress
  | some address =>
    match address.streets with
    | [] => .error .missingStreets
    | [street] =>
      if street = "" then .error .missingStreetName else .ok (street, address.building)
    | _ :: _ :: _ => .error .multiStreetUnsupported

/-- Checks a query and extracts what is asked of the service.  The first failing
check, in the order of the code, decides the error. -/
def validate (query : AddressQuery) : Except Invalidation ValidatedAddress := do
  if !query.inSupportedCountry then
    throw (.unsupportedCountry query.countryCode)
  if (nonEmpty query.freeForm).isSome then
    throw .freeFormUnsupported
  let (street, building) ← query.singleStreet
  if query.places.isEmpty then
    throw .missingPlaces
  let choice ← PlaceChoice.ofPlaces {} query.places
  let some municipality := nonEmpty choice.municipality
    | throw .missingMunicipality
  return {
    street
    buildingNumber := building.bind Building.label?
    municipality
    subdivision := nonEmpty choice.subdivision
    postalCode := nonEmpty query.postalCode }

end AddressQuery

end Geocoding
