/-!
# Addresses

An address is asked for in parts: a country, at most one street address made of
street names and a building, a list of named places and a postal code.  This
module holds those parts and the text that stands for each kind of place.
-/

namespace Geocoding

inductive PlaceKind
  | countrySubdivision
  | countrySecondarySubdivision
  | municipality
  | municipalitySubdivision
deriving DecidableEq, Repr

namespace PlaceKind

def all : List PlaceKind :=
  [countrySubdivision, countrySecondarySubdivision, municipality, municipalitySubdivision]

def name : PlaceKind → String
  | countrySubdivision => "COUNTRY_SUBDIVISION"
  | countrySecondarySubdivision => "COUNTRY_SECONDARY_SUBDIVISION"
  | municipality => "MUNICIPALITY"
  | municipalitySubdivision => "MUNICIPALITY_SUBDIVISION"

def ofName? (text : String) : Option PlaceKind :=
  all.find? (fun kind => kind.name = text)

/-- The kind with this name, the case of ASCII letters left aside. -/
def parse? (text : String) : Option PlaceKind :=
  all.find? (fun kind => kind.name.map Char.toLower = text.map Char.toLower)

@[simp] theorem ofName?_name (kind : PlaceKind) : ofName? kind.name = some kind := by
  cases kind <;> rfl

end PlaceKind

structure Place where
  kind : PlaceKind
  value : String
deriving DecidableEq, Repr

structure Building where
  number : Option String
  subdivision : Option String
deriving DecidableEq, Repr

/-- The number of a building followed by its subdivision, as in `12/B`.  Without
a number there is nothing to write, and an empty subdivision is left out. -/
def Building.label? (building : Building) : Option String :=
  building.number.map fun number =>
    match building.subdivision.filter (· ≠ "") with
    | some subdivision => number ++ "/" ++ subdivision
    | none => number

structure StreetAddress where
  streets : List String := []
  building : Option Building := none
deriving DecidableEq, Repr

/-- One structured address of a geocoding request. -/
structure AddressQuery where
  countryCode : String
  freeForm : Option String := none
  streetAddress : Option StreetAddress := none
  places : List Place := []
  postalCode : Option String := none
deriving DecidableEq, Repr

end Geocoding
