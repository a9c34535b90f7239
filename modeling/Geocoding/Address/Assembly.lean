import Geocoding.Address

/-!
# Assembling an address step by step

A query can be put together from a list of steps, each of which changes one
part of it.  A street or building step opens the street address when there is
none yet, and a `noStreetAddress` step drops it with all it holds.
-/

namespace Geocoding

/-- One change to an address query under assembly. -/
inductive QueryStep
  | countryCode (code : String)
  | freeForm (text : String)
  | street (name : String)
  | building (number : String) (subdivision : Option String)
  | noStreetAddress
  | place (kind : PlaceKind) (value : String)
  | municipality (value : String)
  | province (value : String)
  | postalCode (code : String)
deriving DecidableEq, Repr

namespace AddressQuery

/-- The query every assembly starts from: Italy, and nothing else. -/
def start : AddressQuery := { countryCode := "IT" }

def openStreetAddress (query : AddressQuery) : StreetAddress :=
  query.streetAddress.getD {}

def addPlace (query : AddressQuery) (kind : PlaceKind) (value : String) : AddressQuery :=
  { query with places := query.places ++ [⟨kind, value⟩] }

def apply (query : AddressQuery) : QueryStep → AddressQuery
  | .countryCode code => { query with countryCode := code }
  | .freeForm text => { query with freeForm := some text }
  | .street name =>
      let address := query.openStreetAddress
      { query with streetAddress := some { address with streets := address.streets ++ [name] } }
  | .building number subdivision =>
      { query with
        streetAddress :=
          some { query.openStreetAddress with building := some ⟨some number, subdivision⟩ } }
  | .noStreetAddress => { query with streetAddress := none }
  | .place kind value => query.addPlace kind value
  | .municipality value => query.addPlace .municipality value
  | .province value => query.addPlace .countrySecondarySubdivision value
  | .postalCode code => { query with postalCode := some code }

def assemble (steps : List QueryStep) : AddressQuery :=
  steps.foldl apply start

end AddressQuery

end Geocoding
