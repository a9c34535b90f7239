import Geocoding.Json.Shape

/-!
# Requests as JSON

A request envelope lists the addresses to geocode.  Its records hold the same
parts as the domain's own types, so each converts into the other without loss.
-/

namespace Geocoding.Envelope

open Json (Shape Fields Leaf)

def textShape : Shape := .leaf .string

def optionalText : Shape := .optional textShape

def buildingShape : Shape :=
  .record "Building" (.cons "number" true optionalText (.cons "subdivision" true optionalText .nil))

def streetAddressShape : Shape :=
  .record "StreetAddress"
    (.cons "streets" true (.list textShape)
      (.cons "building" true (.optional buildingShape) .nil))

def placeShape : Shape :=
  .record "Place"
    (.cons "type" false (.leaf .placeKind) (.cons "value" false textShape .nil))

def addressShape : Shape :=
  .record "Address"
    (.cons "countryCode" false textShape
      (.cons "freeFormAddress" true optionalText
        (.cons "streetAddress" true (.optional streetAddressShape)
          (.cons "places" true (.list placeShape)
            (.cons "postalCode" true optionalText .nil)))))

def requestShape : Shape :=
  .record "GeocodeRequest" (.cons "addresses" false (.list addressShape) .nil)

def buildingOf : buildingShape.Carrier → Building
  | (number, subdivision, ()) => { number, subdivision }

def ofBuilding (building : Building) : buildingShape.Carrier :=
  (building.number, building.subdivision, ())

def streetAddressOf : streetAddressShape.Carrier → StreetAddress
  | (streets, building, ()) => { streets, building := building.map buildingOf }

def ofStreetAddress (address : StreetAddress) : streetAddressShape.Carrier :=
  (address.streets, address.building.map ofBuilding, ())

def placeOf : placeShape.Carrier → Place
  | (kind, value, ()) => { kind, value }

def ofPlace (place : Place) : placeShape.Carrier :=
  (place.kind, place.value, ())

def addressOf : addressShape.Carrier → AddressQuery
  | (countryCode, freeForm, streetAddress, places, postalCode, ()) =>
    { countryCode
      freeForm
      streetAddress := streetAddress.map streetAddressOf
      places := places.map placeOf
      postalCode }

def ofAddress (query : AddressQuery) : addressShape.Carrier :=
  (query.countryCode, query.freeForm, query.streetAddress.map ofStreetAddress,
    query.places.map ofPlace, query.postalCode, ())

def addressesOf : requestShape.Carrier → List AddressQuery
  | (addresses, ()) => addresses.map addressOf

def ofAddresses (addresses : List AddressQuery) : requestShape.Carrier :=
  (addresses.map ofAddress, ())

def readRequest (text : List Text.Symbol) : Json.Reading (List AddressQuery) := do
  return addressesOf (← requestShape.readText text)

end Geocoding.Envelope
