import Geocoding.Batch
import Geocoding.Envelope.Request

/-!
# Responses as JSON

A response envelope holds one list of geocoded addresses for each address that
was asked for, and a failed batch is told by its message alone.
-/

namespace Geocoding.Envelope

open Json (Shape Fields Leaf Style)

def pointShape : Shape :=
  .record "Point" (.cons "pos" false (.leaf .pair) .nil)

def returnAddressShape : Shape :=
  .record "ReturnAddress"
    (.cons "countryCode" false textShape
      (.cons "places" false (.list placeShape)
        (.cons "postalCode" false optionalText
          (.cons "street" false optionalText .nil))))

def matchCodeShape : Shape :=
  .record "GeocodeMatchCode"
    (.cons "matchType" false textShape (.cons "accuracy" false (.leaf .single) .nil))

def geocodedAddressShape : Shape :=
  .record "GeocodedAddress"
    (.cons "point" false pointShape
      (.cons "address" false returnAddressShape
        (.cons "geocodeMatchCode" false matchCodeShape .nil)))

def responseListShape : Shape :=
  .record "GeocodeResponseList"
    (.cons "numberOfGeocodedAddresses" false (.leaf .count)
      (.cons "geocodedAddresses" false (.list geocodedAddressShape) .nil))

def responseShape : Shape :=
  .record "GeocodeResponse"
    (.cons "geocodeResponseLists" false (.list responseListShape) .nil)

def errorShape : Shape :=
  .record "Error" (.cons "message" false textShape .nil)

def ofPosition (position : Coordinates) : pointShape.Carrier :=
  ((position.longitude, position.latitude), ())

def ofReconstructedAddress (address : ReconstructedAddress) : returnAddressShape.Carrier :=
  (address.countryCode, address.places.map ofPlace, address.postalCode, address.street, ())

def ofMatchCode (code : MatchCode) : matchCodeShape.Carrier :=
  (code.matchType, code.accuracy, ())

def ofCandidate (candidate : Candidate) : geocodedAddressShape.Carrier :=
  (ofPosition candidate.position, ofReconstructedAddress candidate.address,
    ofMatchCode candidate.matchCode, ())

def ofResultSet (set : ResultSet) : responseListShape.Carrier :=
  (set.addressCount, set.candidates.map ofCandidate, ())

def ofBatchResult (result : BatchResult) : responseShape.Carrier :=
  (result.results.map ofResultSet, ())

def ofMessage (message : String) : errorShape.Carrier :=
  (message, ())

def writeResponse (style : Style) (result : BatchResult) : String :=
  responseShape.writeText style (ofBatchResult result)

def writeFailure (style : Style) (failure : Failure) : String :=
  errorShape.writeText style (ofMessage failure.message)

end Geocoding.Envelope
