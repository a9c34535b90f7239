import Geocoding.Address
import Geocoding.Normalization.Answer

/-!
# Geocoded addresses

The outcome for one requested address is a set of candidates, each a position
with the address found there and a mark of how well it matches.  A batch gives
one such set per address, in request order.
-/

namespace Geocoding

structure ReconstructedAddress where
  countryCode : String
  places : List Place
  postalCode : Option String
  street : Option String
deriving DecidableEq, Repr

structure MatchCode where
  matchType : String
  accuracy : Float32
deriving DecidableEq, Repr

/-- A position and the address found there. -/
structure Candidate where
  position : Coordinates
  address : ReconstructedAddress
  matchCode : MatchCode
deriving DecidableEq, Repr

/-- All candidates for one requested address. -/
structure ResultSet where
  addressCount : Nat
  candidates : List Candidate
deriving DecidableEq, Repr

namespace ResultSet

def empty : ResultSet := ⟨0, []⟩

def single (candidate : Candidate) : ResultSet := ⟨1, [candidate]⟩

def isEmpty (set : ResultSet) : Bool := set.candidates.isEmpty

end ResultSet

structure BatchResult where
  results : List ResultSet
deriving DecidableEq, Repr

end Geocoding
