import Geocoding.Envelope.Request
import Geocoding.Proofs.Json.Rereading
import Geocoding.Proofs.Text.Symbol

/-!
# Requests come back as they were written

A request holds texts, kinds of places, lists and what may be absent.  So it can be read
from its own text without a change, and it is the same request as the addresses of the
domain, part by part.
-/

namespace Geocoding.Envelope

open Json (Shape Style)
open Text (Symbol)

/-! ## The same parts -/

def SameBuilding : buildingShape.Carrier → Building → Prop
  | (number, subdivision, ()), building =>
    building.number = number ∧ building.subdivision = subdivision

/-- The streets are those of the envelope, in order.  An absent building is not an
empty one. -/
def SameStreetAddress : streetAddressShape.Carrier → StreetAddress → Prop
  | (streets, building, ()), address =>
    address.streets = streets ∧ Option.Rel SameBuilding building address.building

def SamePlace : placeShape.Carrier → Place → Prop
  | (kind, value, ()), place => place.kind = kind ∧ place.value = value

/-- Each part of an address is that of the envelope, its places in order.  An absent
street address is not an empty one. -/
def SameAddress : addressShape.Carrier → AddressQuery → Prop
  | (countryCode, freeForm, streetAddress, places, postalCode, ()), query =>
    query.countryCode = countryCode ∧ query.freeForm = freeForm ∧
      Option.Rel SameStreetAddress streetAddress query.streetAddress ∧
      List.Forall₂ SamePlace places query.places ∧ query.postalCode = postalCode

section Converted

variable {First Second : Type} {same : First → Second → Prop} {convert : First → Second}

theorem map_eq_iff_rel (each : ∀ first second, convert first = second ↔ same first second)
    (first : Option First) (second : Option Second) :
    first.map convert = second ↔ Option.Rel same first second := by
  cases first with
  | none =>
    cases second with
    | none => exact iff_of_true rfl .none
    | some second => exact iff_of_false nofun nofun
  | some first =>
    cases second with
    | none => exact iff_of_false nofun nofun
    | some second =>
      rw [Option.map_some, Option.some_inj, each]
      exact ⟨.some, fun | .some related => related⟩

theorem map_eq_iff_forall₂ (each : ∀ first second, convert first = second ↔ same first second)
    (firsts : List First) (seconds : List Second) :
    firsts.map convert = seconds ↔ List.Forall₂ same firsts seconds := by
  rw [← List.forall₂_eq_eq_eq, List.forall₂_map_left_iff]
  simp only [each]

end Converted

theorem buildingOf_eq_iff (carrier : buildingShape.Carrier) (building : Building) :
    buildingOf carrier = building ↔ SameBuilding carrier building := by
  obtain ⟨number, subdivision, ⟨⟩⟩ := carrier
  constructor
  · rintro rfl
    exact ⟨rfl, rfl⟩
  · rintro ⟨rfl, rfl⟩
    rfl

theorem streetAddressOf_eq_iff (carrier : streetAddressShape.Carrier) (address : StreetAddress) :
    streetAddressOf carrier = address ↔ SameStreetAddress carrier address := by
  obtain ⟨streets, building, ⟨⟩⟩ := carrier
  have buildings := map_eq_iff_rel buildingOf_eq_iff building
  constructor
  · rintro rfl
    exact ⟨rfl, (buildings _).mp rfl⟩
  · obtain ⟨streets', building'⟩ := address
    rintro ⟨rfl, related⟩
    exact congrArg (StreetAddress.mk streets') ((buildings building').mpr related)

theorem placeOf_eq_iff (carrier : placeShape.Carrier) (place : Place) :
    placeOf carrier = place ↔ SamePlace carrier place := by
  obtain ⟨kind, value, ⟨⟩⟩ := carrier
  constructor
  · rintro rfl
    exact ⟨rfl, rfl⟩
  · rintro ⟨rfl, rfl⟩
    rfl

theorem addressOf_eq_iff (carrier : addressShape.Carrier) (query : AddressQuery) :
    addressOf carrier = query ↔ SameAddress carrier query := by
  obtain ⟨countryCode, freeForm, streetAddress, places, postalCode, ⟨⟩⟩ := carrier
  have streets := map_eq_iff_rel streetAddressOf_eq_iff streetAddress
  have named := map_eq_iff_forall₂ placeOf_eq_iff places
  constructor
  · rintro rfl
    exact ⟨rfl, rfl, (streets _).mp rfl, (named _).mp rfl, rfl⟩
  · obtain ⟨countryCode', freeForm', streetAddress', places', postalCode'⟩ := query
    rintro ⟨rfl, rfl, sameStreets, samePlaces, rfl⟩
    exact congrArg₂ (AddressQuery.mk countryCode' freeForm' · · postalCode')
      ((streets streetAddress').mpr sameStreets) ((named places').mpr samePlaces)

theorem addressesOf_eq_iff (request : requestShape.Carrier) (queries : List AddressQuery) :
    addressesOf request = queries ↔ List.Forall₂ SameAddress request.1 queries :=
  map_eq_iff_forall₂ addressOf_eq_iff request.1 queries

/-! ## One envelope for each request -/

theorem leftInverse_map {First Second : Type} {convert : First → Second}
    {convertBack : Second → First} (inverse : Function.LeftInverse convert convertBack) :
    Function.LeftInverse (Option.map convert) (Option.map convertBack)
  | none => rfl
  | some value => congrArg some (inverse value)

theorem buildingOf_ofBuilding : Function.LeftInverse buildingOf ofBuilding :=
  fun _ => rfl

theorem ofBuilding_buildingOf : Function.RightInverse buildingOf ofBuilding :=
  fun _ => rfl

theorem streetAddressOf_ofStreetAddress : Function.LeftInverse streetAddressOf ofStreetAddress
  | ⟨streets, building⟩ =>
    congrArg (StreetAddress.mk streets) (leftInverse_map buildingOf_ofBuilding building)

theorem ofStreetAddress_streetAddressOf : Function.RightInverse streetAddressOf ofStreetAddress
  | (streets, building, ()) =>
    congrArg ((streets, ·, ())) (leftInverse_map ofBuilding_buildingOf building)

theorem placeOf_ofPlace : Function.LeftInverse placeOf ofPlace :=
  fun _ => rfl

theorem ofPlace_placeOf : Function.RightInverse placeOf ofPlace :=
  fun _ => rfl

theorem addressOf_ofAddress : Function.LeftInverse addressOf ofAddress := by
  rintro ⟨countryCode, freeForm, streetAddress, places, postalCode⟩
  have streets := leftInverse_map streetAddressOf_ofStreetAddress streetAddress
  have named := placeOf_ofPlace.list_map places
  exact congrArg₂ (AddressQuery.mk countryCode freeForm · · postalCode) streets named

theorem ofAddress_addressOf : Function.RightInverse addressOf ofAddress := by
  rintro ⟨countryCode, freeForm, streetAddress, places, postalCode, ⟨⟩⟩
  have streets := leftInverse_map ofStreetAddress_streetAddressOf streetAddress
  have named := ofPlace_placeOf.list_map places
  exact congrArg₂ (fun streets named => (countryCode, freeForm, streets, named, postalCode, ()))
    streets named

/-- Each list of addresses is that of exactly one envelope. -/
theorem addressesOf_bijective : Function.Bijective addressesOf := by
  refine Function.bijective_iff_has_inverse.mpr ⟨ofAddresses, ?_, ?_⟩
  · rintro ⟨addresses, ⟨⟩⟩
    exact congrArg (·, ()) (ofAddress_addressOf.list_map addresses)
  · exact addressOf_ofAddress.list_map

/-! ## Reading what has been written -/

theorem readText_writeText_requestShape (style : Style) (request : requestShape.Carrier) :
    requestShape.readText (Symbol.ofString (requestShape.writeText style request)) =
      .ok request := by
  have same : requestShape.Rereads request request := requestShape.rereads_self (by decide) request
  exact (Shape.readText_writeText_iff (by decide) style).mpr same

/-- Requests survive being written and read, be it from the text, from its bytes or by way
of the domain's own addresses, of which each list has one envelope of the same parts. -/
theorem request_roundTrip :
    (∀ style request,
      requestShape.readText (Symbol.ofString (requestShape.writeText style request)) =
          .ok request ∧
        requestShape.readText (Symbol.ofBytes (Text.utf8 (requestShape.writeText style request))) =
          .ok request) ∧
    (∀ style text request, requestShape.readText text = .ok request →
      requestShape.readText (Symbol.ofString (requestShape.writeText style request)) =
        requestShape.readText text) ∧
    Function.Bijective addressesOf ∧
    (∀ request queries,
      addressesOf request = queries ↔ List.Forall₂ SameAddress request.1 queries) := by
  refine ⟨fun style request => ⟨?_, ?_⟩, fun style text request read => ?_,
    addressesOf_bijective, addressesOf_eq_iff⟩
  · exact readText_writeText_requestShape style request
  · rw [Symbol.ofBytes_utf8]
    exact readText_writeText_requestShape style request
  · rw [read]
    exact readText_writeText_requestShape style request

end Geocoding.Envelope
