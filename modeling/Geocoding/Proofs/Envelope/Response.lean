import Geocoding.Envelope.Response
import Geocoding.Proofs.Batch.Course
import Geocoding.Proofs.Envelope.Request
import Geocoding.Proofs.Interpretation.Consistency

/-!
# Responses keep what a batch has found

A batch that succeeds has one result set for each of its addresses, in their order, and its
response envelope has one list for each set, with the same count and the same candidates.
-/

namespace Geocoding

namespace Service

variable {Binding State : Type} (service : Service Binding State)

/-- The set is what the service answers to the question for this address, at some time and
over some binding. -/
def Answers (region : String) (query : AddressQuery) (set : ResultSet) : Prop :=
  ∃ request binding state answer next, query.question = .ok request ∧
    service.ask binding request state = (.ok answer, next) ∧ answer.interpret region = .ok set

variable {service} {cancelled : State → Bool} {region : String}

theorem Geocodes.answers {first second : Stage Binding State} {query : AddressQuery}
    {request : NormalizationRequest} {set : ResultSet}
    (step : service.Geocodes cancelled region first query request set second) :
    service.Answers region query set := by
  obtain ⟨_, accepted, _, answered, interpreted⟩ := step
  exact ⟨_, _, _, _, _, accepted, answered, interpreted⟩

theorem Advances.answers {first last : Stage Binding State} {done : List AddressQuery}
    {requests : List NormalizationRequest} {sets : List ResultSet}
    (advances : service.Advances cancelled region first done requests sets last) :
    List.Forall₂ (service.Answers region) done sets := by
  induction advances with
  | nil => exact .nil
  | cons step others ih => exact .cons step.answers ih

theorem answers_of_geocodeUnlessCancelled {addresses : List AddressQuery} {state last : State}
    {result : BatchResult}
    (succeeded : (service.geocodeUnlessCancelled cancelled region addresses).runFrom state =
      (.ok result, last)) :
    List.Forall₂ (service.Answers region) addresses result.results := by
  rw [geocodeUnlessCancelled_runFrom] at succeeded
  cases run : service.runFrom cancelled region ⟨none, state⟩ addresses with
  | mk outcome last' =>
    rw [run] at succeeded
    cases outcome with
    | error failure => cases succeeded
    | ok sets =>
      cases succeeded
      obtain ⟨requests, course⟩ := runFrom_eq_iff.mp run
      cases course with
      | finished advances => exact advances.answers

theorem Answers.consistent {query : AddressQuery} {set : ResultSet}
    (answers : service.Answers region query set) : set.Consistent region := by
  obtain ⟨_, _, _, _, _, _, _, interpreted⟩ := answers
  exact (RawAnswer.interpret_eq_ok_iff.mp interpreted).consistent

theorem forall_consistent {addresses : List AddressQuery} {sets : List ResultSet}
    (answered : List.Forall₂ (service.Answers region) addresses sets) :
    ∀ set ∈ sets, set.Consistent region := by
  induction answered with
  | nil => nofun
  | cons answers _ ih => exact List.forall_mem_cons.mpr ⟨Answers.consistent answers, ih⟩

end Service

namespace Envelope

def listsOf : responseShape.Carrier → List responseListShape.Carrier
  | (lists, ()) => lists

def numberIn : responseListShape.Carrier → Nat
  | (number, _, ()) => number

def addressesIn : responseListShape.Carrier → List geocodedAddressShape.Carrier
  | (_, addresses, ()) => addresses

/-- A point holds the longitude first. -/
def SamePosition : pointShape.Carrier → Coordinates → Prop
  | ((first, second), ()), position => first = position.longitude ∧ second = position.latitude

def SameReconstructedAddress : returnAddressShape.Carrier → ReconstructedAddress → Prop
  | (countryCode, places, postalCode, street, ()), address =>
    countryCode = address.countryCode ∧ List.Forall₂ SamePlace places address.places ∧
      postalCode = address.postalCode ∧ street = address.street

def SameCandidate : geocodedAddressShape.Carrier → Candidate → Prop
  | (point, address, (matchType, accuracy, ()), ()), candidate =>
    SamePosition point candidate.position ∧ SameReconstructedAddress address candidate.address ∧
      matchType = candidate.matchCode.matchType ∧ accuracy = candidate.matchCode.accuracy

/-- A list of a response has the count and the candidates of the set, in order. -/
def SameSet (list : responseListShape.Carrier) (set : ResultSet) : Prop :=
  numberIn list = set.addressCount ∧ List.Forall₂ SameCandidate (addressesIn list) set.candidates

theorem samePlace_ofPlace (place : Place) : SamePlace (ofPlace place) place :=
  ⟨rfl, rfl⟩

theorem sameCandidate_ofCandidate (candidate : Candidate) :
    SameCandidate (ofCandidate candidate) candidate := by
  have places : List.Forall₂ SamePlace (candidate.address.places.map ofPlace)
      candidate.address.places :=
    List.forall₂_map_left_iff.mpr (List.forall₂_same.mpr fun place _ => samePlace_ofPlace place)
  exact ⟨⟨rfl, rfl⟩, ⟨rfl, places, rfl, rfl⟩, rfl, rfl⟩

theorem sameSet_ofResultSet (set : ResultSet) : SameSet (ofResultSet set) set :=
  ⟨rfl, List.forall₂_map_left_iff.mpr
    (List.forall₂_same.mpr fun candidate _ => sameCandidate_ofCandidate candidate)⟩

theorem sameSet_ofBatchResult (result : BatchResult) :
    List.Forall₂ SameSet (listsOf (ofBatchResult result)) result.results :=
  List.forall₂_map_left_iff.mpr (List.forall₂_same.mpr fun set _ => sameSet_ofResultSet set)

/-- The number a list of a response tells is that of the addresses in it, if the set it
stands for counts its own candidates. -/
theorem SameSet.counted {list : responseListShape.Carrier} {set : ResultSet} {region : String}
    (same : SameSet list set) (consistent : set.Consistent region) :
    numberIn list = (addressesIn list).length := by
  rw [same.1, same.2.length_eq, consistent.counted]

/-- Every result set is consistent, and so is every set of a batch that succeeds.  Such a
batch has one set for each of its addresses, in their order, and its response one list for
each set, which tells the number of addresses in it. -/
theorem response_consistent :
    (∀ answer region set, RawAnswer.interpret answer region = .ok set → set.Consistent region) ∧
    ∀ (Binding State : Type) (service : Service Binding State) (cancelled : State → Bool)
      (region : String) (addresses : List AddressQuery) (state last : State)
      (result : BatchResult),
      (service.geocodeUnlessCancelled cancelled region addresses).runFrom state =
        (.ok result, last) →
      List.Forall₂ (service.Answers region) addresses result.results ∧
        (∀ set ∈ result.results, set.Consistent region) ∧
        List.Forall₂ SameSet (listsOf (ofBatchResult result)) result.results ∧
        ∀ list ∈ listsOf (ofBatchResult result), numberIn list = (addressesIn list).length := by
  refine ⟨fun answer region set read => (RawAnswer.interpret_eq_ok_iff.mp read).consistent, ?_⟩
  intro Binding State service cancelled region addresses state last result succeeded
  have answered := Service.answers_of_geocodeUnlessCancelled succeeded
  have consistent : ∀ set ∈ result.results, set.Consistent region :=
    Service.forall_consistent answered
  refine ⟨answered, consistent, sameSet_ofBatchResult result, ?_⟩
  refine List.forall_mem_map.mpr fun set found => ?_
  exact (sameSet_ofResultSet set).counted (consistent set found)

end Envelope

end Geocoding
