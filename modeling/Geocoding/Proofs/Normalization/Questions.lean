import Geocoding.Proofs.Batch.Verdict
import Geocoding.Proofs.Http.Course
import Geocoding.Proofs.Normalization.Separation

/-!
# What the service is asked

An address that passes its checks is asked for by a form without gaps: no value in it is
empty, no name stands in it twice, and whatever it says of the address stands in the address.
This holds of every question of a batch, for every service and whenever the batch is
stopped, and of every form that is posted.
-/

namespace Geocoding

/-- A form that asks for an address by what stands in it, and has nothing else. -/
structure AddressQuery.FormFor (query : AddressQuery) (form : List (String × String)) : Prop where
  nonempty : ∀ parameter ∈ form, parameter.2 ≠ ""
  distinct : (form.map Prod.fst).Nodup
  known : ∀ parameter ∈ form,
    parameter.1 ∈ ["algoritmo", "indirizzo", "localita", "provincia", "cap", "fonte"]
  address : ∃ street building line, query.streetAddress = some ⟨[street], building⟩ ∧
    street ≠ "" ∧ form.lookup "indirizzo" = some line ∧ street.toList <+: line.toList
  municipality : ∃ value ∈ valuesOf .municipality query.places,
    form.lookup "localita" = some value
  subdivision : ∀ value, form.lookup "provincia" = some value →
    value ∈ valuesOf .countrySecondarySubdivision query.places
  postalCode : ∀ value, form.lookup "cap" = some value → query.postalCode = some value
  algorithm : form.lookup "algoritmo" = some "2"
  dataSource : form.lookup "fonte" = some "1"

theorem ValidatedAddress.street_prefix_line (address : ValidatedAddress) :
    address.street.toList <+: address.line.toList := by
  rw [line]
  cases address.buildingNumber with
  | none => exact List.prefix_refl _
  | some number =>
    dsimp only
    rw [String.append_assoc, String.toList_append]
    exact List.prefix_append _ _

theorem ValidatedAddress.line_ne_empty {address : ValidatedAddress} (named : address.street ≠ "") :
    address.line ≠ "" := by
  intro empty
  have begins := address.street_prefix_line
  rw [empty] at begins
  apply named
  rw [← String.toList_inj]
  exact List.prefix_nil.mp begins

namespace NormalizationRequest

variable {request : NormalizationRequest}

/-- The values of a form are the texts of its question. -/
theorem mem_parameters_iff {parameter : String × String} :
    parameter ∈ request.parameters ↔
      parameter = ("algoritmo", request.algorithm.wireCode) ∨
      parameter = ("indirizzo", request.address) ∨
      parameter = ("localita", request.municipality) ∨
      (∃ value, request.subdivision = some value ∧ parameter = ("provincia", value)) ∨
      (∃ value, request.postalCode = some value ∧ parameter = ("cap", value)) ∨
      parameter = ("fonte", request.dataSource.wireCode) := by
  simp [parameters, eq_comm]

end NormalizationRequest

theorem AddressQuery.PassesAs.formFor {query : AddressQuery} {address : ValidatedAddress}
    (passes : query.PassesAs address) :
    query.FormFor (NormalizationRequest.ofAddress address).parameters := by
  have told := (NormalizationRequest.ofAddress address).toldBy_parameters
  obtain ⟨municipality, named⟩ := nonEmpty_eq_some_iff.mp passes.municipality
  have subdivision : ∀ value, address.subdivision = some value →
      value ∈ valuesOf .countrySecondarySubdivision query.places ∧ value ≠ "" := by
    intro value found
    obtain ⟨last, full⟩ := nonEmpty_eq_some_iff.mp (passes.subdivision.trans found)
    exact ⟨List.mem_of_getLast? last, full⟩
  have postalCode : ∀ value, address.postalCode = some value →
      query.postalCode = some value ∧ value ≠ "" := by
    intro value found
    exact nonEmpty_eq_some_iff.mp (passes.postalCode.trans found)
  obtain ⟨building, street, _⟩ := passes.street
  constructor
  · intro parameter mem
    rcases NormalizationRequest.mem_parameters_iff.mp mem with
      rfl | rfl | rfl | ⟨value, found, rfl⟩ | ⟨value, found, rfl⟩ | rfl
    · exact (by decide : adapterAlgorithm.wireCode ≠ "")
    · exact ValidatedAddress.line_ne_empty passes.named
    · exact named
    · exact (subdivision value found).2
    · exact (postalCode value found).2
    · exact (by decide : adapterDataSource.wireCode ≠ "")
  · exact told.distinct
  · intro parameter mem
    rcases NormalizationRequest.mem_parameters_iff.mp mem with
      rfl | rfl | rfl | ⟨value, found, rfl⟩ | ⟨value, found, rfl⟩ | rfl <;> simp
  · exact ⟨address.street, building, address.line, street, passes.named, told.address,
      address.street_prefix_line⟩
  · exact ⟨address.municipality, List.mem_of_getLast? municipality, told.municipality⟩
  · intro value found
    exact (subdivision value (told.subdivision.symm.trans found)).1
  · intro value found
    exact (postalCode value (told.postalCode.symm.trans found)).1
  · exact told.algorithm
  · exact told.dataSource

theorem AddressQuery.formFor_of_question {query : AddressQuery} {request : NormalizationRequest}
    (asked : query.question = .ok request) : query.FormFor request.parameters := by
  obtain ⟨address, passes, rfl⟩ := AddressQuery.question_eq_ok_iff.mp asked
  exact passes.formFor

/-! ## The questions of a batch -/

theorem Http.Posts.forall₂_formFor {endpoint : String} {addresses : List AddressQuery}
    {posted : List Http.Exchange} (posts : Http.Posts endpoint addresses posted) :
    List.Forall₂ (fun query message =>
      query.FormFor (Url.Form.decode message.body.toList)) addresses posted := by
  refine posts.imp ?_
  rintro query message ⟨url, request, _, asked, sent⟩
  rw [sent.told.eq_parameters]
  exact AddressQuery.formFor_of_question asked

/-- Every question of a batch is well formed, whatever the service answers and whenever the
caller stops: those that a script is asked, and the forms that are posted over a network,
each for the address at its position. -/
theorem questions_wellFormed :
    (∀ (script : Script) (region : String) (batch : Batch),
      let requests := (script.runBatch region batch).1.requests
      List.Forall₂ (fun query request => query.FormFor request.parameters)
        (batch.addresses.take requests.length) requests) ∧
    ∀ (endpoint : String) (timeout : Duration) (cancelled : Http.Network → Bool)
      (region : String) (network : Http.Network) (addresses : List AddressQuery),
      ∃ posted, (((Http.service endpoint timeout).geocodeUnlessCancelled cancelled region
          addresses).runFrom network).2.exchanges = network.exchanges ++ posted ∧
        List.Forall₂ (fun query message =>
          query.FormFor (Url.Form.decode message.body.toList))
          (addresses.take posted.length) posted := by
  constructor
  · intro script region batch requests
    have questions := script.map_question_batchRun region batch
    rw [← Script.runBatch_requests] at questions
    refine (forall₂_question questions).imp ?_
    intro query request asked
    exact AddressQuery.formFor_of_question asked
  · intro endpoint timeout cancelled region network addresses
    obtain ⟨posted, posts, last⟩ :=
      Http.posts_runFrom endpoint timeout cancelled region network addresses
    refine ⟨posted, ?_, posts.forall₂_formFor⟩
    rw [Service.geocodeUnlessCancelled_runFrom]
    exact congrArg Http.Network.exchanges last

end Geocoding
