import Geocoding.Address.Assembly
import Geocoding.Address.Validation
import Geocoding.Proofs.Assembly.Steps
import Mathlib.Data.List.DropRight

/-!
# What an assembled query asks for

Each step concerns one of five parts of a query.  The country, the free form text and the postal
code are what the last step gave, and the places are those of all steps.  The street address is
made by the steps behind the last one that dropped it, and opened by the first of them that adds
to it.  Steps that concern different parts know nothing of each other and may change places.
-/

namespace Geocoding

/-- The parts of a query that steps set apart from each other. -/
inductive QueryPart
  | country
  | freeForm
  | streetAddress
  | places
  | postalCode
deriving DecidableEq, Repr

namespace QueryStep

def part : QueryStep → QueryPart
  | .countryCode _ => .country
  | .freeForm _ => .freeForm
  | .street _ | .building _ _ | .noStreetAddress => .streetAddress
  | .place _ _ | .municipality _ | .province _ => .places
  | .postalCode _ => .postalCode

def country? : QueryStep → Option String
  | .countryCode code => some code
  | _ => none

def freeForm? : QueryStep → Option String
  | .freeForm text => some text
  | _ => none

def street? : QueryStep → Option String
  | .street name => some name
  | _ => none

def building? : QueryStep → Option Building
  | .building number subdivision => some ⟨some number, subdivision⟩
  | _ => none

def place? : QueryStep → Option Place
  | .place kind value => some ⟨kind, value⟩
  | .municipality value => some ⟨.municipality, value⟩
  | .province value => some ⟨.countrySecondarySubdivision, value⟩
  | _ => none

def postalCode? : QueryStep → Option String
  | .postalCode code => some code
  | _ => none

def opensStreetAddress : QueryStep → Bool
  | .street _ | .building _ _ => true
  | _ => false

/-- The steps behind the last one that drops the street address, or all of them. -/
def sinceDropped (steps : List QueryStep) : List QueryStep :=
  steps.rtakeWhile (· ≠ .noStreetAddress)

theorem sinceDropped_concat {step : QueryStep} (keeps : step ≠ .noStreetAddress)
    (steps : List QueryStep) : sinceDropped (steps ++ [step]) = sinceDropped steps ++ [step] := by
  rw [sinceDropped, List.rtakeWhile_concat, if_pos (by simpa using keeps), sinceDropped]

theorem sinceDropped_concat_noStreetAddress (steps : List QueryStep) :
    sinceDropped (steps ++ [.noStreetAddress]) = [] := by
  rw [sinceDropped, List.rtakeWhile_concat, if_neg (by simp)]

theorem street?_of_not_opens (step : QueryStep) (other : step.opensStreetAddress = false) :
    step.street? = none := by
  cases step with
  | street name => cases other
  | _ => rfl

theorem building?_of_not_opens (step : QueryStep) (other : step.opensStreetAddress = false) :
    step.building? = none := by
  cases step with
  | building number subdivision => cases other
  | _ => rfl

end QueryStep

open QueryStep

/-- The street address that steps make of nothing, as long as none of them drops it. -/
def StreetAddress.ofSteps? (steps : List QueryStep) : Option StreetAddress :=
  if steps.any opensStreetAddress then
    some ⟨steps.filterMap street?, lastGiven? building? steps⟩
  else none

theorem StreetAddress.ofSteps?_eq_none_iff {steps : List QueryStep} :
    ofSteps? steps = none ↔ ∀ step ∈ steps, step.opensStreetAddress = false := by
  simp [ofSteps?]

theorem StreetAddress.ofSteps?_eq_some_iff {steps : List QueryStep} {address : StreetAddress} :
    ofSteps? steps = some address ↔ (∃ step ∈ steps, step.opensStreetAddress = true) ∧
      address = ⟨steps.filterMap street?, lastGiven? building? steps⟩ := by
  rw [ofSteps?, ← List.any_eq_true]
  split
  · next opened => simp [opened, eq_comm]
  · next unopened => simp [unopened]

theorem StreetAddress.ofSteps?_concat_of_opens {steps : List QueryStep} {step : QueryStep}
    (opens : step.opensStreetAddress = true) :
    ofSteps? (steps ++ [step]) =
      some ⟨(steps ++ [step]).filterMap street?, lastGiven? building? (steps ++ [step])⟩ :=
  ofSteps?_eq_some_iff.mpr ⟨⟨step, by simp, opens⟩, rfl⟩

theorem StreetAddress.ofSteps?_concat_of_not_opens {steps : List QueryStep} {step : QueryStep}
    (other : step.opensStreetAddress = false) : ofSteps? (steps ++ [step]) = ofSteps? steps := by
  simp [ofSteps?, other, street?_of_not_opens step other, building?_of_not_opens step other]

theorem StreetAddress.getD_ofSteps? (steps : List QueryStep) :
    (ofSteps? steps).getD {} = ⟨steps.filterMap street?, lastGiven? building? steps⟩ := by
  cases made : ofSteps? steps with
  | some address => exact (ofSteps?_eq_some_iff.mp made).2
  | none =>
    have unopened := ofSteps?_eq_none_iff.mp made
    have streets : steps.filterMap street? = [] := List.filterMap_eq_nil_iff.mpr
      fun step member => street?_of_not_opens step (unopened step member)
    have building : lastGiven? building? steps = none := lastGiven?_eq_none_iff.mpr
      fun step member => building?_of_not_opens step (unopened step member)
    rw [streets, building]
    rfl

namespace AddressQuery

theorem assemble_concat (steps : List QueryStep) (step : QueryStep) :
    assemble (steps ++ [step]) = (assemble steps).apply step :=
  List.foldl_concat ..

theorem assemble_append_cons (before : List QueryStep) (step : QueryStep)
    (after : List QueryStep) :
    assemble (before ++ step :: after) = after.foldl apply ((assemble before).apply step) := by
  rw [assemble, List.foldl_append, List.foldl_cons, assemble]

/-! ## One step -/

variable (query : AddressQuery)

theorem countryCode_apply (step : QueryStep) :
    (query.apply step).countryCode = step.country?.getD query.countryCode := by
  cases step <;> rfl

theorem freeForm_apply (step : QueryStep) :
    (query.apply step).freeForm = step.freeForm?.or query.freeForm := by
  cases step <;> rfl

theorem postalCode_apply (step : QueryStep) :
    (query.apply step).postalCode = step.postalCode?.or query.postalCode := by
  cases step <;> rfl

theorem places_apply (step : QueryStep) :
    (query.apply step).places = query.places ++ step.place?.toList := by
  cases step <;> simp [apply, addPlace, place?]

theorem streetAddress_apply {query : AddressQuery} {steps : List QueryStep} {step : QueryStep}
    (keeps : step ≠ .noStreetAddress)
    (made : query.streetAddress = StreetAddress.ofSteps? steps) :
    (query.apply step).streetAddress = StreetAddress.ofSteps? (steps ++ [step]) := by
  have opened : query.openStreetAddress =
      ⟨steps.filterMap street?, lastGiven? building? steps⟩ := by
    rw [openStreetAddress, made, StreetAddress.getD_ofSteps?]
  cases step with
  | street name =>
    rw [StreetAddress.ofSteps?_concat_of_opens rfl]
    simp [apply, opened, street?, building?]
  | building number subdivision =>
    rw [StreetAddress.ofSteps?_concat_of_opens rfl]
    simp [apply, opened, street?, building?]
  | noStreetAddress => exact absurd rfl keeps
  | _ =>
    rw [StreetAddress.ofSteps?_concat_of_not_opens rfl]
    exact made

theorem apply_comm {first second : QueryStep} (different : first.part ≠ second.part) :
    (query.apply first).apply second = (query.apply second).apply first := by
  cases first <;> cases second <;> first | rfl | exact absurd rfl different

theorem apply_noStreetAddress {step : QueryStep} (concerned : step.part = .streetAddress) :
    (query.apply step).apply .noStreetAddress = query.apply .noStreetAddress := by
  cases step with
  | street | building | noStreetAddress => rfl
  | _ => cases concerned

/-! ## All steps -/

theorem streetAddress_assemble (steps : List QueryStep) :
    (assemble steps).streetAddress = StreetAddress.ofSteps? (sinceDropped steps) := by
  induction steps using List.reverseRecOn with
  | nil => rfl
  | append_singleton steps step ih =>
    rw [assemble_concat]
    by_cases drops : step = .noStreetAddress
    · rw [drops, sinceDropped_concat_noStreetAddress]
      rfl
    · rw [sinceDropped_concat drops]
      exact streetAddress_apply drops ih

theorem apply_noStreetAddress_assemble (steps : List QueryStep) :
    (assemble steps).apply .noStreetAddress =
      assemble (steps.filter (·.part ≠ .streetAddress)) := by
  induction steps using List.reverseRecOn with
  | nil => rfl
  | append_singleton steps step ih =>
    rw [assemble_concat, List.filter_append]
    by_cases concerned : step.part = .streetAddress
    · simpa [concerned, apply_noStreetAddress] using ih
    · rw [apply_comm _ concerned, ih, List.filter_singleton]
      simp [concerned, assemble_concat]

/-- A query as a list of steps makes it: each part by the steps that concern it. -/
structure MadeBy (steps : List QueryStep) (query : AddressQuery) : Prop where
  country : query.countryCode = (lastGiven? country? steps).getD "IT"
  freeForm : query.freeForm = lastGiven? freeForm? steps
  postalCode : query.postalCode = lastGiven? postalCode? steps
  places : query.places = steps.filterMap place?
  noStreetAddress : query.streetAddress = none ↔
    ∀ step ∈ sinceDropped steps, step.opensStreetAddress = false
  streetAddress : ∀ address, query.streetAddress = some address →
    address.streets = (sinceDropped steps).filterMap street? ∧
      address.building = lastGiven? building? (sinceDropped steps)

theorem madeBy_assemble (steps : List QueryStep) : (assemble steps).MadeBy steps where
  country := foldl_replaced country? countryCode countryCode_apply start steps
  freeForm := foldl_filled freeForm? AddressQuery.freeForm freeForm_apply rfl steps
  postalCode := foldl_filled postalCode? AddressQuery.postalCode postalCode_apply rfl steps
  places := foldl_appended place? AddressQuery.places places_apply start steps
  noStreetAddress := by rw [streetAddress_assemble, StreetAddress.ofSteps?_eq_none_iff]
  streetAddress := by
    intro address made
    rw [streetAddress_assemble] at made
    rw [(StreetAddress.ofSteps?_eq_some_iff.mp made).2]
    exact ⟨rfl, rfl⟩

/-- Every part of a query is made by the steps that concern it, so that neighbours that concern
different parts can be swapped.  Whatever steps made a street address that is dropped, the query
is the same without them, and without the step that drops it. -/
theorem assemble_partwise :
    (∀ steps, (assemble steps).MadeBy steps) ∧
    (∀ before after first second, first.part ≠ second.part →
      assemble (before ++ first :: second :: after) =
        assemble (before ++ second :: first :: after) ∧
      (assemble (before ++ first :: second :: after)).validate =
        (assemble (before ++ second :: first :: after)).validate) ∧
    ∀ before after, assemble (before ++ .noStreetAddress :: after) =
      assemble (before.filter (·.part ≠ .streetAddress) ++ after) := by
  refine ⟨madeBy_assemble, ?_, ?_⟩
  · intro before after first second different
    have swapped : assemble (before ++ first :: second :: after) =
        assemble (before ++ second :: first :: after) := by
      rw [assemble_append_cons, assemble_append_cons, List.foldl_cons, List.foldl_cons,
        apply_comm _ different]
    exact ⟨swapped, by rw [swapped]⟩
  · intro before after
    rw [assemble_append_cons, apply_noStreetAddress_assemble, assemble, assemble,
      List.foldl_append]

/-- A street that is given anew, before the municipality or behind it. -/
theorem assemble_partwise_secondThought :
    let second : QueryStep := .street "Via Roma"
    let first : QueryStep := .municipality "Firenze"
    let before : List QueryStep := [.street "Via Pisa", .building "3" none, .noStreetAddress]
    let after : List QueryStep := [.building "12" (some "B"), .province "FI"]
    first.part ≠ second.part ∧
      assemble (before ++ first :: second :: after) =
        assemble (before ++ second :: first :: after) ∧
      (assemble (before ++ first :: second :: after)).validate =
        .ok ⟨"Via Roma", some "12/B", "Firenze", some "FI", none⟩ := by
  intro second first before after
  have different : first.part ≠ second.part := by decide
  obtain ⟨same, alike⟩ := assemble_partwise.2.1 before after first second different
  have accepted : (assemble (before ++ second :: first :: after)).validate =
      .ok ⟨"Via Roma", some "12/B", "Firenze", some "FI", none⟩ := by
    decide +kernel
  exact ⟨different, same, alike.trans accepted⟩

end AddressQuery

end Geocoding
