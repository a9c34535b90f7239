import Geocoding.Proofs.Assembly.Steps
import Geocoding.Proofs.Interpretation.Outcome

/-!
# What an assembled answer is read as

A step that lists an address and one that reports a count both open the ambiguous section and
both set its count, so that the last of them decides: a reported count stands as it was given,
and an address makes the count that of all addresses listed.  Hence only a count that is reported
behind the last address can be wrong.  All other steps set a section of their own.
-/

namespace Geocoding

namespace AnswerStep

def code? : AnswerStep → Option String
  | .responseCode code => some code
  | _ => none

def recognized? : AnswerStep → Option RecognizedAddress
  | .recognized address => some address
  | _ => none

def item? : AnswerStep → Option AmbiguousItem
  | .ambiguousItem item => some item
  | _ => none

def locality? : AnswerStep → Option NormalizedLocality
  | .locality found => some found
  | _ => none

def isAmbiguous : AnswerStep → Bool
  | .ambiguousItem _ | .reportedCount _ => true
  | _ => false

/-- The count that a step leaves if it is the last one about the ambiguous section, when so many
addresses are listed in all. -/
def count? (listed : Nat) : AnswerStep → Option Nat
  | .ambiguousItem _ => some listed
  | .reportedCount count => some count
  | _ => none

theorem item?_of_not_isAmbiguous (step : AnswerStep) (other : step.isAmbiguous = false) :
    step.item? = none := by
  cases step with
  | ambiguousItem item => cases other
  | _ => rfl

theorem count?_eq_none_iff (listed : Nat) (step : AnswerStep) :
    step.count? listed = none ↔ step.isAmbiguous = false := by
  cases step <;> simp [count?, isAmbiguous]

def leftCount? (steps : List AnswerStep) : Option Nat :=
  lastGiven? (count? (steps.filterMap item?).length) steps

/-- The last count that is reported, provided that no address is listed behind it. -/
def FinalCount (steps : List AnswerStep) (count : Nat) : Prop :=
  ∃ before after, steps = before ++ .reportedCount count :: after ∧
    ∀ later ∈ after, later.isAmbiguous = false

variable {steps : List AnswerStep}

theorem leftCount?_eq_none_iff :
    leftCount? steps = none ↔ ∀ step ∈ steps, step.isAmbiguous = false := by
  simp only [leftCount?, lastGiven?_eq_none_iff, count?_eq_none_iff]

theorem finalCount_iff {count : Nat} (different : count ≠ (steps.filterMap item?).length) :
    FinalCount steps count ↔ leftCount? steps = some count := by
  simp only [FinalCount, leftCount?, lastGiven?_eq_some_iff, count?_eq_none_iff]
  constructor
  · rintro ⟨before, after, split, ended⟩
    exact ⟨before, .reportedCount count, after, split, rfl, ended⟩
  · rintro ⟨before, step, after, split, leaves, ended⟩
    cases step with
    | reportedCount reported =>
      cases leaves
      exact ⟨before, after, split, ended⟩
    | ambiguousItem item => exact absurd (Option.some.inj leaves).symm different
    | responseCode | recognized | locality => cases leaves

theorem leftCount?_eq_listed_iff :
    leftCount? steps = some (steps.filterMap item?).length ↔
      (∃ step ∈ steps, step.isAmbiguous = true) ∧
        ∀ count, FinalCount steps count → count = (steps.filterMap item?).length := by
  have opened : (∃ step ∈ steps, step.isAmbiguous = true) ↔ leftCount? steps ≠ none := by
    simp [leftCount?_eq_none_iff]
  rw [opened]
  constructor
  · intro left
    refine ⟨by simp [left], ?_⟩
    intro count final
    by_contra different
    rw [(finalCount_iff different).mp final] at left
    exact different (Option.some.inj left)
  · rintro ⟨isOpened, agrees⟩
    obtain ⟨count, left⟩ := Option.ne_none_iff_exists'.mp isOpened
    rw [left, Option.some_inj]
    by_contra different
    exact different (agrees count ((finalCount_iff different).mpr left))

theorem filterMap_item?_filter (steps : List AnswerStep) :
    (steps.filter isAmbiguous).filterMap item? = steps.filterMap item? :=
  filterMap_filter_of_silent item?_of_not_isAmbiguous steps

theorem leftCount?_filter (steps : List AnswerStep) :
    leftCount? (steps.filter isAmbiguous) = leftCount? steps := by
  rw [leftCount?, leftCount?, filterMap_item?_filter, lastGiven?, lastGiven?,
    filterMap_filter_of_silent fun step => (count?_eq_none_iff _ step).mpr]

end AnswerStep

namespace RawAnswer

open AnswerStep

/-! ## The sections of an assembled answer -/

theorem assemble_concat (steps : List AnswerStep) (step : AnswerStep) :
    assemble (steps ++ [step]) = (assemble steps).apply step :=
  List.foldl_concat ..

theorem responseCode_apply (answer : RawAnswer) (step : AnswerStep) :
    (answer.apply step).responseCode = step.code?.getD answer.responseCode := by
  cases step <;> rfl

theorem recognizedAddress_apply (answer : RawAnswer) (step : AnswerStep) :
    (answer.apply step).recognizedAddress = step.recognized?.or answer.recognizedAddress := by
  cases step <;> rfl

theorem normalizedLocality_apply (answer : RawAnswer) (step : AnswerStep) :
    (answer.apply step).normalizedLocality = step.locality?.or answer.normalizedLocality := by
  cases step <;> rfl

theorem items_apply (answer : RawAnswer) (step : AnswerStep) :
    (answer.apply step).openAmbiguousAddress.items =
      answer.openAmbiguousAddress.items ++ step.item?.toList := by
  cases step <;> simp [apply, openAmbiguousAddress, item?]

theorem responseCode_assemble (steps : List AnswerStep) :
    (assemble steps).responseCode = (lastGiven? code? steps).getD "" :=
  foldl_replaced code? responseCode responseCode_apply {} steps

theorem recognizedAddress_assemble (steps : List AnswerStep) :
    (assemble steps).recognizedAddress = lastGiven? recognized? steps :=
  foldl_filled recognized? recognizedAddress recognizedAddress_apply rfl steps

theorem normalizedLocality_assemble (steps : List AnswerStep) :
    (assemble steps).normalizedLocality = lastGiven? locality? steps :=
  foldl_filled locality? normalizedLocality normalizedLocality_apply rfl steps

theorem items_assemble (steps : List AnswerStep) :
    (assemble steps).openAmbiguousAddress.items = steps.filterMap item? :=
  foldl_appended item? (fun answer : RawAnswer => answer.openAmbiguousAddress.items) items_apply
    {} steps

theorem ambiguousAddress_assemble (steps : List AnswerStep) :
    (assemble steps).ambiguousAddress =
      (leftCount? steps).map fun count => ⟨count, steps.filterMap item?⟩ := by
  induction steps using List.reverseRecOn with
  | nil => rfl
  | append_singleton steps step ih =>
    rw [assemble_concat, leftCount?]
    cases step with
    | ambiguousItem item => simp [apply, items_assemble, item?, count?]
    | reportedCount count => simp [apply, items_assemble, item?, count?]
    | responseCode | recognized | locality =>
      simpa [apply, List.filterMap_cons, item?, count?, leftCount?] using ih

example (first second : AmbiguousItem) :
    (assemble [.ambiguousItem first, .reportedCount 5, .ambiguousItem second]).ambiguousAddress =
      some ⟨2, [first, second]⟩ :=
  rfl

/-! ## Reading the ambiguous section -/

section Reading

variable (steps : List AnswerStep) (region : String)

theorem interpretAs_assemble :
    (assemble steps).interpretAs region .ambiguousAddress =
      (leftCount? steps).elim (.error (.missingAnswerData .ambiguousAddress "ambiguous address"))
        fun count => AmbiguousAddress.resultSet ⟨count, steps.filterMap item?⟩ := by
  rw [interpretAs, ambiguousAddress_assemble]
  cases leftCount? steps <;> rfl

theorem interpretAs_assemble_eq_missing_iff (code : ResponseCode) (part : String) :
    (assemble steps).interpretAs region .ambiguousAddress =
        .error (.missingAnswerData code part) ↔
      (∀ step ∈ steps, step.isAmbiguous = false) ∧
        code = .ambiguousAddress ∧ part = "ambiguous address" := by
  rw [interpretAs_assemble, ← leftCount?_eq_none_iff]
  cases left : leftCount? steps with
  | none => simp [eq_comm]
  | some count => simp [AmbiguousAddress.resultSet_eq_error_iff]

theorem interpretAs_assemble_eq_mismatch_iff (reported actual : Nat) :
    (assemble steps).interpretAs region .ambiguousAddress =
        .error (.candidateCountMismatch reported actual) ↔
      FinalCount steps reported ∧ actual = (steps.filterMap item?).length ∧
        reported ≠ actual := by
  rw [interpretAs_assemble]
  constructor
  · intro refused
    cases left : leftCount? steps with
    | none => simp [left] at refused
    | some count =>
      rw [left] at refused
      obtain ⟨different, same⟩ := AmbiguousAddress.resultSet_eq_error_iff.mp refused
      cases same
      exact ⟨(finalCount_iff different).mpr left, rfl, different⟩
  · rintro ⟨final, rfl, different⟩
    rw [(finalCount_iff different).mp final]
    exact AmbiguousAddress.resultSet_eq_error_iff.mpr ⟨different, rfl⟩

theorem interpretAs_assemble_eq_ok_iff (set : ResultSet) :
    (assemble steps).interpretAs region .ambiguousAddress = .ok set ↔
      (∃ step ∈ steps, step.isAmbiguous = true) ∧
        (∀ count, FinalCount steps count → count = (steps.filterMap item?).length) ∧
        set = ⟨(steps.filterMap item?).length,
          (steps.filterMap item?).map AmbiguousItem.candidate⟩ := by
  rw [interpretAs_assemble, ← and_assoc, ← leftCount?_eq_listed_iff]
  cases left : leftCount? steps with
  | none => simp
  | some count =>
    rw [Option.elim_some, AmbiguousAddress.resultSet_eq_ok_iff, Option.some_inj]
    apply and_congr_right
    intro same
    rw [same]

/-- Steps about other sections have no say in how the ambiguous section is read. -/
theorem interpretAs_assemble_filter :
    (assemble (steps.filter isAmbiguous)).interpretAs region .ambiguousAddress =
      (assemble steps).interpretAs region .ambiguousAddress := by
  rw [interpretAs_assemble, interpretAs_assemble, filterMap_item?_filter, leftCount?_filter]

end Reading

/-- An assembled answer that is read as ambiguous lacks its section if no step opens it, and has
a wrong count if one is reported behind all addresses and differs from their number.  Otherwise
there is a candidate for every address listed, in this order and at its position.  Other steps
have no part in this, and the last of each kind decides the part of the answer it is about. -/
theorem interpretAs_assemble_ambiguous (steps : List AnswerStep) (region : String) :
    let answer := assemble steps
    let outcome := answer.interpretAs region .ambiguousAddress
    let items := steps.filterMap item?
    (∀ code part, outcome = .error (.missingAnswerData code part) ↔
      (∀ step ∈ steps, step.isAmbiguous = false) ∧
        code = .ambiguousAddress ∧ part = "ambiguous address") ∧
    (∀ reported actual, outcome = .error (.candidateCountMismatch reported actual) ↔
      FinalCount steps reported ∧ actual = items.length ∧ reported ≠ actual) ∧
    (∀ set, outcome = .ok set ↔
      (∃ step ∈ steps, step.isAmbiguous = true) ∧
        (∀ count, FinalCount steps count → count = items.length) ∧
        set.addressCount = items.length ∧ set.candidates = items.map AmbiguousItem.candidate ∧
        set.candidates.map Candidate.position = items.map AmbiguousItem.position) ∧
    outcome = (assemble (steps.filter isAmbiguous)).interpretAs region .ambiguousAddress ∧
    answer.responseCode = (lastGiven? code? steps).getD "" ∧
    answer.recognizedAddress = lastGiven? recognized? steps ∧
    answer.normalizedLocality = lastGiven? locality? steps := by
  refine ⟨interpretAs_assemble_eq_missing_iff steps region,
    interpretAs_assemble_eq_mismatch_iff steps region, ?_,
    (interpretAs_assemble_filter steps region).symm, responseCode_assemble steps,
    recognizedAddress_assemble steps, normalizedLocality_assemble steps⟩
  intro set
  rw [interpretAs_assemble_eq_ok_iff]
  refine and_congr_right fun _ => and_congr_right fun _ => ?_
  constructor
  · rintro rfl
    exact ⟨rfl, rfl, by simp [AmbiguousItem.candidate]⟩
  · rintro ⟨count, candidates, _⟩
    cases set
    cases count
    cases candidates
    rfl

end RawAnswer

end Geocoding
