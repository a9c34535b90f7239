import Mathlib.Data.List.Basic
import Mathlib.Data.List.Induction

/-!
# What a run of steps leaves behind

A value is assembled by steps, each of which acts on some part of it.  A part that steps
overwrite holds what the last of them gave, and a part that they add to holds what all of them
gave, in their order.  Either way the part is known from the steps alone, once it is known what
a single step does to it.
-/

namespace Geocoding

variable {Step State Value : Type*}

/-- What is given by the last of the steps that give anything. -/
def lastGiven? (given : Step → Option Value) (steps : List Step) : Option Value :=
  (steps.filterMap given).getLast?

variable {given : Step → Option Value}

@[simp]
theorem lastGiven?_nil : lastGiven? given [] = none :=
  rfl

@[simp]
theorem lastGiven?_concat (steps : List Step) (step : Step) :
    lastGiven? given (steps ++ [step]) = (given step).or (lastGiven? given steps) := by
  cases gives : given step <;> simp [lastGiven?, gives]

theorem lastGiven?_eq_none_iff {steps : List Step} :
    lastGiven? given steps = none ↔ ∀ step ∈ steps, given step = none := by
  rw [lastGiven?, List.getLast?_eq_none_iff, List.filterMap_eq_nil_iff]

theorem lastGiven?_eq_some_iff {steps : List Step} {value : Value} :
    lastGiven? given steps = some value ↔
      ∃ before step after, steps = before ++ step :: after ∧ given step = some value ∧
        ∀ later ∈ after, given later = none := by
  rw [lastGiven?, List.getLast?_eq_some_iff]
  constructor
  · rintro ⟨earlier, all⟩
    obtain ⟨front, back, rfl, -, single⟩ := List.filterMap_eq_append_iff.mp all
    obtain ⟨silent, step, after, rfl, -, gives, ended⟩ := List.filterMap_eq_cons_iff.mp single
    exact ⟨front ++ silent, step, after, by simp, gives, List.filterMap_eq_nil_iff.mp ended⟩
  · rintro ⟨before, step, after, rfl, gives, ended⟩
    refine ⟨before.filterMap given, ?_⟩
    simp [gives, List.filterMap_eq_nil_iff.mpr ended]

theorem filterMap_filter_of_silent {concerns : Step → Bool}
    (silent : ∀ step, concerns step = false → given step = none) (steps : List Step) :
    (steps.filter concerns).filterMap given = steps.filterMap given := by
  rw [List.filterMap_filter]
  congr
  funext step
  cases concerned : concerns step with
  | false => simp [silent step concerned]
  | true => simp

section Run

variable {apply : State → Step → State} (given : Step → Option Value)

theorem foldl_overwritten (part : State → Option Value)
    (each : ∀ state step, part (apply state step) = (given step).or (part state))
    (state : State) (steps : List Step) :
    part (steps.foldl apply state) = (lastGiven? given steps).or (part state) := by
  induction steps using List.reverseRecOn with
  | nil => rfl
  | append_singleton steps step ih =>
    rw [List.foldl_concat, each, ih, lastGiven?_concat, Option.or_assoc]

theorem foldl_filled (part : State → Option Value)
    (each : ∀ state step, part (apply state step) = (given step).or (part state))
    {state : State} (missing : part state = none) (steps : List Step) :
    part (steps.foldl apply state) = lastGiven? given steps := by
  rw [foldl_overwritten given part each, missing, Option.or_none]

theorem foldl_replaced (part : State → Value)
    (each : ∀ state step, part (apply state step) = (given step).getD (part state))
    (state : State) (steps : List Step) :
    part (steps.foldl apply state) = (lastGiven? given steps).getD (part state) := by
  have single (state : State) (step : Step) :
      some (part (apply state step)) = (given step).or (some (part state)) := by
    rw [each, Option.or_some]
  have overwritten := foldl_overwritten given (fun state => some (part state)) single state steps
  rw [Option.or_some] at overwritten
  exact Option.some.inj overwritten

theorem foldl_appended (part : State → List Value)
    (each : ∀ state step, part (apply state step) = part state ++ (given step).toList)
    (state : State) (steps : List Step) :
    part (steps.foldl apply state) = part state ++ steps.filterMap given := by
  induction steps using List.reverseRecOn with
  | nil => simp
  | append_singleton steps step ih =>
    rw [List.foldl_concat, each, ih, List.append_assoc, List.filterMap_append]
    cases gives : given step <;> simp [gives]

end Run

end Geocoding
