import Geocoding.Proofs.Batch.Scripted

/-!
# Batches put together

Where every bind call succeeds, one batch over the addresses of two does what the
two do in turn.  The outcome, the questions and the answers that are left are the
same; the only difference is that a batch has a binding of its own, which takes a
bind call.
-/

namespace Geocoding

def BatchResult.append (first second : BatchResult) : BatchResult :=
  ⟨first.results ++ second.results⟩

namespace Script

def geocode (script : Script) (region : String) (addresses : List AddressQuery) :
    Except Failure BatchResult × Script :=
  (service.geocode region addresses).runFrom script

/-- What several batches come to in turn, each of which is run against the script
that the one before has left.  The first failure ends the series. -/
def geocodeInTurn (region : String) : Script → List (List AddressQuery) →
    Except Failure BatchResult × Script
  | script, [] => (.ok ⟨[]⟩, script)
  | script, addresses :: rest =>
    match script.geocode region addresses with
    | (.error failure, after) => (.error failure, after)
    | (.ok result, after) => (geocodeInTurn region after rest).map (Except.map result.append) id

/-- Every bind call to come succeeds. -/
def Bindable (script : Script) : Prop :=
  ∀ outcome ∈ script.binds, outcome = none

instance (script : Script) : Decidable script.Bindable :=
  inferInstanceAs (Decidable (∀ outcome ∈ script.binds, outcome = none))

def withoutBinds (script : Script) : Script :=
  script.withBinds [] 0

variable {script : Script} {region : String}

theorem geocode_eq (script : Script) (region : String) (addresses : List AddressQuery) :
    script.geocode region addresses =
      (service.runFrom (fun _ => false) region ⟨none, script⟩ addresses).map (Except.map .mk) id :=
  Service.geocodeUnlessCancelled_runFrom ..

theorem Bindable.bind_eq (bindable : script.Bindable) :
    script.bind = (.ok (), script.withBinds script.binds.tail (script.bindCalls + 1)) := by
  unfold Bindable at bindable
  rcases found : script.binds with _ | ⟨outcome, rest⟩
  · simp [bind, found, withBinds]
  · obtain rfl := bindable outcome (by simp [found])
    simp [bind, found, withBinds]

theorem Bindable.of_bindsBy {last : Script} {count : Nat} (bindable : script.Bindable)
    (binds : script.BindsBy count last) : last.Bindable := by
  intro outcome found
  rw [binds.binds_eq] at found
  exact bindable outcome (List.mem_of_mem_drop found)

theorem overlooksBinds_false : OverlooksBinds fun _ => false :=
  fun _ _ _ => rfl

theorem bindsBy_geocode (script : Script) (region : String) (addresses : List AddressQuery) :
    script.BindsBy (callsToBind false addresses) (script.geocode region addresses).2 := by
  rw [geocode_eq]
  exact bindsBy_runFrom_unbound overlooksBinds_false region script addresses

theorem runFrom_withoutBinds (script : Script) (region : String) (addresses : List AddressQuery) :
    service.runFrom (fun _ => false) region ⟨some (), script.withoutBinds⟩ addresses =
      (service.runFrom (fun _ => false) region ⟨some (), script⟩ addresses).map id
        withoutBinds :=
  let forgetful : service.Projection (fun _ => false) service (fun _ => false) :=
    ignoringBinds overlooksBinds_false [] 0
  forgetful.runFrom_some region () script addresses

/-- Having the binding already makes no difference but for the bind call saved. -/
theorem Bindable.runFrom_unbound (bindable : script.Bindable) (region : String)
    (binding : Option Unit) (addresses : List AddressQuery) :
    (service.runFrom (fun _ => false) region ⟨none, script⟩ addresses).map id withoutBinds =
      (service.runFrom (fun _ => false) region ⟨binding, script⟩ addresses).map id
        withoutBinds := by
  rcases binding with _ | _
  · rfl
  cases addresses with
  | nil => rfl
  | cons query rest =>
    cases accepted : query.question with
    | error error =>
      rw [Service.runFrom_cons, Service.runFrom_cons, accepted]
    | ok request =>
      have called : service.bind script = _ := bindable.bind_eq
      have start : service.runFrom (fun _ => false) region ⟨none, script⟩ (query :: rest) =
          service.runFrom (fun _ => false) region ⟨some (), script.bind.2⟩ (query :: rest) := by
        simp [Service.runFrom_cons, accepted, Service.obtain_none, called, bindable.bind_eq]
      have forgotten : script.bind.2.withoutBinds = script.withoutBinds := by
        rw [bindable.bind_eq]
        rfl
      rw [start, ← runFrom_withoutBinds, forgotten, runFrom_withoutBinds]

theorem geocode_append_of_error {first : List AddressQuery} {failure : Failure}
    (failed : (script.geocode region first).1 = .error failure) (second : List AddressQuery) :
    script.geocode region (first ++ second) = script.geocode region first := by
  obtain ⟨requests, outcome, last, course⟩ :=
    service.exists_course (fun _ => false) region ⟨none, script⟩ first
  rw [geocode_eq, course.runFrom_eq] at failed
  obtain ⟨_, _, _, rfl, _⟩ | ⟨done, query, rest, _, _, _, _, _, rfl, _, advances, stops, _⟩ :=
    course.cases
  · cases failed
  · rw [geocode_eq, geocode_eq, List.append_assoc, List.cons_append, advances.runFrom_append,
      advances.runFrom_append, stops.runFrom_cons, stops.runFrom_cons]

theorem callsToBind_append {first last : Stage Unit Script} {done : List AddressQuery}
    {requests : List NormalizationRequest} {sets : List ResultSet}
    (advances : service.Advances (fun _ => false) region first done requests sets last)
    (rest : List AddressQuery) :
    callsToBind false (done ++ rest) = max (callsToBind false done) (callsToBind false rest) := by
  cases advances with
  | nil => simp [callsToBind]
  | @cons _ _ _ query behind _ _ _ _ step others =>
    obtain ⟨_, accepted, _, _, _⟩ := step
    have taken (others : List AddressQuery) : callsToBind false (query :: others) = 1 := by
      simp [callsToBind, AddressQuery.isOk_validate_iff.mpr ⟨_, accepted⟩]
    rw [List.cons_append, taken, taken, Nat.max_eq_left (callsToBind_le_one false rest)]

theorem Bindable.geocode_append_of_ok (bindable : script.Bindable) {first : List AddressQuery}
    {result : BatchResult} (succeeded : (script.geocode region first).1 = .ok result)
    (second : List AddressQuery) :
    (script.geocode region (first ++ second)).map id withoutBinds =
        ((script.geocode region first).2.geocode region second).map
          (Except.map result.append) withoutBinds ∧
      callsToBind false (first ++ second) =
        max (callsToBind false first) (callsToBind false second) := by
  obtain ⟨requests, outcome, last, course⟩ :=
    service.exists_course (fun _ => false) region ⟨none, script⟩ first
  have binds := script.bindsBy_geocode region first
  rw [geocode_eq, course.runFrom_eq] at succeeded binds
  obtain ⟨sets, final, advances, rfl, rfl⟩ | ⟨_, _, _, _, _, _, _, _, _, _, _, _, rfl⟩ :=
    course.cases
  · refine ⟨?_, callsToBind_append advances second⟩
    obtain rfl : ⟨sets⟩ = result := Except.ok.inj succeeded
    have same :
        (service.runFrom (fun _ => false) region ⟨none, final.state⟩ second).map id withoutBinds =
          (service.runFrom (fun _ => false) region final second).map id withoutBinds :=
      (bindable.of_bindsBy binds).runFrom_unbound region final.binding second
    simp only [Prod.map, id_eq, Prod.mk.injEq] at same
    obtain ⟨outcome, forgotten⟩ := same
    rw [geocode_eq, geocode_eq, geocode_eq, course.runFrom_eq, advances.runFrom_append]
    refine Prod.ext ?_ forgotten.symm
    simp only [Prod.map, id_eq, Service.prepend, outcome]
    cases (service.runFrom (fun _ => false) region final second).1 <;> rfl
  · cases succeeded

/-- One batch does what its addresses do in any number of batches in turn.  Of the
bind calls of those it makes the first one only. -/
theorem Bindable.geocode_flatten (bindable : script.Bindable) (region : String)
    (batches : List (List AddressQuery)) :
    let whole := script.geocode region batches.flatten
    let inTurn := script.geocodeInTurn region batches
    whole.map id withoutBinds = inTurn.map id withoutBinds ∧
      ∃ calls, script.BindsBy calls inTurn.2 ∧ script.BindsBy (min calls 1) whole.2 := by
  induction batches generalizing script with
  | nil => exact ⟨rfl, 0, .refl script, .refl script⟩
  | cons addresses rest ih =>
    have frontBinds := script.bindsBy_geocode region addresses
    have frontOnce := callsToBind_le_one false addresses
    simp only [List.flatten_cons, geocodeInTurn]
    rcases front : script.geocode region addresses with ⟨failure | result, after⟩
    · rw [geocode_append_of_error (congrArg Prod.fst front), front]
      rw [front] at frontBinds
      exact ⟨rfl, _, frontBinds, by rwa [Nat.min_eq_left frontOnce]⟩
    · obtain ⟨same, calls⟩ :=
        bindable.geocode_append_of_ok (congrArg Prod.fst front) rest.flatten
      rw [front] at same frontBinds
      obtain ⟨same', others, binds, wholeBinds⟩ := ih (bindable.of_bindsBy frontBinds)
      refine ⟨?_, _, frontBinds.trans binds, ?_⟩
      · exact same.trans (congrArg (Prod.map (Except.map result.append) id) same')
      · have once := wholeBinds.unique (after.bindsBy_geocode region rest.flatten)
        have total := script.bindsBy_geocode region (addresses ++ rest.flatten)
        have sum : callsToBind false (addresses ++ rest.flatten) =
            min (callsToBind false addresses + others) 1 := by omega
        rwa [sum] at total

theorem geocodeUnlessCancelled_of_never (unasked : script.cancelled = false)
    (unscheduled : script.cancelAfter = none) (region : String)
    (addresses : List AddressQuery) :
    (service.geocodeUnlessCancelled Script.cancelled region addresses).runFrom script =
      script.geocode region addresses := by
  obtain ⟨requests, outcome, last, course⟩ :=
    service.exists_course Script.cancelled region ⟨none, script⟩ addresses
  have uncut : outcome ≠ .error .cancelled := by
    rintro rfl
    obtain ⟨_, _, _, finished, _⟩ | ⟨_, _, _, earlier, _, _, middle, _, _, _, advances, stops,
      outcome⟩ := course.cases
    · cases finished
    · cases outcome
      obtain rfl := eq_stageAfter_of_advances advances
      cases stops with
      | cancelled stopped =>
        rw [(script.movedBy_stageAfter earlier).cancelled_eq, stopsAfter, unasked,
          unscheduled] at stopped
        cases stopped
  rw [Service.geocodeUnlessCancelled_runFrom, geocode_eq, course.runFrom_eq,
    (course.uncancelled uncut).runFrom_eq]

theorem unasked_geocode (unasked : script.cancelled = false)
    (unscheduled : script.cancelAfter = none) (region : String)
    (addresses : List AddressQuery) :
    (script.geocode region addresses).2.cancelled = false ∧
      (script.geocode region addresses).2.cancelAfter = none := by
  obtain ⟨requests, outcome, last, course⟩ :=
    service.exists_course (fun _ => false) region ⟨none, script⟩ addresses
  have moved := movedBy_of_course course
  rw [geocode_eq, course.runFrom_eq]
  constructor
  · change last.cancelled = false
    rw [moved.cancelled_eq, stopsAfter, unasked, unscheduled]
    rfl
  · exact moved.cancelAfter_eq.trans unscheduled

/-- Geocoding the addresses of two batches in one comes to the same as geocoding the
first ones and then, if that has succeeded, the others against the script that is
left.  Only the bind call of the second batch is saved.  So a batch of any size does
what its addresses do one by one, up to the first that fails.  A caller who may ask to
stop, but never does, makes no difference to any of this. -/
theorem geocode_append (script : Script) (bindable : script.Bindable) (region : String) :
    (∀ first second,
      let front := script.geocode region first
      let back := front.2.geocode region second
      let whole := script.geocode region (first ++ second)
      (∀ failure, front.1 = .error failure → whole = front) ∧
      (∀ result, front.1 = .ok result →
        whole.map id withoutBinds = back.map (Except.map result.append) withoutBinds ∧
          ∃ earlier later, script.BindsBy earlier front.2 ∧ front.2.BindsBy later back.2 ∧
            script.BindsBy (max earlier later) whole.2)) ∧
    (∀ addresses : List AddressQuery,
      let whole := script.geocode region addresses
      let inTurn := script.geocodeInTurn region (addresses.map ([·]))
      whole.map id withoutBinds = inTurn.map id withoutBinds ∧
        ∃ calls, script.BindsBy calls inTurn.2 ∧ script.BindsBy (min calls 1) whole.2) ∧
    (script.cancelled = false → script.cancelAfter = none → ∀ addresses,
      let run := script.geocode region addresses
      (service.geocodeUnlessCancelled Script.cancelled region addresses).runFrom script = run ∧
        run.2.cancelled = false ∧ run.2.cancelAfter = none) := by
  refine ⟨fun first second => ⟨?_, ?_⟩, fun addresses => ?_, ?_⟩
  · intro failure failed
    exact geocode_append_of_error failed second
  · intro result succeeded
    obtain ⟨same, calls⟩ := bindable.geocode_append_of_ok succeeded second
    refine ⟨same, _, _, bindsBy_geocode _ region first, bindsBy_geocode _ region second, ?_⟩
    rw [← calls]
    exact bindsBy_geocode script region (first ++ second)
  · have singles : (addresses.map ([·])).flatten = addresses :=
      List.flatMap_singleton' addresses
    have inTurn := bindable.geocode_flatten region (addresses.map ([·]))
    rwa [singles] at inTurn
  · intro unasked unscheduled addresses
    exact ⟨geocodeUnlessCancelled_of_never unasked unscheduled region addresses,
      unasked_geocode unasked unscheduled region addresses⟩

theorem geocode_append_two_answers :
    let query : AddressQuery := {
      countryCode := "IT"
      streetAddress := some { streets := ["Via Roma"] }
      places := [⟨.municipality, "Firenze"⟩] }
    let answer : RawAnswer := { responseCode := "1" }
    let script : Script := { binds := [none, none], answers := [.ok answer, .ok answer] }
    let front := script.geocode "Toscana" [query]
    script.Bindable ∧ front.1 = .ok ⟨[.empty]⟩ ∧
      (script.geocode "Toscana" ([query] ++ [query])).map id withoutBinds =
        (front.2.geocode "Toscana" [query]).map (Except.map (BatchResult.append ⟨[.empty]⟩))
          withoutBinds := by
  intro query answer script front
  have bindable : script.Bindable := by decide +revert
  have found : front.1 = .ok ⟨[.empty]⟩ := by decide +revert +kernel
  obtain ⟨_, joined⟩ := (geocode_append script bindable "Toscana").1 [query] [query]
  exact ⟨bindable, found, (joined _ found).1⟩

end Script

end Geocoding
