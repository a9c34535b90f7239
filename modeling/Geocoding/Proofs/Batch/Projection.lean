import Geocoding.Proofs.Batch.Course

/-!
# Services seen through a projection

A service may be looked at through a projection that forgets part of its state,
or part of its bindings.  Where the projection commutes with the questions, and
with the bind call if there is still one to come, it takes the course of a batch
to the course that the batch has on the other side.
-/

namespace Geocoding

namespace Service

open Attempt

variable {Binding State Token Image : Type}

/-- A projection of one service onto another that no question tells apart. -/
structure Projection (service : Service Binding State) (cancelled : State → Bool)
    (image : Service Token Image) (stopped : Image → Bool) where
  state : State → Image
  binding : Binding → Token
  ask_eq : ∀ made request before,
    image.ask (binding made) request (state before) =
      ((service.ask made request before).1, state (service.ask made request before).2)
  stopped_eq : ∀ before, stopped (state before) = cancelled before

namespace Projection

variable {service : Service Binding State} {cancelled : State → Bool} {region : String}
variable {image : Service Token Image} {stopped : Image → Bool}
variable (projection : service.Projection cancelled image stopped)

def stage (stage : Stage Binding State) : Stage Token Image :=
  ⟨stage.binding.map projection.binding, projection.state stage.state⟩

def BindsAlike (stage : Stage Binding State) : Prop :=
  stage.binding = none → image.bind (projection.state stage.state) =
    ((service.bind stage.state).1.map projection.binding,
      projection.state (service.bind stage.state).2)

variable {projection}

theorem bindsAlike_some (made : Binding) (before : State) :
    projection.BindsAlike ⟨some made, before⟩ :=
  fun unmade => absurd unmade (Option.some_ne_none made)

theorem obtain_stage {first : Stage Binding State} (alike : projection.BindsAlike first)
    {made : Binding} {ready : State}
    (bound : (service.obtain first.binding).runFrom first.state = (.ok made, ready)) :
    (image.obtain (projection.stage first).binding).runFrom (projection.stage first).state =
      (.ok (projection.binding made), projection.state ready) := by
  rcases first with ⟨_ | binding, before⟩
  · rw [obtain_none, Prod.mk.injEq] at bound
    obtain ⟨outcome, rfl⟩ := bound
    change (image.obtain none).runFrom (projection.state before) = _
    rw [obtain_none, alike rfl]
    cases called : (service.bind before).1 with
    | error error => simp [called] at outcome
    | ok binding =>
      rw [called] at outcome
      cases outcome
      rfl
  · cases bound
    rfl

theorem ask_of_eq {made : Binding} {request : NormalizationRequest} {ready last : State}
    {outcome : Except RemoteError RawAnswer}
    (answered : service.ask made request ready = (outcome, last)) :
    image.ask (projection.binding made) request (projection.state ready) =
      (outcome, projection.state last) := by
  rw [projection.ask_eq, answered]

theorem proceeds_stage {first : Stage Binding State}
    (proceeds : cancelled first.state = false) : stopped (projection.stage first).state = false :=
  (projection.stopped_eq first.state).trans proceeds

theorem geocodes {first second : Stage Binding State} {query : AddressQuery}
    {request : NormalizationRequest} {set : ResultSet} (alike : projection.BindsAlike first)
    (step : service.Geocodes cancelled region first query request set second) :
    image.Geocodes stopped region (projection.stage first) query request set
      (projection.stage second) := by
  obtain ⟨proceeds, accepted, bound, answered, interpreted⟩ := step
  exact .intro (proceeds_stage proceeds) accepted (obtain_stage alike bound) (ask_of_eq answered)
    interpreted

theorem bindsAlike_of_geocodes {first second : Stage Binding State} {query : AddressQuery}
    {request : NormalizationRequest} {set : ResultSet}
    (step : service.Geocodes cancelled region first query request set second) :
    projection.BindsAlike second := by
  cases step
  exact bindsAlike_some _ _

theorem advances {first last : Stage Binding State} {done : List AddressQuery}
    {requests : List NormalizationRequest} {sets : List ResultSet}
    (alike : projection.BindsAlike first)
    (steps : service.Advances cancelled region first done requests sets last) :
    image.Advances stopped region (projection.stage first) done requests sets
      (projection.stage last) := by
  induction steps with
  | nil => exact .nil
  | cons step others ih =>
    exact .cons (geocodes alike step) (ih (bindsAlike_of_geocodes step))

theorem bindsAlike_of_advances {first last : Stage Binding State} {done : List AddressQuery}
    {requests : List NormalizationRequest} {sets : List ResultSet}
    (alike : projection.BindsAlike first)
    (steps : service.Advances cancelled region first done requests sets last) :
    projection.BindsAlike last := by
  induction steps with
  | nil => exact alike
  | cons step others ih => exact ih (bindsAlike_of_geocodes step)

theorem stopsAt {first : Stage Binding State} {query : AddressQuery}
    {asked : List NormalizationRequest} {failure : Failure} {last : State}
    (alike : projection.BindsAlike first)
    (stops : service.StopsAt cancelled region first query asked failure last) :
    image.StopsAt stopped region (projection.stage first) query asked failure
      (projection.state last) := by
  cases stops with
  | cancelled wished => exact .cancelled ((projection.stopped_eq first.state).trans wished)
  | invalid proceeds refused => exact .invalid (proceeds_stage proceeds) refused
  | unbound proceeds accepted unmade failed =>
    refine .unbound (proceeds_stage proceeds) accepted (by simp [stage, unmade]) ?_
    change image.bind (projection.state first.state) = _
    rw [alike unmade, failed]
    rfl
  | unanswered proceeds accepted bound failed =>
    exact .unanswered (proceeds_stage proceeds) accepted (obtain_stage alike bound)
      (ask_of_eq failed)
  | uninterpreted proceeds accepted bound answered failed =>
    exact .uninterpreted (proceeds_stage proceeds) accepted (obtain_stage alike bound)
      (ask_of_eq answered) failed

/-- A batch takes the same course on either side, with the same questions. -/
theorem course {first : Stage Binding State} {addresses : List AddressQuery}
    {requests : List NormalizationRequest} {outcome : Except Failure (List ResultSet)}
    {last : State} (alike : projection.BindsAlike first)
    (taken : service.Course cancelled region first addresses requests outcome last) :
    image.Course stopped region (projection.stage first) addresses requests outcome
      (projection.state last) := by
  cases taken with
  | finished steps => exact .finished (advances alike steps)
  | stopped steps stops =>
    exact .stopped (advances alike steps) (stopsAt (bindsAlike_of_advances alike steps) stops)

theorem runFrom_stage {first : Stage Binding State} (alike : projection.BindsAlike first)
    (region : String) (addresses : List AddressQuery) :
    image.runFrom stopped region (projection.stage first) addresses =
      (service.runFrom cancelled region first addresses).map id projection.state := by
  obtain ⟨requests, outcome, last, taken⟩ :=
    service.exists_course cancelled region first addresses
  rw [(course alike taken).runFrom_eq, taken.runFrom_eq]
  rfl

theorem runFrom_some (projection : service.Projection cancelled image stopped) (region : String)
    (made : Binding) (before : State) (addresses : List AddressQuery) :
    image.runFrom stopped region ⟨some (projection.binding made), projection.state before⟩
        addresses =
      (service.runFrom cancelled region ⟨some made, before⟩ addresses).map id projection.state :=
  runFrom_stage (bindsAlike_some made before) region addresses

end Projection

end Service

end Geocoding
