import Geocoding.Batch

/-!
# The course of a batch

A batch goes through its addresses from one stage to the next, a stage being the
binding made so far and the state of the service.  At each stage the next address
is either geocoded, which leads to another stage, or it stops the batch for good.

The file says once what either step takes.  A whole run is then a series of
geocoded addresses, followed by the end of the batch or by one address that stops
it.
-/

namespace Geocoding

namespace Attempt

variable {State Cause Result Other : Type}

def runFrom (attempt : Attempt State Result) (state : State) : Except Failure Result × State :=
  attempt.run.run state

@[simp]
theorem runFrom_pure (result : Result) (state : State) :
    runFrom (pure result) state = (.ok result, state) :=
  rfl

@[simp]
theorem runFrom_throw (failure : Failure) (state : State) :
    runFrom (throw failure : Attempt State Result) state = (.error failure, state) :=
  rfl

@[simp]
theorem runFrom_get (state : State) :
    (get : Attempt State State).runFrom state = (.ok state, state) :=
  rfl

theorem runFrom_bind (first : Attempt State Result) (next : Result → Attempt State Other)
    (state : State) :
    (first >>= next).runFrom state =
      match first.runFrom state with
      | (.ok result, after) => (next result).runFrom after
      | (.error failure, after) => (.error failure, after) := by
  unfold runFrom
  rw [ExceptT.run_bind, StateT.run_bind]
  cases first.run.run state with
  | mk outcome after => cases outcome <;> rfl

@[simp]
theorem mapError_ok (failure : Cause → Failure) (result : Result) :
    (Except.ok result).mapError failure = .ok result :=
  rfl

@[simp]
theorem mapError_error (failure : Cause → Failure) (cause : Cause) :
    (Except.error cause : Except Cause Result).mapError failure = .error (failure cause) :=
  rfl

@[simp]
theorem runFrom_ofExcept (failure : Cause → Failure) (outcome : Except Cause Result)
    (state : State) :
    (ofExcept failure outcome).runFrom state = (outcome.mapError failure, state) :=
  rfl

theorem runFrom_ofStep (failure : Cause → Failure) (step : State → Except Cause Result × State)
    (state : State) :
    (ofStep failure step).runFrom state =
      ((step state).1.mapError failure, (step state).2) := by
  unfold runFrom ofStep ExceptT.run ExceptT.mk StateT.run
  dsimp only
  rcases step state with ⟨error | result, next⟩ <;> rfl

end Attempt

def AddressQuery.question (query : AddressQuery) : Except Invalidation NormalizationRequest :=
  query.validate.map .ofAddress

theorem AddressQuery.isOk_validate_iff {query : AddressQuery} :
    query.validate.isOk = true ↔ ∃ request, query.question = .ok request := by
  rw [AddressQuery.question]
  cases query.validate <;> simp [Except.map, Except.isOk, Except.toBool]

/-- How many questions are asked about the address that a failure comes from.  Only a
question that was asked can go without an answer, or get one that says nothing. -/
def Failure.questions : Failure → Nat
  | cancelled | validation _ | binding _ => 0
  | remote _ | interpretation _ => 1

theorem Failure.questions_le_one (failure : Failure) : failure.questions ≤ 1 := by
  cases failure <;> simp [questions]

/-- The bind calls of a batch that has no binding yet: one if it is not stopped at
once and has a first address that passes its checks. -/
def callsToBind (stopped : Bool) (addresses : List AddressQuery) : Nat :=
  if !stopped && addresses.head?.any (·.validate.isOk) then 1 else 0

theorem callsToBind_le_one (stopped : Bool) (addresses : List AddressQuery) :
    callsToBind stopped addresses ≤ 1 := by
  unfold callsToBind
  split <;> omega

/-- Where a batch stands in front of an address: the binding made so far and the
state of the service. -/
structure Stage (Binding State : Type) where
  binding : Option Binding
  state : State

namespace Service

open Attempt

variable {Binding State : Type}
variable (service : Service Binding State) (cancelled : State → Bool) (region : String)

def runFrom (stage : Stage Binding State) (addresses : List AddressQuery) :
    Except Failure (List ResultSet) × State :=
  (service.geocodeFrom cancelled region stage.binding addresses).runFrom stage.state

/-- The address is geocoded: its question is asked over the binding of the batch,
and the answer makes a result set. -/
inductive Geocodes : Stage Binding State → AddressQuery → NormalizationRequest → ResultSet →
    Stage Binding State → Prop
  | intro {stage : Stage Binding State} {query : AddressQuery} {request : NormalizationRequest}
      {binding : Binding} {ready next : State} {answer : RawAnswer} {set : ResultSet}
      (proceeds : cancelled stage.state = false)
      (accepted : query.question = .ok request)
      (bound : (service.obtain stage.binding).runFrom stage.state = (.ok binding, ready))
      (answered : service.ask binding request ready = (.ok answer, next))
      (interpreted : answer.interpret region = .ok set) :
      Geocodes stage query request set ⟨some binding, next⟩

/-- The address stops the batch.  The causes are tried in this order; the list
holds the question, once it has been asked. -/
inductive StopsAt : Stage Binding State → AddressQuery → List NormalizationRequest → Failure →
    State → Prop
  | cancelled {stage : Stage Binding State} {query : AddressQuery}
      (stopped : cancelled stage.state = true) :
      StopsAt stage query [] .cancelled stage.state
  | invalid {stage : Stage Binding State} {query : AddressQuery} {error : Invalidation}
      (proceeds : cancelled stage.state = false)
      (refused : query.question = .error error) :
      StopsAt stage query [] (.validation error) stage.state
  | unbound {stage : Stage Binding State} {query : AddressQuery}
      {request : NormalizationRequest} {error : BindingError} {next : State}
      (proceeds : cancelled stage.state = false)
      (accepted : query.question = .ok request)
      (unmade : stage.binding = none)
      (failed : service.bind stage.state = (.error error, next)) :
      StopsAt stage query [] (.binding error) next
  | unanswered {stage : Stage Binding State} {query : AddressQuery}
      {request : NormalizationRequest} {binding : Binding} {ready next : State}
      {error : RemoteError}
      (proceeds : cancelled stage.state = false)
      (accepted : query.question = .ok request)
      (bound : (service.obtain stage.binding).runFrom stage.state = (.ok binding, ready))
      (failed : service.ask binding request ready = (.error error, next)) :
      StopsAt stage query [request] (.remote error) next
  | uninterpreted {stage : Stage Binding State} {query : AddressQuery}
      {request : NormalizationRequest} {binding : Binding} {ready next : State}
      {answer : RawAnswer} {error : InterpretationError}
      (proceeds : cancelled stage.state = false)
      (accepted : query.question = .ok request)
      (bound : (service.obtain stage.binding).runFrom stage.state = (.ok binding, ready))
      (answered : service.ask binding request ready = (.ok answer, next))
      (failed : answer.interpret region = .error error) :
      StopsAt stage query [request] (.interpretation error) next

/-- Addresses that are geocoded one after another, with the questions asked for
them and the result sets made. -/
inductive Advances : Stage Binding State → List AddressQuery → List NormalizationRequest →
    List ResultSet → Stage Binding State → Prop
  | nil {stage : Stage Binding State} : Advances stage [] [] [] stage
  | cons {first second last : Stage Binding State} {query : AddressQuery}
      {rest : List AddressQuery} {request : NormalizationRequest}
      {requests : List NormalizationRequest} {set : ResultSet} {sets : List ResultSet}
      (step : Geocodes service cancelled region first query request set second)
      (others : Advances second rest requests sets last) :
      Advances first (query :: rest) (request :: requests) (set :: sets) last

@[simp]
theorem obtain_some (binding : Binding) (state : State) :
    (service.obtain (some binding)).runFrom state = (.ok binding, state) :=
  rfl

theorem obtain_none (state : State) :
    (service.obtain none).runFrom state =
      ((service.bind state).1.mapError .binding, (service.bind state).2) :=
  runFrom_ofStep .binding service.bind state

theorem eq_bind_of_obtain_error {binding : Option Binding} {state ready : State}
    {failure : Failure}
    (failed : (service.obtain binding).runFrom state = (.error failure, ready)) :
    binding = none ∧
      ∃ error, failure = .binding error ∧ service.bind state = (.error error, ready) := by
  cases binding with
  | some binding => simp at failed
  | none =>
      rw [obtain_none] at failed
      rcases outcome : service.bind state with ⟨error | binding, next⟩
      · rw [outcome] at failed
        simp only [mapError_error, Prod.mk.injEq, Except.error.injEq] at failed
        exact ⟨rfl, error, failed.1.symm, by rw [failed.2]⟩
      · simp [outcome] at failed

@[simp]
theorem runFrom_nil (stage : Stage Binding State) :
    service.runFrom cancelled region stage [] = (.ok [], stage.state) :=
  rfl

def prepend (sets : List ResultSet) (run : Except Failure (List ResultSet) × State) :
    Except Failure (List ResultSet) × State :=
  (run.1.map (sets ++ ·), run.2)

@[simp]
theorem prepend_nil (run : Except Failure (List ResultSet) × State) : prepend [] run = run := by
  rcases run with ⟨failure | sets, last⟩ <;> rfl

@[simp]
theorem prepend_prepend (first second : List ResultSet)
    (run : Except Failure (List ResultSet) × State) :
    prepend first (prepend second run) = prepend (first ++ second) run := by
  rcases run with ⟨failure | sets, last⟩ <;> simp [prepend, Except.map]

@[simp]
theorem prepend_ok (sets others : List ResultSet) (last : State) :
    prepend sets (.ok others, last) = (.ok (sets ++ others), last) :=
  rfl

@[simp]
theorem prepend_error (sets : List ResultSet) (failure : Failure) (last : State) :
    prepend sets (.error failure, last) = (.error failure, last) :=
  rfl

theorem geocodeUnlessCancelled_runFrom (addresses : List AddressQuery) (state : State) :
    (service.geocodeUnlessCancelled cancelled region addresses).runFrom state =
      (service.runFrom cancelled region ⟨none, state⟩ addresses).map (Except.map .mk) id := by
  rw [geocodeUnlessCancelled, runFrom_bind, runFrom]
  rcases (service.geocodeFrom cancelled region none addresses).runFrom state with
    ⟨failure | sets, last⟩ <;> rfl

def runAsking (rest : List AddressQuery) (binding : Binding) (request : NormalizationRequest)
    (ready : State) : Except Failure (List ResultSet) × State :=
  match service.ask binding request ready with
  | (.error error, next) => (.error (.remote error), next)
  | (.ok answer, next) =>
    match answer.interpret region with
    | .error error => (.error (.interpretation error), next)
    | .ok set => prepend [set] (service.runFrom cancelled region ⟨some binding, next⟩ rest)

/-- One turn of the loop over the addresses, its checks in the order in which
they are made. -/
theorem runFrom_cons (stage : Stage Binding State) (query : AddressQuery)
    (rest : List AddressQuery) :
    service.runFrom cancelled region stage (query :: rest) =
      if cancelled stage.state then (.error .cancelled, stage.state)
      else match query.question with
        | .error error => (.error (.validation error), stage.state)
        | .ok request =>
          match (service.obtain stage.binding).runFrom stage.state with
          | (.error failure, ready) => (.error failure, ready)
          | (.ok binding, ready) =>
            service.runAsking cancelled region rest binding request ready := by
  simp only [runFrom, runAsking, geocodeFrom, runFrom_bind, runFrom_get]
  by_cases stopped : cancelled stage.state
  · simp [stopped]
  simp only [stopped, Bool.false_eq_true, if_false, AddressQuery.question]
  cases query.validate with
  | error error => simp [Except.map, runFrom_bind]
  | ok address =>
      simp only [Except.map, mapError_ok, runFrom_bind, runFrom_ofExcept, runFrom_ofStep]
      rcases (service.obtain stage.binding).runFrom stage.state with ⟨failure | binding, ready⟩
      · rfl
      dsimp only
      rcases service.ask binding (.ofAddress address) ready with ⟨error | answer, next⟩
      · rfl
      dsimp only [mapError_ok]
      cases answer.interpret region with
      | error error => rfl
      | ok set =>
          dsimp only [mapError_ok]
          rcases (service.geocodeFrom cancelled region (some binding) rest).runFrom next with
            ⟨failure | sets, last⟩ <;> rfl

theorem runFrom_of_callsToBind_eq_zero {state : State} {addresses : List AddressQuery}
    (idle : callsToBind (cancelled state) addresses = 0) :
    (service.runFrom cancelled region ⟨none, state⟩ addresses).2 = state := by
  cases addresses with
  | nil => rfl
  | cons query rest =>
    rw [runFrom_cons]
    cases stopped : cancelled state with
    | true => rfl
    | false =>
      simp only [Bool.false_eq_true, if_false, AddressQuery.question]
      cases outcome : query.validate with
      | error error => rfl
      | ok address => simp [callsToBind, stopped, outcome, Except.isOk, Except.toBool] at idle

variable {service cancelled region}

theorem Geocodes.runFrom_cons {first second : Stage Binding State} {query : AddressQuery}
    {request : NormalizationRequest} {set : ResultSet}
    (step : service.Geocodes cancelled region first query request set second)
    (rest : List AddressQuery) :
    service.runFrom cancelled region first (query :: rest) =
      prepend [set] (service.runFrom cancelled region second rest) := by
  obtain ⟨proceeds, accepted, bound, answered, interpreted⟩ := step
  simp [Service.runFrom_cons, runAsking, proceeds, accepted, bound, answered, interpreted]

theorem StopsAt.runFrom_cons {stage : Stage Binding State} {query : AddressQuery}
    {asked : List NormalizationRequest} {failure : Failure} {last : State}
    (stop : service.StopsAt cancelled region stage query asked failure last)
    (rest : List AddressQuery) :
    service.runFrom cancelled region stage (query :: rest) = (.error failure, last) := by
  rw [Service.runFrom_cons]
  cases stop with
  | cancelled stopped => simp [stopped]
  | invalid proceeds refused => simp [proceeds, refused]
  | unbound proceeds accepted unmade failed =>
      simp [proceeds, accepted, unmade, obtain_none, failed]
  | unanswered proceeds accepted bound failed =>
      simp [runAsking, proceeds, accepted, bound, failed]
  | uninterpreted proceeds accepted bound answered failed =>
      simp [runAsking, proceeds, accepted, bound, answered, failed]

theorem Advances.runFrom_append {first last : Stage Binding State} {done : List AddressQuery}
    {requests : List NormalizationRequest} {sets : List ResultSet}
    (advances : service.Advances cancelled region first done requests sets last)
    (rest : List AddressQuery) :
    service.runFrom cancelled region first (done ++ rest) =
      prepend sets (service.runFrom cancelled region last rest) := by
  induction advances with
  | nil => simp
  | cons step others ih => simp [step.runFrom_cons, ih]

variable (service cancelled region)

theorem geocodes_or_stopsAt (stage : Stage Binding State) (query : AddressQuery) :
    (∃ request set next, service.Geocodes cancelled region stage query request set next) ∨
      ∃ asked failure last, service.StopsAt cancelled region stage query asked failure last := by
  cases stopped : cancelled stage.state with
  | true => exact .inr ⟨_, _, _, .cancelled stopped⟩
  | false =>
    cases question : query.question with
    | error error => exact .inr ⟨_, _, _, .invalid stopped question⟩
    | ok request =>
      rcases bound : (service.obtain stage.binding).runFrom stage.state with
        ⟨failure | binding, ready⟩
      · obtain ⟨unmade, error, rfl, failed⟩ := eq_bind_of_obtain_error service bound
        exact .inr ⟨_, _, _, .unbound stopped question unmade failed⟩
      · rcases answered : service.ask binding request ready with ⟨error | answer, next⟩
        · exact .inr ⟨_, _, _, .unanswered stopped question bound answered⟩
        · cases interpreted : answer.interpret region with
          | error error =>
            exact .inr ⟨_, _, _, .uninterpreted stopped question bound answered interpreted⟩
          | ok set => exact .inl ⟨_, _, _, .intro stopped question bound answered interpreted⟩

/-- The whole course of a batch, with all questions asked in it: either every
address is geocoded, or the first ones are and the next one stops the batch. -/
inductive Course : Stage Binding State → List AddressQuery → List NormalizationRequest →
    Except Failure (List ResultSet) → State → Prop
  | finished {first last : Stage Binding State} {addresses : List AddressQuery}
      {requests : List NormalizationRequest} {sets : List ResultSet}
      (advances : Advances service cancelled region first addresses requests sets last) :
      Course first addresses requests (.ok sets) last.state
  | stopped {first middle : Stage Binding State} {done rest : List AddressQuery}
      {query : AddressQuery} {requests asked : List NormalizationRequest}
      {sets : List ResultSet} {failure : Failure} {last : State}
      (advances : Advances service cancelled region first done requests sets middle)
      (stops : StopsAt service cancelled region middle query asked failure last) :
      Course first (done ++ query :: rest) (requests ++ asked) (.error failure) last

theorem exists_course (first : Stage Binding State) (addresses : List AddressQuery) :
    ∃ requests outcome last,
      service.Course cancelled region first addresses requests outcome last := by
  induction addresses generalizing first with
  | nil => exact ⟨[], .ok [], _, .finished .nil⟩
  | cons query rest ih =>
    rcases service.geocodes_or_stopsAt cancelled region first query with
      ⟨request, set, second, step⟩ | ⟨asked, failure, last, stops⟩
    · obtain ⟨requests, outcome, last, course⟩ := ih second
      cases course with
      | finished advances => exact ⟨_, _, _, .finished (.cons step advances)⟩
      | stopped advances stops =>
        exact ⟨_, _, _, .stopped (.cons step advances) stops⟩
    · exact ⟨_, _, _, .stopped .nil stops⟩

variable {service cancelled region}

theorem Course.runFrom_eq {first : Stage Binding State} {addresses : List AddressQuery}
    {requests : List NormalizationRequest} {outcome : Except Failure (List ResultSet)}
    {last : State}
    (course : service.Course cancelled region first addresses requests outcome last) :
    service.runFrom cancelled region first addresses = (outcome, last) := by
  cases course with
  | finished advances => simpa using advances.runFrom_append []
  | stopped advances stops =>
    rw [advances.runFrom_append, stops.runFrom_cons, prepend_error]

theorem Geocodes.uncancelled {first second : Stage Binding State} {query : AddressQuery}
    {request : NormalizationRequest} {set : ResultSet}
    (step : service.Geocodes cancelled region first query request set second) :
    service.Geocodes (fun _ => false) region first query request set second := by
  obtain ⟨_, accepted, bound, answered, interpreted⟩ := step
  exact .intro rfl accepted bound answered interpreted

theorem Advances.uncancelled {first last : Stage Binding State} {done : List AddressQuery}
    {requests : List NormalizationRequest} {sets : List ResultSet}
    (advances : service.Advances cancelled region first done requests sets last) :
    service.Advances (fun _ => false) region first done requests sets last := by
  induction advances with
  | nil => exact .nil
  | cons step others ih => exact .cons step.uncancelled ih

theorem StopsAt.uncancelled {stage : Stage Binding State} {query : AddressQuery}
    {asked : List NormalizationRequest} {failure : Failure} {last : State}
    (stops : service.StopsAt cancelled region stage query asked failure last)
    (own : failure ≠ .cancelled) :
    service.StopsAt (fun _ => false) region stage query asked failure last := by
  cases stops with
  | cancelled stopped => exact absurd rfl own
  | invalid proceeds refused => exact .invalid rfl refused
  | unbound proceeds accepted unmade failed => exact .unbound rfl accepted unmade failed
  | unanswered proceeds accepted bound failed => exact .unanswered rfl accepted bound failed
  | uninterpreted proceeds accepted bound answered failed =>
    exact .uninterpreted rfl accepted bound answered failed

theorem Course.uncancelled {first : Stage Binding State} {addresses : List AddressQuery}
    {requests : List NormalizationRequest} {outcome : Except Failure (List ResultSet)}
    {last : State}
    (course : service.Course cancelled region first addresses requests outcome last)
    (uncut : outcome ≠ .error .cancelled) :
    service.Course (fun _ => false) region first addresses requests outcome last := by
  cases course with
  | finished advances => exact .finished advances.uncancelled
  | stopped advances stops =>
    have own := fun cut => uncut (congrArg Except.error cut)
    exact .stopped advances.uncancelled (stops.uncancelled own)

theorem Advances.map_question {first last : Stage Binding State} {done : List AddressQuery}
    {requests : List NormalizationRequest} {sets : List ResultSet}
    (advances : service.Advances cancelled region first done requests sets last) :
    done.map AddressQuery.question = requests.map .ok := by
  induction advances with
  | nil => rfl
  | cons step others ih =>
    obtain ⟨_, accepted, _, _, _⟩ := step
    simp [accepted, ih]

theorem Advances.length_requests {first last : Stage Binding State} {done : List AddressQuery}
    {requests : List NormalizationRequest} {sets : List ResultSet}
    (advances : service.Advances cancelled region first done requests sets last) :
    requests.length = done.length := by
  simpa using (congrArg List.length advances.map_question).symm

theorem Advances.length_sets {first last : Stage Binding State} {done : List AddressQuery}
    {requests : List NormalizationRequest} {sets : List ResultSet}
    (advances : service.Advances cancelled region first done requests sets last) :
    sets.length = done.length := by
  induction advances with
  | nil => rfl
  | cons step others ih => simp [ih]

theorem Advances.geocodes_at {first last : Stage Binding State} {done : List AddressQuery}
    {requests : List NormalizationRequest} {sets : List ResultSet}
    (advances : service.Advances cancelled region first done requests sets last)
    (position : Nat) (before : position < done.length) :
    ∃ query request set middle next,
      done[position]? = some query ∧ sets[position]? = some set ∧
      service.Advances cancelled region first (done.take position) (requests.take position)
        (sets.take position) middle ∧
      service.Geocodes cancelled region middle query request set next := by
  induction advances generalizing position with
  | nil => simp at before
  | cons step others ih =>
    cases position with
    | zero => exact ⟨_, _, _, _, _, rfl, rfl, .nil, step⟩
    | succ position =>
      obtain ⟨query, request, set, middle, next, found, made, earlier, geocoded⟩ :=
        ih position (by simpa using before)
      exact ⟨query, request, set, middle, next, found, made, .cons step earlier, geocoded⟩

theorem StopsAt.map_question {stage : Stage Binding State} {query : AddressQuery}
    {asked : List NormalizationRequest} {failure : Failure} {last : State}
    (stops : service.StopsAt cancelled region stage query asked failure last)
    (rest : List AddressQuery) :
    ((query :: rest).take asked.length).map AddressQuery.question = asked.map .ok := by
  cases stops with
  | cancelled _ | invalid _ _ | unbound _ _ _ _ => rfl
  | unanswered proceeds accepted bound failed => simp [accepted]
  | uninterpreted proceeds accepted bound answered failed => simp [accepted]

theorem StopsAt.length_asked {stage : Stage Binding State} {query : AddressQuery}
    {asked : List NormalizationRequest} {failure : Failure} {last : State}
    (stops : service.StopsAt cancelled region stage query asked failure last) :
    asked.length = failure.questions := by
  cases stops <;> rfl

theorem Course.cases {first : Stage Binding State} {addresses : List AddressQuery}
    {requests : List NormalizationRequest} {outcome : Except Failure (List ResultSet)}
    {last : State}
    (course : service.Course cancelled region first addresses requests outcome last) :
    (∃ sets final, service.Advances cancelled region first addresses requests sets final ∧
      outcome = .ok sets ∧ last = final.state) ∨
    ∃ done query rest earlier asked sets middle failure,
      addresses = done ++ query :: rest ∧ requests = earlier ++ asked ∧
      service.Advances cancelled region first done earlier sets middle ∧
      service.StopsAt cancelled region middle query asked failure last ∧
      outcome = .error failure := by
  cases course with
  | finished advances => exact .inl ⟨_, _, advances, rfl, rfl⟩
  | stopped advances stops =>
    exact .inr ⟨_, _, _, _, _, _, _, _, rfl, rfl, advances, stops, rfl⟩

theorem Course.map_question {first : Stage Binding State} {addresses : List AddressQuery}
    {requests : List NormalizationRequest} {outcome : Except Failure (List ResultSet)}
    {last : State}
    (course : service.Course cancelled region first addresses requests outcome last) :
    (addresses.take requests.length).map AddressQuery.question = requests.map .ok := by
  cases course with
  | finished advances =>
    rw [advances.length_requests, List.take_length, advances.map_question]
  | stopped advances stops =>
    rw [List.length_append, advances.length_requests, List.take_length_add_append,
      List.map_append, List.map_append, advances.map_question, stops.map_question]

/-- A run is its course and nothing else. -/
theorem runFrom_eq_iff {first : Stage Binding State} {addresses : List AddressQuery}
    {outcome : Except Failure (List ResultSet)} {last : State} :
    service.runFrom cancelled region first addresses = (outcome, last) ↔
      ∃ requests, service.Course cancelled region first addresses requests outcome last := by
  constructor
  · intro run
    obtain ⟨requests, outcome', last', course⟩ :=
      service.exists_course cancelled region first addresses
    have equal := course.runFrom_eq.symm.trans run
    simp only [Prod.mk.injEq] at equal
    exact ⟨requests, equal.1 ▸ equal.2 ▸ course⟩
  · rintro ⟨requests, course⟩
    exact course.runFrom_eq

end Service

end Geocoding
