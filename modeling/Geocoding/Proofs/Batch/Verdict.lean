import Geocoding.Proofs.Batch.Scripted

/-!
# What comes of each address

The address at a position of a batch has a verdict of its own, which depends on its
position, on the script and on when the caller wishes to stop, and on no other
address.  A batch comes to all the result sets, or to the failure of the first
address that has one.
-/

namespace Geocoding

def Batch.flag (batch : Batch) (script : Script) : Bool :=
  !batch.plain && script.cancelled

def Batch.stopsBefore (batch : Batch) (position : Nat) : Bool :=
  !batch.plain && (batch.cancelled ||
    batch.cancelAfter.any fun moment => 0 < moment && moment ≤ position)

theorem Batch.overlooksBinds_flag (batch : Batch) : Script.OverlooksBinds batch.flag :=
  fun _ _ _ => rfl

theorem Batch.flag_eq (batch : Batch) :
    batch.flag = if batch.plain then fun _ => false else Script.cancelled := by
  funext script
  cases plain : batch.plain <;> simp [Batch.flag, plain]

namespace Script

def reportOf (run : Except Failure (List ResultSet) × Script) : BatchReport where
  bindCalls := run.2.bindCalls
  requests := run.2.requests
  answersLeft := run.2.answers.length
  cancelled := run.2.cancelled
  outcome := run.1.map .mk

def batchRun (script : Script) (region : String) (batch : Batch) :
    Except Failure (List ResultSet) × Script :=
  service.runFrom batch.flag region ⟨none, script.startBatch batch⟩ batch.addresses

theorem runBatch_eq (script : Script) (region : String) (batch : Batch) :
    script.runBatch region batch =
      (reportOf (script.batchRun region batch), (script.batchRun region batch).2) := by
  have run : (if batch.plain then service.geocode region batch.addresses
      else service.geocodeUnlessCancelled Script.cancelled region batch.addresses).runFrom
        (script.startBatch batch) =
      (script.batchRun region batch).map (Except.map .mk) id := by
    rw [batchRun, ← Service.geocodeUnlessCancelled_runFrom, Batch.flag_eq]
    split <;> rfl
  simp only [runBatch]
  rw [← Attempt.runFrom, run]
  rfl

section Report

variable (script : Script) (region : String) (batch : Batch)

theorem runBatch_outcome :
    (script.runBatch region batch).1.outcome = (script.batchRun region batch).1.map .mk := by
  rw [runBatch_eq]; rfl

theorem runBatch_requests :
    (script.runBatch region batch).1.requests = (script.batchRun region batch).2.requests := by
  rw [runBatch_eq]; rfl

theorem runBatch_bindCalls :
    (script.runBatch region batch).1.bindCalls = (script.batchRun region batch).2.bindCalls := by
  rw [runBatch_eq]; rfl

theorem runBatch_error_iff {failure : Failure} :
    (script.runBatch region batch).1.outcome = .error failure ↔
      (script.batchRun region batch).1 = .error failure := by
  rw [runBatch_outcome]
  cases (script.batchRun region batch).1 <;> simp [Except.map]

theorem runBatch_ok_iff {result : BatchResult} :
    (script.runBatch region batch).1.outcome = .ok result ↔
      (script.batchRun region batch).1 = .ok result.results := by
  rw [runBatch_outcome]
  rcases result with ⟨results⟩
  cases (script.batchRun region batch).1 <;> simp [Except.map]

end Report

/-- What it takes to have a binding for the address at a position.  Only the first
address of a batch has to make it. -/
def bindingAt (script : Script) (position : Nat) : Except BindingError Unit :=
  if position = 0 then script.bind.1 else .ok ()

/-- What keeps the address at a position of a batch from being asked about, if every
address before it was geocoded.  Of several causes the first of this order counts. -/
def obstacle (script : Script) (batch : Batch) (position : Nat) (query : AddressQuery) :
    Option Failure :=
  if batch.stopsBefore position then some .cancelled
  else match query.question with
    | .error error => some (.validation error)
    | .ok _ =>
      match script.bindingAt position with
      | .error error => some (.binding error)
      | .ok _ => none

/-- What comes of the address at a position of a batch, if every address before it
was geocoded. -/
def verdict (script : Script) (region : String) (batch : Batch) (position : Nat)
    (query : AddressQuery) : Except Failure ResultSet :=
  match script.obstacle batch position query with
  | some failure => .error failure
  | none =>
    match script.answerAt position with
    | .error error => .error (.remote error)
    | .ok answer => (answer.interpret region).mapError .interpretation

section Verdict

variable {script : Script} {batch : Batch} {region : String}
variable {requests asked : List NormalizationRequest} {query : AddressQuery}

theorem flag_stageAfter :
    batch.flag ((script.startBatch batch).stageAfter requests).state =
      batch.stopsBefore requests.length := by
  simp [Batch.flag, Batch.stopsBefore, (movedBy_stageAfter _ requests).cancelled_eq, stopsAfter,
    startBatch]

theorem obtain_stageAfter :
    (service.obtain (script.stageAfter requests).binding).runFrom
        (script.stageAfter requests).state =
      ((script.bindingAt requests.length).mapError .binding,
        bound (script.stageAfter requests)) := by
  cases requests with
  | nil => exact Service.obtain_none service script
  | cons request rest => rfl

theorem bindingAt_startBatch (position : Nat) :
    (script.startBatch batch).bindingAt position = script.bindingAt position := by
  simp [bindingAt, bind_eq, startBatch]

theorem bindingAt_of_obtain {binding : Unit} {ready : Script}
    (made : (service.obtain ((script.startBatch batch).stageAfter requests).binding).runFrom
      ((script.startBatch batch).stageAfter requests).state = (.ok binding, ready)) :
    script.bindingAt requests.length = .ok () ∧
      ready = bound ((script.startBatch batch).stageAfter requests) := by
  rw [obtain_stageAfter, bindingAt_startBatch] at made
  simp only [Prod.mk.injEq] at made
  refine ⟨?_, made.2.symm⟩
  cases outcome : script.bindingAt requests.length with
  | error error => simp [outcome] at made
  | ok binding => rfl

theorem answerAt_of_ask {request : NormalizationRequest} {binding : Unit} {next : Script}
    {outcome : Except RemoteError RawAnswer}
    (answered : service.ask binding request
      (bound ((script.startBatch batch).stageAfter requests)) = (outcome, next)) :
    script.answerAt requests.length = outcome := by
  change (bound _).ask request = _ at answered
  have same := congrArg Prod.fst answered
  simpa [ask_eq, answerAt, (movedBy_stageAfter _ requests).answers_eq, startBatch] using same

theorem verdict_of_geocodes {next : Stage Unit Script} {request : NormalizationRequest}
    {set : ResultSet}
    (step : service.Geocodes batch.flag region
      ((script.startBatch batch).stageAfter requests) query request set next) :
    script.verdict region batch requests.length query = .ok set := by
  obtain ⟨proceeds, accepted, made, answered, interpreted⟩ := step
  rw [flag_stageAfter] at proceeds
  obtain ⟨binds, rfl⟩ := bindingAt_of_obtain made
  simp [verdict, obstacle, proceeds, accepted, binds, answerAt_of_ask answered, interpreted]

theorem verdict_of_stopsAt {failure : Failure} {last : Script}
    (stops : service.StopsAt batch.flag region
      ((script.startBatch batch).stageAfter requests) query asked failure last) :
    script.verdict region batch requests.length query = .error failure := by
  cases stops with
  | cancelled stopped =>
    rw [flag_stageAfter] at stopped
    simp [verdict, obstacle, stopped]
  | invalid proceeds refused =>
    rw [flag_stageAfter] at proceeds
    simp [verdict, obstacle, proceeds, refused]
  | unbound proceeds accepted unmade failed =>
    rw [flag_stageAfter] at proceeds
    obtain rfl : requests = [] := by simpa using unmade
    rw [List.length_nil] at proceeds
    change (script.startBatch batch).bind = _ at failed
    have binds : (script.startBatch batch).bindingAt 0 = .error _ := congrArg Prod.fst failed
    rw [bindingAt_startBatch] at binds
    simp [verdict, obstacle, proceeds, accepted, binds]
  | unanswered proceeds accepted made failed =>
    rw [flag_stageAfter] at proceeds
    obtain ⟨binds, rfl⟩ := bindingAt_of_obtain made
    simp [verdict, obstacle, proceeds, accepted, binds, answerAt_of_ask failed]
  | uninterpreted proceeds accepted made answered failed =>
    rw [flag_stageAfter] at proceeds
    obtain ⟨binds, rfl⟩ := bindingAt_of_obtain made
    simp [verdict, obstacle, proceeds, accepted, binds, answerAt_of_ask answered, failed]

theorem verdict_of_advances {done : List AddressQuery} {sets : List ResultSet}
    {last : Stage Unit Script}
    (advances : service.Advances batch.flag region ⟨none, script.startBatch batch⟩ done requests
      sets last) (position : Nat) (before : position < done.length) :
    ∃ query set, done[position]? = some query ∧ sets[position]? = some set ∧
      script.verdict region batch position query = .ok set := by
  obtain ⟨query, request, set, middle, next, found, made, earlier, step⟩ :=
    advances.geocodes_at position before
  obtain rfl := eq_stageAfter_of_advances earlier
  have counted : (requests.take position).length = position := by
    rw [earlier.length_requests, List.length_take]
    omega
  have settled := verdict_of_geocodes step
  rw [counted] at settled
  exact ⟨query, set, found, made, settled⟩

theorem obstacle_cases {position : Nat} {failure : Failure}
    (hindered : script.obstacle batch position query = some failure) :
    failure = .cancelled ∧ batch.stopsBefore position = true ∨
      batch.stopsBefore position = false ∧
        ((∃ error, failure = .validation error ∧ query.question = .error error) ∨
          ∃ error request, failure = .binding error ∧ query.question = .ok request ∧
            script.bindingAt position = .error error) := by
  unfold obstacle at hindered
  cases stopped : batch.stopsBefore position with
  | true =>
    rw [stopped] at hindered
    exact .inl ⟨(Option.some.inj hindered).symm, rfl⟩
  | false =>
    rw [stopped] at hindered
    refine .inr ⟨rfl, ?_⟩
    cases question : query.question with
    | error error =>
      rw [question] at hindered
      exact .inl ⟨error, (Option.some.inj hindered).symm, rfl⟩
    | ok request =>
      rw [question] at hindered
      cases binding : script.bindingAt position with
      | ok _ => simp [binding] at hindered
      | error error =>
        simp only [binding] at hindered
        exact .inr ⟨error, request, (Option.some.inj hindered).symm, rfl, rfl⟩

theorem questions_of_obstacle {position : Nat} {failure : Failure}
    (hindered : script.obstacle batch position query = some failure) : failure.questions = 0 := by
  rcases obstacle_cases hindered with ⟨rfl, _⟩ | ⟨_, ⟨error, rfl, _⟩ | ⟨error, request, rfl, _⟩⟩ <;>
    rfl

theorem stopsBefore_of_obstacle_eq_none {position : Nat}
    (free : script.obstacle batch position query = none) : batch.stopsBefore position = false := by
  cases stopped : batch.stopsBefore position with
  | true => simp [obstacle, stopped] at free
  | false => rfl

theorem stopsBefore_of_obstacle_cancelled {position : Nat}
    (hindered : script.obstacle batch position query = some .cancelled) :
    batch.stopsBefore position = true := by
  rcases obstacle_cases hindered with ⟨_, stopped⟩ | ⟨_, ⟨_, cause, _⟩ | ⟨_, _, cause, _⟩⟩
  · exact stopped
  · cases cause
  · cases cause

theorem verdict_eq_ok_iff {position : Nat} {set : ResultSet} :
    script.verdict region batch position query = .ok set ↔
      script.obstacle batch position query = none ∧
        Yields region (script.answerAt position) set := by
  unfold verdict Yields
  cases script.obstacle batch position query with
  | some failure => simp
  | none =>
    cases script.answerAt position with
    | error error => simp
    | ok raw => cases interpreted : raw.interpret region <;> simp [interpreted]

theorem obstacle_of_verdict {position : Nat} {failure : Failure}
    (failed : script.verdict region batch position query = .error failure) :
    script.obstacle batch position query = some failure ∨
      script.obstacle batch position query = none ∧ failure.questions = 1 ∧
        ∀ set, ¬ Yields region (script.answerAt position) set := by
  unfold verdict at failed
  unfold Yields
  cases hindered : script.obstacle batch position query with
  | some cause =>
    rw [hindered] at failed
    exact .inl (congrArg some (Except.error.inj failed))
  | none =>
    rw [hindered] at failed
    refine .inr ⟨rfl, ?_⟩
    cases answered : script.answerAt position with
    | error error =>
      rw [answered] at failed
      cases failed
      exact ⟨rfl, by simp⟩
    | ok raw =>
      simp only [answered] at failed
      cases interpreted : raw.interpret region with
      | error error =>
        rw [interpreted] at failed
        cases failed
        exact ⟨rfl, by simp [interpreted]⟩
      | ok set =>
        rw [interpreted] at failed
        cases failed

theorem verdict_eq_cancelled_iff {position : Nat} :
    script.verdict region batch position query = .error .cancelled ↔
      batch.stopsBefore position = true := by
  constructor
  · intro failed
    rcases obstacle_of_verdict failed with hindered | ⟨_, asked, _⟩
    · exact stopsBefore_of_obstacle_cancelled hindered
    · cases asked
  · intro stopped
    simp [verdict, obstacle, stopped]

/-- The batch fails with the address at this position, everything before it having
been geocoded. -/
structure FailsAt (script : Script) (region : String) (batch : Batch) (position : Nat)
    (failure : Failure) : Prop where
  geocoded : ∀ earlier < position, ∃ query set, batch.addresses[earlier]? = some query ∧
    script.verdict region batch earlier query = .ok set
  failed : ∃ query, batch.addresses[position]? = some query ∧
    script.verdict region batch position query = .error failure

theorem FailsAt.not_geocoded {position : Nat} {failure : Failure} {query : AddressQuery}
    {set : ResultSet} (fails : script.FailsAt region batch position failure)
    (found : batch.addresses[position]? = some query) :
    script.verdict region batch position query ≠ .ok set := by
  intro geocoded
  obtain ⟨failing, found', failed⟩ := fails.failed
  obtain rfl : query = failing := Option.some.inj (found.symm.trans found')
  rw [geocoded] at failed
  cases failed

theorem FailsAt.unique {first second : Nat} {failure other : Failure}
    (fails : script.FailsAt region batch first failure)
    (fails' : script.FailsAt region batch second other) :
    first = second ∧ failure = other := by
  rcases Nat.lt_trichotomy first second with before | rfl | after
  · obtain ⟨query, set, found, geocoded⟩ := fails'.geocoded first before
    exact absurd geocoded (fails.not_geocoded found)
  · obtain ⟨query, found, failed⟩ := fails.failed
    obtain ⟨query', found', failed'⟩ := fails'.failed
    obtain rfl : query = query' := Option.some.inj (found.symm.trans found')
    exact ⟨rfl, Except.error.inj (failed.symm.trans failed')⟩
  · obtain ⟨query, set, found, geocoded⟩ := fails.geocoded second after
    exact absurd geocoded (fails'.not_geocoded found)

theorem exists_course_batchRun (script : Script) (region : String) (batch : Batch) :
    ∃ requests, service.Course batch.flag region ⟨none, script.startBatch batch⟩ batch.addresses
        requests (script.batchRun region batch).1 (script.batchRun region batch).2 ∧
      (script.startBatch batch).MovedBy requests (script.batchRun region batch).2 := by
  obtain ⟨requests, course⟩ := Service.runFrom_eq_iff.mp
    (rfl : service.runFrom batch.flag region ⟨none, script.startBatch batch⟩ batch.addresses =
      ((script.batchRun region batch).1, (script.batchRun region batch).2))
  exact ⟨requests, course, movedBy_of_course course⟩

theorem failsAt_of_batchRun {failure : Failure}
    (failed : (script.batchRun region batch).1 = .error failure) :
    ∃ position, script.FailsAt region batch position failure ∧
      (script.batchRun region batch).2.requests.length = position + failure.questions := by
  obtain ⟨requests, course, moved⟩ := script.exists_course_batchRun region batch
  obtain ⟨sets, final, _, finished, _⟩ | ⟨done, query, rest, earlier, asked, sets, middle, stopped,
    whole, rfl, advances, stops, outcome⟩ := course.cases
  · rw [finished] at failed
    cases failed
  · obtain rfl : failure = stopped := Except.error.inj (failed.symm.trans outcome)
    obtain rfl := eq_stageAfter_of_advances advances
    have final := verdict_of_stopsAt stops
    rw [advances.length_requests] at final
    refine ⟨done.length, ⟨fun position before => ?_, query, by simp [whole], final⟩, ?_⟩
    · obtain ⟨query, set, found, _, geocoded⟩ := verdict_of_advances advances position before
      exact ⟨query, set, by rw [whole, List.getElem?_append_left before, found], geocoded⟩
    · simp [moved.requests_eq, startBatch, advances.length_requests, stops.length_asked]

theorem verdict_of_batchRun {sets : List ResultSet}
    (succeeded : (script.batchRun region batch).1 = .ok sets) :
    (script.batchRun region batch).2.requests.length = batch.addresses.length ∧
      sets.length = batch.addresses.length ∧
      List.Forall₂ (Yields region) (script.answers.take batch.addresses.length) sets ∧
      ∀ position < batch.addresses.length, ∃ query set,
        batch.addresses[position]? = some query ∧ sets[position]? = some set ∧
          script.verdict region batch position query = .ok set := by
  obtain ⟨requests, course, moved⟩ := script.exists_course_batchRun region batch
  obtain ⟨made, final, advances, outcome, _⟩ |
    ⟨_, _, _, _, _, _, _, failure, _, _, _, _, outcome⟩ := course.cases
  · obtain rfl : sets = made := Except.ok.inj (succeeded.symm.trans outcome)
    refine ⟨?_, advances.length_sets, yields_of_advances advances, verdict_of_advances advances⟩
    simp [moved.requests_eq, startBatch, advances.length_requests]
  · rw [outcome] at succeeded
    cases succeeded

theorem map_question_batchRun (script : Script) (region : String) (batch : Batch) :
    let requests := (script.batchRun region batch).2.requests
    (batch.addresses.take requests.length).map AddressQuery.question = requests.map .ok := by
  obtain ⟨requests, course, moved⟩ := script.exists_course_batchRun region batch
  have same : (script.batchRun region batch).2.requests = requests := moved.requests_eq
  rw [same]
  exact course.map_question

/-- A batch fails just with the address whose verdict says so. -/
theorem batchRun_eq_error_iff {failure : Failure} :
    (script.batchRun region batch).1 = .error failure ↔
      ∃ position, script.FailsAt region batch position failure := by
  constructor
  · intro failed
    obtain ⟨position, fails, _⟩ := failsAt_of_batchRun failed
    exact ⟨position, fails⟩
  · rintro ⟨position, fails⟩
    cases outcome : (script.batchRun region batch).1 with
    | error other =>
      obtain ⟨position', fails', _⟩ := failsAt_of_batchRun outcome
      rw [(fails.unique fails').2]
    | ok sets =>
      obtain ⟨query, found, _⟩ := fails.failed
      obtain ⟨inside, _⟩ := List.getElem?_eq_some_iff.mp found
      obtain ⟨_, _, _, eachGeocoded⟩ := verdict_of_batchRun outcome
      obtain ⟨query', set, found', _, geocoded⟩ := eachGeocoded position inside
      exact absurd geocoded (fails.not_geocoded found')

theorem FailsAt.length_requests {position : Nat} {failure : Failure}
    (fails : script.FailsAt region batch position failure) :
    (script.batchRun region batch).2.requests.length = position + failure.questions := by
  obtain ⟨position', fails', counted⟩ :=
    failsAt_of_batchRun (batchRun_eq_error_iff.mpr ⟨position, fails⟩)
  rw [counted, (fails.unique fails').1]

end Verdict

end Script

end Geocoding
