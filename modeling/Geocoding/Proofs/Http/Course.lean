import Geocoding.Proofs.Batch.Course
import Geocoding.Proofs.Http.Outcome
import Mathlib.Data.List.Forall2

/-!
# Batches over HTTP

A batch that goes over a network takes one reply for each question that it posts, in order.
So what comes of an address can be told from its position, the endpoint and the replies, and
what is posted from the questions that are asked.
-/

namespace Geocoding

theorem forall₂_question {addresses : List AddressQuery} {requests : List NormalizationRequest}
    (questions : addresses.map AddressQuery.question = requests.map .ok) :
    List.Forall₂ (fun query request => query.question = .ok request) addresses requests := by
  have each : List.Forall₂ Eq (addresses.map AddressQuery.question) (requests.map .ok) := by
    rw [List.forall₂_eq_eq_eq]
    exact questions
  rwa [List.forall₂_map_left_iff, List.forall₂_map_right_iff] at each

theorem AddressQuery.question_eq_error_iff {query : AddressQuery} {error : Invalidation} :
    query.question = .error error ↔ query.validate = .error error := by
  rw [question]
  cases query.validate <;> simp [Except.map]

namespace Http

open Text (Symbol)

/-! ## Questions over a network -/

def Network.after (network : Network) (messages : List Exchange) : Network :=
  { network with
    replies := network.replies.drop messages.length
    exchanges := network.exchanges ++ messages }

@[simp]
theorem Network.after_nil (network : Network) : network.after [] = network := by
  simp [after]

theorem Network.after_append (network : Network) (first second : List Exchange) :
    (network.after first).after second = network.after (first ++ second) := by
  simp [after, List.drop_drop]

def messages (endpoint : String) (network : Network) (requests : List NormalizationRequest) :
    List Exchange :=
  match endpointAddress endpoint with
  | .ok url =>
    if canAsk url ∧ network.reachable then
      requests.map fun request => .ofForm url request.parameters
    else []
  | .error _ => []

def verdict (endpoint : String) (timeout : Duration) (region : String) (network : Network)
    (position : Nat) (query : AddressQuery) : Except Failure ResultSet :=
  match query.question with
  | .error error => .error (.validation error)
  | .ok _ =>
    match endpointAddress endpoint with
    | .error error => .error (.binding error)
    | .ok url =>
      match answerAt timeout url network position with
      | .error error => .error (.remote error)
      | .ok answer => (answer.interpret region).mapError .interpretation

variable {endpoint : String} {timeout : Duration} {region : String} {network : Network}

@[simp]
theorem messages_nil : messages endpoint network [] = [] := by
  unfold messages
  split
  · split <;> rfl
  · rfl

theorem messages_append (endpoint : String) (network : Network)
    (first second : List NormalizationRequest) :
    messages endpoint network (first ++ second) =
      messages endpoint network first ++ messages endpoint network second := by
  unfold messages
  split
  · split
    · rw [List.map_append]
    · rfl
  · rfl

theorem length_messages_le (endpoint : String) (network : Network)
    (requests : List NormalizationRequest) :
    (messages endpoint network requests).length ≤ requests.length := by
  unfold messages
  split
  · split
    · exact Nat.le_of_eq (List.length_map _)
    · exact Nat.zero_le _
  · exact Nat.zero_le _

theorem messages_after (sent : List Exchange) (requests : List NormalizationRequest) :
    messages endpoint (network.after sent) requests = messages endpoint network requests :=
  rfl

theorem answerAt_after (url : Url) (sent : List Exchange) (position : Nat) :
    answerAt timeout url (network.after sent) position =
      answerAt timeout url network (sent.length + position) := by
  simp only [answerAt, Network.after, List.getElem?_drop]

/-- What has been sent over a network only moves its replies on. -/
theorem verdict_after (sent : List Exchange) (position : Nat) (query : AddressQuery) :
    verdict endpoint timeout region (network.after sent) position query =
      verdict endpoint timeout region network (sent.length + position) query := by
  simp only [verdict, answerAt_after]

theorem ask_eq (url : Url) (bound : endpointAddress endpoint = .ok url)
    (request : NormalizationRequest) :
    ask timeout url request network =
      (answerAt timeout url network 0, network.after (messages endpoint network [request])) := by
  refine Prod.ext ask_fst_eq ?_
  rw [ask, messages, bound]
  dsimp only
  by_cases askable : canAsk url = true
  · rw [if_pos askable, Network.send]
    by_cases reached : network.reachable = true
    · rw [if_pos reached, if_pos ⟨askable, reached⟩]
      cases replies : network.replies <;> simp [Network.after, replies]
    · rw [if_neg reached, if_neg fun both => reached both.2]
      simp
  · rw [if_neg askable, if_neg fun both => askable both.1]
    simp

theorem messages_of_answerAt {url : Url} (bound : endpointAddress endpoint = .ok url)
    {position : Nat} {answer : RawAnswer}
    (answered : answerAt timeout url network position = .ok answer)
    (requests : List NormalizationRequest) :
    messages endpoint network requests =
      requests.map fun request => .ofForm url request.parameters := by
  obtain ⟨_, _, ⟨askable, reached, _⟩, _⟩ := comesTo_ok_iff.mp (answerAt_eq_iff.mp answered)
  rw [messages, bound]
  exact if_pos ⟨canAsk_iff_askable.mpr askable, reached⟩

/-! ## Stages of a batch -/

def BoundTo (endpoint : String) (binding : Option Url) : Prop :=
  ∀ url ∈ binding, endpointAddress endpoint = .ok url

variable {cancelled : Network → Bool} {query : AddressQuery}
variable {request : NormalizationRequest} {requests asked : List NormalizationRequest}

theorem obtain_eq {binding : Option Url} (bound : BoundTo endpoint binding) :
    ((service endpoint timeout).obtain binding).runFrom network =
      ((endpointAddress endpoint).mapError .binding, network) := by
  cases binding with
  | none => exact Service.obtain_none _ network
  | some url =>
    rw [bound url rfl]
    rfl

theorem endpointAddress_of_obtain {binding : Option Url} (bound : BoundTo endpoint binding)
    {url : Url} {ready : Network}
    (made : ((service endpoint timeout).obtain binding).runFrom network = (.ok url, ready)) :
    endpointAddress endpoint = .ok url ∧ ready = network := by
  rw [obtain_eq bound, Prod.mk.injEq] at made
  exact ⟨mapError_eq_ok.mp made.1, made.2.symm⟩

theorem geocodes_eq {first second : Stage Url Network} {set : ResultSet}
    (step : (service endpoint timeout).Geocodes cancelled region first query request set second)
    (bound : BoundTo endpoint first.binding) :
    verdict endpoint timeout region first.state 0 query = .ok set ∧
      BoundTo endpoint second.binding ∧
      second.state = first.state.after (messages endpoint first.state [request]) ∧
      (messages endpoint first.state [request]).length = 1 := by
  obtain ⟨_, accepted, made, answered, interpreted⟩ := step
  obtain ⟨found, rfl⟩ := endpointAddress_of_obtain bound made
  change ask timeout _ request first.state = _ at answered
  rw [ask_eq _ found, Prod.mk.injEq] at answered
  obtain ⟨told, rfl⟩ := answered
  refine ⟨?_, ?_, rfl, ?_⟩
  · rw [verdict, accepted, found]
    dsimp only
    rw [told]
    dsimp only
    rw [interpreted]
    rfl
  · rintro url ⟨⟩
    exact found
  · rw [messages_of_answerAt found told]
    rfl

theorem stopsAt_eq {stage : Stage Url Network} {failure : Failure} {last : Network}
    (stops : (service endpoint timeout).StopsAt cancelled region stage query asked failure last)
    (bound : BoundTo endpoint stage.binding) :
    last = stage.state.after (messages endpoint stage.state asked) ∧
      (cancelled stage.state = false →
        verdict endpoint timeout region stage.state 0 query = .error failure) := by
  cases stops with
  | cancelled stopped => simp [stopped]
  | invalid proceeds refused => simp [verdict, refused]
  | unbound proceeds accepted unmade failed =>
    obtain ⟨missed, rfl⟩ := Prod.mk.inj failed
    simp [verdict, accepted, missed]
  | unanswered proceeds accepted made failed =>
    obtain ⟨found, rfl⟩ := endpointAddress_of_obtain bound made
    change ask timeout _ _ stage.state = _ at failed
    rw [ask_eq _ found, Prod.mk.injEq] at failed
    obtain ⟨told, rfl⟩ := failed
    simp [verdict, accepted, found, told]
  | uninterpreted proceeds accepted made answered failed =>
    obtain ⟨found, rfl⟩ := endpointAddress_of_obtain bound made
    change ask timeout _ _ stage.state = _ at answered
    rw [ask_eq _ found, Prod.mk.injEq] at answered
    obtain ⟨told, rfl⟩ := answered
    simp [verdict, accepted, found, told, failed]

theorem advances_eq {first last : Stage Url Network} {done : List AddressQuery}
    {sets : List ResultSet}
    (advances : (service endpoint timeout).Advances cancelled region first done requests sets last)
    (bound : BoundTo endpoint first.binding) :
    BoundTo endpoint last.binding ∧
      last.state = first.state.after (messages endpoint first.state requests) ∧
      (messages endpoint first.state requests).length = requests.length ∧
      ∀ position < done.length, ∃ query set, done[position]? = some query ∧
        sets[position]? = some set ∧
        verdict endpoint timeout region first.state position query = .ok set := by
  induction advances with
  | nil => simpa using bound
  | @cons first second last query rest request requests set sets step others ih =>
    obtain ⟨geocoded, boundSecond, state, one⟩ := geocodes_eq step bound
    obtain ⟨boundLast, final, counted, verdicts⟩ := ih boundSecond
    have split := messages_append endpoint first.state [request] requests
    rw [List.singleton_append] at split
    rw [state, messages_after] at final counted
    refine ⟨boundLast, ?_, ?_, ?_⟩
    · rw [final, Network.after_append, split]
    · rw [split, List.length_append, one, counted, List.length_cons, Nat.add_comm]
    · intro position before
      cases position with
      | zero => exact ⟨query, set, rfl, rfl, geocoded⟩
      | succ position =>
        obtain ⟨query, set, found, made, known⟩ := verdicts position (Nat.lt_of_succ_lt_succ before)
        rw [state, verdict_after, one, Nat.add_comm] at known
        exact ⟨query, set, found, made, known⟩

/-! ## Single addresses -/

/-- What comes of the address at a position of a batch, if every address before it was
geocoded. -/
inductive Concludes (endpoint : String) (timeout : Duration) (region : String) (network : Network)
    (position : Nat) (query : AddressQuery) : Except Failure ResultSet → Prop
  | invalid {error : Invalidation} (refused : query.validate = .error error) :
      Concludes endpoint timeout region network position query (.error (.validation error))
  | unbound {error : UrlError} (accepted : query.validate.isOk = true)
      (misspelled : Url.read endpoint.toList = .error error) :
      Concludes endpoint timeout region network position query
        (.error (.binding ⟨"Invalid endpoint '" ++ endpoint ++ "': " ++ error.message⟩))
  | unanswered {url : Url} {error : RemoteError} (accepted : query.validate.isOk = true)
      (bound : Url.read endpoint.toList = .ok url)
      (missed : ComesTo timeout url network position (.error error)) :
      Concludes endpoint timeout region network position query (.error (.remote error))
  | uninterpreted {url : Url} {answer : RawAnswer} {error : InterpretationError}
      (accepted : query.validate.isOk = true) (bound : Url.read endpoint.toList = .ok url)
      (answered : ComesTo timeout url network position (.ok answer))
      (failed : answer.interpret region = .error error) :
      Concludes endpoint timeout region network position query (.error (.interpretation error))
  | geocoded {url : Url} {answer : RawAnswer} {set : ResultSet}
      (accepted : query.validate.isOk = true) (bound : Url.read endpoint.toList = .ok url)
      (answered : ComesTo timeout url network position (.ok answer))
      (interpreted : answer.interpret region = .ok set) :
      Concludes endpoint timeout region network position query (.ok set)

/-- An address that passes its checks is answered in time by a reply of success, whose body
can be read and makes a result set. -/
structure Answered (endpoint region : String) (network : Network) (position : Nat)
    (query : AddressQuery) (set : ResultSet) : Prop where
  accepted : query.validate.isOk = true
  answered : ∃ url status body answer, Url.read endpoint.toList = .ok url ∧
    network.Replies url position (.answer status body) ∧ status.Succeeds ∧ status.code ≠ 204 ∧
    Holds (Symbol.ofBytes body) answer ∧ answer.interpret region = .ok set

variable {position : Nat} {set : ResultSet} {outcome : Except Failure ResultSet}

theorem Concludes.verdict_eq
    (concludes : Concludes endpoint timeout region network position query outcome) :
    verdict endpoint timeout region network position query = outcome := by
  cases concludes with
  | invalid refused => rw [verdict, AddressQuery.question_eq_error_iff.mpr refused]
  | unbound accepted misspelled =>
    obtain ⟨request, asked⟩ := AddressQuery.isOk_validate_iff.mp accepted
    rw [verdict, asked, endpointAddress, misspelled]
    rfl
  | unanswered accepted bound missed =>
    obtain ⟨request, asked⟩ := AddressQuery.isOk_validate_iff.mp accepted
    rw [verdict, asked, endpointAddress, mapError_eq_ok.mpr bound]
    dsimp only
    rw [missed.answerAt_eq]
  | uninterpreted accepted bound answered failed =>
    obtain ⟨request, asked⟩ := AddressQuery.isOk_validate_iff.mp accepted
    rw [verdict, asked, endpointAddress, mapError_eq_ok.mpr bound]
    dsimp only
    rw [answered.answerAt_eq]
    dsimp only
    rw [failed]
    rfl
  | geocoded accepted bound answered interpreted =>
    obtain ⟨request, asked⟩ := AddressQuery.isOk_validate_iff.mp accepted
    rw [verdict, asked, endpointAddress, mapError_eq_ok.mpr bound]
    dsimp only
    rw [answered.answerAt_eq]
    exact mapError_eq_ok.mpr interpreted

theorem exists_concludes (endpoint : String) (timeout : Duration) (region : String)
    (network : Network) (position : Nat) (query : AddressQuery) :
    ∃ outcome, Concludes endpoint timeout region network position query outcome := by
  cases checked : query.validate with
  | error error => exact ⟨_, .invalid checked⟩
  | ok address =>
    have accepted : query.validate.isOk = true := by rw [checked]; rfl
    cases bound : Url.read endpoint.toList with
    | error error => exact ⟨_, .unbound accepted bound⟩
    | ok url =>
      obtain ⟨told, comes⟩ := exists_comesTo timeout url network position
      cases told with
      | error error => exact ⟨_, .unanswered accepted bound comes⟩
      | ok answer =>
        cases interpreted : answer.interpret region with
        | error error => exact ⟨_, .uninterpreted accepted bound comes interpreted⟩
        | ok set => exact ⟨_, .geocoded accepted bound comes interpreted⟩

theorem verdict_eq_iff :
    verdict endpoint timeout region network position query = outcome ↔
      Concludes endpoint timeout region network position query outcome := by
  constructor
  · rintro rfl
    obtain ⟨outcome, concludes⟩ :=
      exists_concludes endpoint timeout region network position query
    rwa [concludes.verdict_eq]
  · exact Concludes.verdict_eq

theorem concludes_ok_iff :
    Concludes endpoint timeout region network position query (.ok set) ↔
      Answered endpoint region network position query set := by
  constructor
  · rintro (_ | _ | _ | _ | ⟨accepted, bound, answered, interpreted⟩)
    obtain ⟨status, body, replied, success, bodied, holds⟩ := comesTo_ok_iff.mp answered
    exact ⟨accepted, _, status, body, _, bound, replied, success, bodied, holds, interpreted⟩
  · rintro ⟨accepted, url, status, body, answer, bound, replied, success, bodied, holds,
      interpreted⟩
    exact .geocoded accepted bound (.answered replied success bodied holds) interpreted

theorem verdict_eq_ok_iff :
    verdict endpoint timeout region network position query = .ok set ↔
      Answered endpoint region network position query set :=
  verdict_eq_iff.trans concludes_ok_iff

/-! ## Whole batches -/

/-- Each of these addresses has been asked about with one message to an endpoint. -/
def Posts (endpoint : String) (addresses : List AddressQuery) (posted : List Exchange) : Prop :=
  List.Forall₂ (fun query message => ∃ url request, Url.read endpoint.toList = .ok url ∧
    query.question = .ok request ∧ Exchange.PostsTo message url request) addresses posted

variable {addresses : List AddressQuery}

theorem posts_messages (endpoint : String) (network : Network)
    (questions : (addresses.take requests.length).map AddressQuery.question = requests.map .ok) :
    Posts endpoint (addresses.take (messages endpoint network requests).length)
      (messages endpoint network requests) := by
  rw [messages]
  split
  · next url bound =>
    split
    · rw [List.length_map, Posts, List.forall₂_map_right_iff]
      refine (forall₂_question questions).imp ?_
      intro query request asked
      exact ⟨url, request, mapError_eq_ok.mp bound, asked, postsTo_ofForm url request⟩
    · exact .nil
  · exact .nil

theorem boundTo_none : BoundTo endpoint none :=
  nofun

theorem course_network {binding : Option Url} (bound : BoundTo endpoint binding)
    {outcome : Except Failure (List ResultSet)} {last : Network}
    (course : (service endpoint timeout).Course cancelled region ⟨binding, network⟩ addresses
      requests outcome last) :
    last = network.after (messages endpoint network requests) := by
  cases course with
  | finished advances => exact (advances_eq advances bound).2.1
  | stopped advances stops =>
    obtain ⟨boundMiddle, middle, _, _⟩ := advances_eq advances bound
    obtain ⟨final, _⟩ := stopsAt_eq stops boundMiddle
    rw [final, middle, messages_after, Network.after_append, messages_append]

theorem posts_runFrom (endpoint : String) (timeout : Duration) (cancelled : Network → Bool)
    (region : String) (network : Network) (addresses : List AddressQuery) :
    ∃ posted, Posts endpoint (addresses.take posted.length) posted ∧
      ((service endpoint timeout).runFrom cancelled region ⟨none, network⟩ addresses).2 =
        network.after posted := by
  obtain ⟨requests, course⟩ := Service.runFrom_eq_iff.mp
    (rfl : (service endpoint timeout).runFrom cancelled region ⟨none, network⟩ addresses =
      (_, _))
  exact ⟨_, posts_messages _ _ course.map_question, course_network boundTo_none course⟩

/-- A batch fails with the address at this position, everything before it having been
geocoded. -/
structure FailsAt (endpoint : String) (timeout : Duration) (region : String) (network : Network)
    (addresses : List AddressQuery) (position : Nat) (failure : Failure) : Prop where
  geocoded : ∀ earlier < position, ∃ query set, addresses[earlier]? = some query ∧
    Answered endpoint region network earlier query set
  failed : ∃ query, addresses[position]? = some query ∧
    Concludes endpoint timeout region network position query (.error failure)

/-- A batch comes to these result sets, one for each address. -/
structure GeocodesAll (endpoint region : String) (network : Network)
    (addresses : List AddressQuery) (sets : List ResultSet) : Prop where
  length_eq : sets.length = addresses.length
  geocoded : ∀ position < addresses.length, ∃ query set, addresses[position]? = some query ∧
    sets[position]? = some set ∧ Answered endpoint region network position query set

def batchRun (endpoint : String) (timeout : Duration) (region : String) (network : Network)
    (addresses : List AddressQuery) : Except Failure (List ResultSet) × Network :=
  (service endpoint timeout).runFrom (fun _ => false) region ⟨none, network⟩ addresses

theorem exists_course_batchRun (endpoint : String) (timeout : Duration) (region : String)
    (network : Network) (addresses : List AddressQuery) :
    ∃ requests, (service endpoint timeout).Course (fun _ => false) region ⟨none, network⟩ addresses
      requests (batchRun endpoint timeout region network addresses).1
      (batchRun endpoint timeout region network addresses).2 :=
  Service.runFrom_eq_iff.mp rfl

theorem batchRun_ok {sets : List ResultSet}
    (succeeded : (batchRun endpoint timeout region network addresses).1 = .ok sets) :
    GeocodesAll endpoint region network addresses sets ∧
      ∃ posted, Posts endpoint addresses posted ∧
        (batchRun endpoint timeout region network addresses).2 = network.after posted := by
  obtain ⟨requests, course⟩ := exists_course_batchRun endpoint timeout region network addresses
  have questions := course.map_question
  have last := course_network boundTo_none course
  obtain ⟨made, final, advances, outcome, _⟩ |
    ⟨_, _, _, _, _, _, _, failure, _, _, _, _, outcome⟩ := course.cases
  · obtain rfl : sets = made := Except.ok.inj (succeeded.symm.trans outcome)
    obtain ⟨_, _, counted, verdicts⟩ := advances_eq advances boundTo_none
    have posts := posts_messages endpoint network questions
    rw [counted, advances.length_requests, List.take_length] at posts
    simp only [verdict_eq_ok_iff] at verdicts
    exact ⟨⟨advances.length_sets, verdicts⟩, _, posts, last⟩
  · rw [outcome] at succeeded
    cases succeeded

theorem batchRun_error {failure : Failure}
    (failed : (batchRun endpoint timeout region network addresses).1 = .error failure) :
    ∃ position posted, FailsAt endpoint timeout region network addresses position failure ∧
      Posts endpoint (addresses.take posted.length) posted ∧
      position ≤ posted.length ∧ posted.length ≤ position + 1 ∧
      (batchRun endpoint timeout region network addresses).2 = network.after posted := by
  obtain ⟨requests, course⟩ := exists_course_batchRun endpoint timeout region network addresses
  have questions := course.map_question
  have last := course_network boundTo_none course
  obtain ⟨sets, final, _, finished, _⟩ | ⟨done, query, rest, earlier, asked, sets, middle, stopped,
    rfl, rfl, advances, stops, outcome⟩ := course.cases
  · rw [finished] at failed
    cases failed
  · obtain rfl : failure = stopped := Except.error.inj (failed.symm.trans outcome)
    obtain ⟨bound, state, counted, verdicts⟩ := advances_eq advances boundTo_none
    obtain ⟨_, final⟩ := stopsAt_eq stops bound
    have known := final rfl
    rw [state, verdict_after, counted, advances.length_requests, Nat.add_zero,
      verdict_eq_iff] at known
    simp only [verdict_eq_ok_iff] at verdicts
    have atMost : (messages endpoint network asked).length ≤ 1 := by
      have one := stops.length_asked
      have bounded := failure.questions_le_one
      have sent := length_messages_le endpoint network asked
      omega
    refine ⟨done.length, _, ⟨fun position before => ?_, query, by simp, known⟩,
      posts_messages _ _ questions, ?_, ?_, last⟩
    · obtain ⟨query, set, found, _, geocoded⟩ := verdicts position before
      exact ⟨query, set, by rw [List.getElem?_append_left before, found], geocoded⟩
    · rw [messages_append, List.length_append, counted, advances.length_requests]
      omega
    · rw [messages_append, List.length_append, counted, advances.length_requests]
      omega

end Http

end Geocoding
