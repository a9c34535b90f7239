import Geocoding.Proofs.Batch.Projection

/-!
# Services under watch

A service under watch writes down the calls made to it.  It numbers its bind calls,
and every binding carries the number of the call that made it, so a question shows
over which binding it was asked.

The calls of a batch come in one of two forms.  Either there are none, or there is
one bind call, followed by the questions, all of which go over the binding that it
made.
-/

namespace Geocoding

/-- A call to a service. -/
inductive Call
  /-- A bind call with its number, and whether it makes a binding. -/
  | bind (number : Nat) (succeeds : Bool)
  /-- A question, with the number of the bind call that made its binding. -/
  | ask (binding : Nat) (request : NormalizationRequest)
deriving DecidableEq, Repr

/-- The bind call that a call is, or whose binding it uses. -/
def Call.number : Call → Nat
  | bind number _ => number
  | ask binding _ => binding

def Call.isBind : Call → Bool
  | bind _ _ => true
  | ask _ _ => false

def callsOver (number : Nat) (requests : List NormalizationRequest) : List Call :=
  .bind number true :: requests.map (.ask number)

theorem callsOver_append (number : Nat) (requests : List NormalizationRequest)
    (request : NormalizationRequest) :
    callsOver number (requests ++ [request]) =
      callsOver number requests ++ [.ask number request] := by
  simp [callsOver]

/-- A state of a service under watch. -/
structure Watched (State : Type) where
  state : State
  binds : Nat
  calls : List Call

namespace Service

open Attempt

variable {Binding State : Type}

def watched (service : Service Binding State) : Service (Nat × Binding) (Watched State) where
  bind before :=
    let (outcome, state) := service.bind before.state
    let number := before.binds + 1
    (outcome.map (number, ·),
      { state, binds := number, calls := before.calls ++ [.bind number outcome.isOk] })
  ask binding request before :=
    let (outcome, state) := service.ask binding.2 request before.state
    (outcome, { before with state, calls := before.calls ++ [.ask binding.1 request] })

def unwatching (service : Service Binding State) (cancelled : State → Bool) :
    service.watched.Projection (fun before => cancelled before.state) service cancelled where
  state := Watched.state
  binding := Prod.snd
  ask_eq _ _ _ := rfl
  stopped_eq _ := rfl

theorem bindsAlike_unwatching (service : Service Binding State) (cancelled : State → Bool)
    (before : Watched State) : (service.unwatching cancelled).BindsAlike ⟨none, before⟩ := by
  intro _
  change service.bind before.state =
    ((((service.bind before.state).1).map _).map Prod.snd, (service.bind before.state).2)
  rcases service.bind before.state with ⟨error | binding, state⟩ <;> rfl

variable {service : Service Binding State}

/-- What a batch has called at a stage, if these are the questions asked on the way.
Without a binding it has not called anything. -/
inductive HasCalled (service : Service Binding State) (start : Watched State) :
    List NormalizationRequest → Stage (Nat × Binding) (Watched State) → Prop
  | nothing : HasCalled service start [] ⟨none, start⟩
  | bound {binding : Binding} {state : State} {requests : List NormalizationRequest}
      (made : (service.bind start.state).1.isOk = true) :
      HasCalled service start requests ⟨some (start.binds + 1, binding), {
        state
        binds := start.binds + 1
        calls := start.calls ++ callsOver (start.binds + 1) requests }⟩

theorem bind_watched (before : Watched State) :
    service.watched.bind before =
      ((service.bind before.state).1.map (before.binds + 1, ·), {
        state := (service.bind before.state).2
        binds := before.binds + 1
        calls := before.calls ++
          [.bind (before.binds + 1) (service.bind before.state).1.isOk] }) :=
  rfl

theorem HasCalled.obtain {start : Watched State} {requests : List NormalizationRequest}
    {stage : Stage (Nat × Binding) (Watched State)} {binding : Nat × Binding}
    {ready : Watched State} (called : service.HasCalled start requests stage)
    (bound : (service.watched.obtain stage.binding).runFrom stage.state = (.ok binding, ready)) :
    service.HasCalled start requests ⟨some binding, ready⟩ := by
  cases called with
  | nothing =>
    rw [obtain_none, bind_watched] at bound
    cases made : (service.bind start.state).1 with
    | error error => simp [made, Except.map] at bound
    | ok token =>
      rw [made] at bound
      cases bound
      exact .bound (by rw [made]; rfl)
  | bound made =>
    cases bound
    exact .bound made

theorem HasCalled.ask {start ready next : Watched State} {requests : List NormalizationRequest}
    {binding : Nat × Binding} {request : NormalizationRequest}
    {outcome : Except RemoteError RawAnswer}
    (called : service.HasCalled start requests ⟨some binding, ready⟩)
    (answered : service.watched.ask binding request ready = (outcome, next)) :
    service.HasCalled start (requests ++ [request]) ⟨some binding, next⟩ := by
  obtain rfl : (service.watched.ask binding request ready).2 = next := congrArg Prod.snd answered
  cases called with
  | @bound binding state _ made =>
    have moved : (service.watched.ask (start.binds + 1, binding) request {
          state
          binds := start.binds + 1
          calls := start.calls ++ callsOver (start.binds + 1) requests }).2 = {
        state := (service.ask binding request state).2
        binds := start.binds + 1
        calls := start.calls ++ callsOver (start.binds + 1) (requests ++ [request]) } := by
      simp [watched, callsOver_append]
    rw [moved]
    exact .bound made

variable {cancelled : Watched State → Bool} {region : String}

theorem HasCalled.geocodes {start : Watched State} {earlier : List NormalizationRequest}
    {first second : Stage (Nat × Binding) (Watched State)} {query : AddressQuery}
    {request : NormalizationRequest} {set : ResultSet}
    (called : service.HasCalled start earlier first)
    (step : service.watched.Geocodes cancelled region first query request set second) :
    service.HasCalled start (earlier ++ [request]) second := by
  obtain ⟨_, _, bound, answered, _⟩ := step
  exact (called.obtain bound).ask answered

theorem HasCalled.advances {start : Watched State} {earlier : List NormalizationRequest}
    {first last : Stage (Nat × Binding) (Watched State)} {done : List AddressQuery}
    {requests : List NormalizationRequest} {sets : List ResultSet}
    (called : service.HasCalled start earlier first)
    (advances : service.watched.Advances cancelled region first done requests sets last) :
    service.HasCalled start (earlier ++ requests) last := by
  induction advances generalizing earlier with
  | nil => simpa using called
  | cons step others ih => simpa using ih (called.geocodes step)

/-- What a batch has called when it is over, if these are all its questions: nothing
at all, or a bind call and, if that makes a binding, the questions over it. -/
inductive CallsMade (service : Service Binding State) (start : Watched State) :
    List NormalizationRequest → Watched State → Prop
  | nothing : CallsMade service start [] start
  | bound {requests : List NormalizationRequest} {last : Watched State}
      (counted : last.binds = start.binds + 1)
      (called : last.calls = start.calls ++
        .bind (start.binds + 1) (service.bind start.state).1.isOk ::
          requests.map (.ask (start.binds + 1)))
      (refused : (service.bind start.state).1.isOk = false → requests = []) :
      CallsMade service start requests last

theorem HasCalled.callsMade {start : Watched State} {requests : List NormalizationRequest}
    {stage : Stage (Nat × Binding) (Watched State)}
    (called : service.HasCalled start requests stage) :
    service.CallsMade start requests stage.state := by
  cases called with
  | nothing => exact .nothing
  | bound made => exact .bound rfl (by rw [made]; rfl) (by simp [made])

theorem HasCalled.stopsAt {start : Watched State} {earlier : List NormalizationRequest}
    {stage : Stage (Nat × Binding) (Watched State)} {query : AddressQuery}
    {asked : List NormalizationRequest} {failure : Failure} {last : Watched State}
    (called : service.HasCalled start earlier stage)
    (stops : service.watched.StopsAt cancelled region stage query asked failure last) :
    service.CallsMade start (earlier ++ asked) last := by
  cases stops with
  | cancelled _ | invalid _ _ => simpa using called.callsMade
  | unbound proceeds accepted unmade failed =>
    cases called with
    | bound _ => cases unmade
    | nothing =>
      rw [bind_watched] at failed
      cases made : (service.bind start.state).1 with
      | ok token => simp [made, Except.map] at failed
      | error error =>
        rw [made] at failed
        cases failed
        exact .bound rfl (by rw [made]; rfl) (fun _ => rfl)
  | unanswered proceeds accepted bound failed =>
    exact ((called.obtain bound).ask failed).callsMade
  | uninterpreted proceeds accepted bound answered failed =>
    exact ((called.obtain bound).ask answered).callsMade

/-- The calls of a batch, whatever becomes of it. -/
theorem callsMade_of_course {start last : Watched State} {addresses : List AddressQuery}
    {requests : List NormalizationRequest} {outcome : Except Failure (List ResultSet)}
    (course : service.watched.Course cancelled region ⟨none, start⟩ addresses requests outcome
      last) :
    service.CallsMade start requests last := by
  obtain ⟨_, _, advances, _, rfl⟩ | ⟨_, _, _, _, _, _, _, _, _, rfl, advances, stops, _⟩ :=
    course.cases
  · exact (HasCalled.nothing.advances advances).callsMade
  · exact (HasCalled.nothing.advances advances).stopsAt stops

end Service

end Geocoding
