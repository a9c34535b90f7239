import Geocoding.Duration
import Geocoding.Interpretation

/-!
# Geocoding a batch

A batch is a list of addresses that are put to the service one after another.
The first address that fails ends the batch, and then there is no result at all.
The service is bound to when the first address is ready to be asked for, and
the binding serves the rest of the batch.

A service is described by how its state changes, so a run can be followed from
one state to the next.  The state is kept when a batch fails.
-/

namespace Geocoding

structure BindingError where
  reason : String
deriving DecidableEq, Repr

def BindingError.message (error : BindingError) : String :=
  "Unable to bind to the normalization service: " ++ error.reason

/-- Why a question got no answer. -/
inductive RemoteError
  | timeout (deadline : Duration)
  | transport (reason : String)
deriving DecidableEq, Repr

def RemoteError.message : RemoteError → String
  | timeout deadline => "The normalization service did not answer within " ++ deadline.text
  | transport reason => "Remote error: " ++ reason

/-- Why a batch failed. -/
inductive Failure
  | validation (error : Invalidation)
  | binding (error : BindingError)
  | remote (error : RemoteError)
  | interpretation (error : InterpretationError)
  | cancelled
deriving DecidableEq, Repr

def Failure.message : Failure → String
  | validation error => error.message
  | binding error => error.message
  | remote error => error.message
  | interpretation error => error.message
  | cancelled => "Geocoding has been cancelled"

def defaultTimeout : Duration := .ofSeconds 60

/-- A normalization service, given by what a bind call and a question do in each
state it can be in. -/
structure Service (Binding State : Type) where
  bind : State → Except BindingError Binding × State
  ask : Binding → NormalizationRequest → State → Except RemoteError RawAnswer × State

/-- A computation that changes the state of a service and may fail. -/
abbrev Attempt (State Result : Type) := ExceptT Failure (StateM State) Result

namespace Attempt

variable {State Cause Result : Type}

def ofStep (failure : Cause → Failure) (step : State → Except Cause Result × State) :
    Attempt State Result :=
  ExceptT.mk fun state =>
    match step state with
    | (.ok result, next) => (.ok result, next)
    | (.error cause, next) => (.error (failure cause), next)

def ofExcept (failure : Cause → Failure) (outcome : Except Cause Result) : Attempt State Result :=
  ExceptT.mk fun state => (outcome.mapError failure, state)

end Attempt

namespace Service

variable {Binding State : Type}

/-- The binding of the running batch, made now if there is none yet. -/
def obtain (service : Service Binding State) : Option Binding → Attempt State Binding
  | some binding => pure binding
  | none => .ofStep .binding service.bind

/-- Geocodes the addresses in order, with the binding made so far.  Before each
address the caller may have asked to stop, which `cancelled` reads off the state. -/
def geocodeFrom (service : Service Binding State) (cancelled : State → Bool) (region : String) :
    Option Binding → List AddressQuery → Attempt State (List ResultSet)
  | _, [] => pure []
  | binding, query :: rest => do
      if cancelled (← get) then
        throw .cancelled
      let address ← .ofExcept .validation query.validate
      let binding ← service.obtain binding
      let answer ← .ofStep .remote (service.ask binding (.ofAddress address))
      let set ← .ofExcept .interpretation (answer.interpret region)
      let sets ← geocodeFrom service cancelled region (some binding) rest
      return set :: sets

/-- Geocodes a batch that the caller may cancel. -/
def geocodeUnlessCancelled (service : Service Binding State) (cancelled : State → Bool)
    (region : String) (addresses : List AddressQuery) : Attempt State BatchResult := do
  let results ← service.geocodeFrom cancelled region none addresses
  return ⟨results⟩

def geocode (service : Service Binding State) (region : String)
    (addresses : List AddressQuery) : Attempt State BatchResult :=
  service.geocodeUnlessCancelled (fun _ => false) region addresses

end Service

end Geocoding
