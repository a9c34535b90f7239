import Geocoding.Batch

/-!
# Sessions against a scripted service

A script tells in advance how each bind call and each question will turn out.
A session runs several batches against one script, each of which goes on where
the one before it stopped, and keeps account of the calls made.
-/

namespace Geocoding

/-- What is still to come from a scripted service, and what has been asked of it. -/
structure Script where
  /-- For each bind call to come, why it fails if it does.  Calls beyond the list succeed. -/
  binds : List (Option String)
  /-- The outcome of each question to come.  Questions beyond the list get no answer. -/
  answers : List (Except RemoteError RawAnswer)
  bindCalls : Nat := 0
  requests : List NormalizationRequest := []
  cancelled : Bool := false
  /-- The question of the running batch during which the caller asks to stop, counted from one. -/
  cancelAfter : Option Nat := none

namespace Script

def bind (script : Script) : Except BindingError Unit × Script :=
  let next := { script with binds := script.binds.tail, bindCalls := script.bindCalls + 1 }
  match script.binds.head? with
  | some (some reason) => (.error ⟨reason⟩, next)
  | some none | none => (.ok (), next)

/-- The outcome of the next question.  The caller's wish to stop may arrive
while the question is being answered, whatever the answer is. -/
def ask (script : Script) (request : NormalizationRequest) :
    Except RemoteError RawAnswer × Script :=
  let requests := script.requests ++ [request]
  let next := { script with
    answers := script.answers.tail
    requests
    cancelled := script.cancelled || script.cancelAfter == some requests.length }
  match script.answers.head? with
  | some outcome => (outcome, next)
  | none => (.error (.transport "no more answers"), next)

def service : Service Unit Script where
  bind := bind
  ask _ request script := script.ask request

end Script

/-- One batch of a session. -/
structure Batch where
  addresses : List AddressQuery
  cancelled : Bool := false
  cancelAfter : Option Nat := none
  /-- Whether the batch is run without looking at the caller's wish to stop. -/
  plain : Bool := false

/-- What can be told after a batch of a session. -/
structure BatchReport where
  bindCalls : Nat
  requests : List NormalizationRequest
  answersLeft : Nat
  cancelled : Bool
  outcome : Except Failure BatchResult

namespace Script

/-- The script at the start of a batch: no questions yet, and the caller's wish as
the batch gives it. -/
def startBatch (script : Script) (batch : Batch) : Script :=
  { script with requests := [], cancelled := batch.cancelled, cancelAfter := batch.cancelAfter }

def runBatch (script : Script) (region : String) (batch : Batch) : BatchReport × Script :=
  let attempt :=
    if batch.plain then service.geocode region batch.addresses
    else service.geocodeUnlessCancelled Script.cancelled region batch.addresses
  let (outcome, after) := attempt.run.run (script.startBatch batch)
  ({ bindCalls := after.bindCalls
     requests := after.requests
     answersLeft := after.answers.length
     cancelled := after.cancelled
     outcome }, after)

def runSession (region : String) : Script → List Batch → List BatchReport
  | _, [] => []
  | script, batch :: rest =>
      let (report, after) := script.runBatch region batch
      report :: runSession region after rest

end Script

end Geocoding
