import Geocoding.Batch
import Geocoding.Http.Network
import Geocoding.Normalization.AnswerText

/-!
# The normalization service over HTTP

A question is posted as a form to the endpoint of the service.  The answer is the
body of a successful reply.  The question fails if the endpoint cannot be asked
over HTTP, if it is lost, if the reply is late or without success, or if its
body is no answer.
-/

namespace Geocoding.Http

def maxAddressSize : Nat := 65534

/-- Whether an address can be asked over HTTP.  The start of a message has no
way to write a host with a quotation mark, a grave accent or a brace in it, and
no room for an address that is too long. -/
def canAsk (url : Url) : Bool :=
  (url.scheme == "http".toList || url.scheme == "https".toList) &&
    ((url.authority.elim [] fun authority => authority.host.text).all
      fun character => character ∉ ['"', '\x60', '\x7b', '\x7d']) &&
    url.withoutCredentials.text.utf8ByteSize ≤ maxAddressSize

def about (reason : String) (url : Url) : RemoteError :=
  .transport (reason ++ " for url (" ++ url.withoutCredentials.text ++ ")")

/-- What a status tells with the body that is received behind it.  Only the body of a
successful reply is looked at. -/
def readBody (status : Status) (body : List UInt8) : Except RemoteError RawAnswer :=
  if status.isSuccess then
    (Answer.read (Text.Symbol.ofBytes body)).mapError
      fun _ => .transport "error decoding response body"
  else .error (.transport ("Unexpected response status: " ++ status.text))

def Reply.read (timeout : Duration) (url : Url) : Reply → Except RemoteError RawAnswer
  | .interim later => later.read timeout url
  | .answer status body => readBody status (status.bodyOf body)
  | .stalled status =>
    if status.isSuccess && status.hasBody then .error (.timeout timeout)
    else readBody status []
  | .silence => .error (.timeout timeout)
  | .hangUp => .error (about "error sending request" url)

def ask (timeout : Duration) (url : Url) (request : NormalizationRequest) (network : Network) :
    Except RemoteError RawAnswer × Network :=
  if canAsk url then
    match network.send (.ofForm url request.parameters) with
    | (some reply, next) => (reply.read timeout url, next)
    | (none, next) => (.error (about "error sending request" url), next)
  else (.error (about "builder error" url), network)

def endpointAddress (endpoint : String) : Except BindingError Url :=
  (Url.read endpoint.toList).mapError
    fun error => ⟨"Invalid endpoint '" ++ endpoint ++ "': " ++ error.message⟩

/-- The service at an endpoint, which is bound to without a message. -/
def service (endpoint : String) (timeout : Duration) : Service Url Network where
  bind network := (endpointAddress endpoint, network)
  ask := ask timeout

end Geocoding.Http
