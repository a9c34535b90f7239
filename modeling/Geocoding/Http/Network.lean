import Geocoding.Http.Status
import Geocoding.Url
import Geocoding.Url.Form

/-!
# Exchanges over a network

A network is given by the replies that are still to come over it.  Every message
that reaches its host takes the next reply and is kept, in order, as an exchange.
-/

namespace Geocoding.Http

/-- What a host does about a message. -/
inductive Reply
  /-- It says that the reply is still to come. -/
  | interim (later : Reply)
  /-- It replies with a status and sends a whole body. -/
  | answer (status : Status) (body : List UInt8)
  /-- It replies with a status, but does not send the end of the body in time. -/
  | stalled (status : Status)
  /-- It does not reply in time. -/
  | silence
  /-- It hangs up. -/
  | hangUp
deriving DecidableEq, Repr

structure Exchange where
  method : String
  url : String
  contentType : String
  body : String
deriving DecidableEq, Repr

namespace Exchange

def ofForm (url : Url) (pairs : List (String × String)) : Exchange where
  method := "POST"
  url := url.withoutCredentials.withoutFragment.text
  contentType := Url.Form.contentType
  body := String.ofList (Url.Form.encode pairs)

end Exchange

/-- What is still to come over a network, and what has been sent over it. -/
structure Network where
  reachable : Bool := true
  replies : List Reply := []
  exchanges : List Exchange := []
deriving DecidableEq, Repr

namespace Network

/-- Sends a message.  Without a host to reach it is lost, and when no more
replies are to come the host hangs up on it. -/
def send (network : Network) (message : Exchange) : Option Reply × Network :=
  if network.reachable then
    (network.replies.head?,
      { network with
        replies := network.replies.tail
        exchanges := network.exchanges ++ [message] })
  else (none, network)

end Network

end Geocoding.Http
