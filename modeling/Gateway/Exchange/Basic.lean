import Gateway.Message.Request
import Gateway.Address
import Gateway.Outcome

/-!
# Exchanges

An exchange is one request of a client with what becomes of it. The record is
written while the exchange goes on, and read once when it has ended.
-/

namespace Gateway

/-- The record of one request and its response. -/
structure Exchange where
  /-- The identifier that a request gets that has none. -/
  id : String
  /-- The client. -/
  client : SocketAddress
  /-- The method of the request. -/
  method : String
  /-- The target of the request. -/
  target : String
  /-- The name of the backend, once there is one. -/
  backend : Option String := none
  /-- How many bytes of the request's body went to the backend. -/
  requestBytes : Nat := 0
  /-- How many bytes of the response's body went to the client. -/
  responseBytes : Nat := 0
  /-- The status that the client is told. -/
  status : Option Nat := none
  /-- Whether the head of the response went out to the client, so that no other
  can. -/
  responseStarted : Bool := false
  /-- How it ended. -/
  outcome : Outcome := .pending
  deriving DecidableEq, Repr, Inhabited

namespace Exchange

/-- The record of a request that has just arrived. -/
def ofRequest (id : String) (client : SocketAddress)
    (request : Request) : Exchange :=
  { id := id, client := client, method := request.method, target := request.target }

/-- The name of the backend, or that there is none. -/
def backendName (x : Exchange) : String :=
  x.backend.getD "none"

end Exchange

end Gateway
