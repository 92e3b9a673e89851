import Gateway.Address
import Gateway.Duration
import Gateway.Message.Flaw
import Gateway.Outcome
import Gateway.Wire.Relay

/-!
# Failed exchanges

Why an exchange did not come to its end, whose fault that is, and what the
client is told about it.

* `outcome` says what is recorded: a request that is malformed is no failure of
  the backend;
* `status?` says what the client is told, if it can still be told anything.
-/

namespace Gateway

/-- Why an exchange failed. -/
inductive ExchangeError where
  /-- The backend could not be connected to. -/
  | connect (address : SocketAddress) (fault : Fault)
  /-- The backend did not take the connection in time. -/
  | connectTimeout (address : SocketAddress)
  /-- The backend's connection failed. -/
  | backendIo (fault : Fault)
  /-- The backend ended its connection too soon. -/
  | backendClosed
  /-- What the backend sent is no response. -/
  | malformedResponse (error : HeadError)
  /-- The client's connection failed. -/
  | clientIo (fault : Fault)
  /-- The client ended its connection too soon. -/
  | clientClosed
  /-- What the client sent as the body of its request is none. -/
  | malformedRequest (flaw : Flaw)
  /-- The time for the exchange is over. -/
  | timeout (limit : Duration)
  deriving DecidableEq, Repr, Inhabited

namespace ExchangeError

/-- The wording of the failure. -/
def message : ExchangeError → String
  | .connect address fault =>
    "connect to " ++ address.text ++ " failed: " ++ fault.message
  | .connectTimeout address => "connect to " ++ address.text ++ " timed out"
  | .backendIo fault => "backend I/O failed: " ++ fault.message
  | .backendClosed => "backend closed the connection early"
  | .malformedResponse error => "malformed backend response: " ++ error.message
  | .clientIo fault => "client I/O failed: " ++ fault.message
  | .clientClosed => "client closed the connection early"
  | .malformedRequest flaw => "malformed request body: " ++ flaw.message
  | .timeout limit => "request did not complete within " ++ limit.text

/-- How the exchange ended. -/
def outcome : ExchangeError → Outcome
  | .malformedRequest _ => .rejected
  | .connect _ _ => .failed .connectRefused
  | .connectTimeout _ => .failed .connectTimeout
  | .backendIo _ | .backendClosed | .malformedResponse _ =>
    .failed .midStreamReset
  | .clientIo _ | .clientClosed => .failed .clientDisconnect
  | .timeout _ => .failed .timeout

/-- The status of the answer to the client. -/
def status? : ExchangeError → Option Nat
  | .connect _ _ | .connectTimeout _ | .backendIo _ | .backendClosed | .malformedResponse _ =>
    some 502
  | .timeout _ => some 504
  | .malformedRequest _ => some 400
  | .clientIo _ | .clientClosed => none

/-- The failure of a request's body on its way to the backend. -/
def ofRequestRelay (limit : Duration) : RelayError → ExchangeError
  | .read fault => .clientIo fault
  | .unexpectedEnd => .clientClosed
  | .invalidChunk flaw => .malformedRequest flaw
  | .write fault => .backendIo fault
  | .silent => .timeout limit

/-- The failure of a response's body on its way to the client. -/
def ofResponseRelay (limit : Duration) : RelayError → ExchangeError
  | .read fault => .backendIo fault
  | .unexpectedEnd => .backendClosed
  | .invalidChunk flaw => .malformedResponse (.malformed flaw)
  | .write fault => .clientIo fault
  | .silent => .timeout limit

/-- The failure to read a response's head. -/
def ofResponseHead (limit : Duration) : HeadError → ExchangeError
  | .closed => .backendClosed
  | .failed fault => .backendIo fault
  | .silent => .timeout limit
  | error => .malformedResponse error

/-- **A failure is recorded as one, or the client's request is rejected.** -/
theorem outcome_cases (e : ExchangeError) :
    e.outcome = .rejected ∨ ∃ kind, e.outcome = .failed kind := by
  cases e <;> simp [outcome]

end ExchangeError

end Gateway
