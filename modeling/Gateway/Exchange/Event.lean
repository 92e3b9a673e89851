import Gateway.Exchange.Basic

/-!
# Log events

An exchange is logged twice: when its backend is known, and when it has ended.
How it ended decides the level, the message and the fields.
-/

namespace Gateway

/-- How much an event matters. -/
inductive Level where
  | debug
  | info
  | warn
  deriving DecidableEq, Repr, Inhabited

/-- The word for a level. -/
def Level.label : Level → String
  | .debug => "DEBUG"
  | .info => "INFO"
  | .warn => "WARN"

/-- What a field of an event holds. -/
inductive FieldValue where
  | text (s : String)
  | number (n : Nat)
  | truth (b : Bool)
  deriving DecidableEq, Repr, Inhabited

/-- An event. -/
structure Event where
  /-- How much it matters. -/
  level : Level
  /-- What happened. -/
  message : String
  /-- To what it happened. -/
  fields : List (String × FieldValue)
  deriving DecidableEq, Repr, Inhabited

namespace Exchange

/-- The fields of the request. -/
def requestFields (x : Exchange) : List (String × FieldValue) :=
  [("client", .text x.client.text), ("method", .text x.method),
    ("target", .text x.target)]

/-- The fields of the request with its backend. -/
def routeFields (x : Exchange) : List (String × FieldValue) :=
  x.requestFields ++ [("backend", .text x.backendName)]

/-- The status, where none counts as 0. -/
def statusField (x : Exchange) : String × FieldValue :=
  ("status", .number (x.status.getD 0))

/-- The event that the backend of a request is known. -/
def routed (x : Exchange) : Event :=
  ⟨.debug, "Proxying request", x.routeFields⟩

/-- The event that an exchange has ended. -/
def finished (x : Exchange) : Event :=
  match x.outcome with
  | .success =>
    ⟨.info, "Request completed", x.routeFields ++ [x.statusField,
      ("request_bytes", .number x.requestBytes),
      ("response_bytes", .number x.responseBytes)]⟩
  | .noBackend => ⟨.warn, "No backend available", x.requestFields⟩
  | .rejected => ⟨.debug, "Request rejected", x.routeFields ++ [x.statusField]⟩
  | .pending | .failed _ =>
    ⟨.warn, "Request failed",
      x.routeFields ++ [("outcome", .text x.outcome.label), x.statusField,
        ("response_started", .truth x.responseStarted)]⟩

end Exchange

end Gateway
