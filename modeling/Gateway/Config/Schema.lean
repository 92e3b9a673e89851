import Gateway.Pool.Selection

/-!
# Configuration

What the gateway is told before it starts. Every setting but a backend's address
has a default, so the empty configuration is one (though it has no backend and
does not validate).
-/

namespace Gateway

/-- Where clients are accepted. -/
structure ListenerConfig where
  /-- The address to listen at. -/
  bindAddress : String := "0.0.0.0:8080"
  /-- How many clients may be connected at once. -/
  maxConnections : Nat := 10000
  deriving DecidableEq, Repr, Inhabited

/-- A backend as it is configured. -/
structure BackendConfig where
  /-- What logs and metrics call it; by default its address. -/
  name : Option String := none
  /-- Host and port. -/
  address : String
  /-- Its share of requests under a policy by weight. -/
  weight : Nat := 1
  /-- How many connections it may have at once. -/
  maxConnections : Option Nat := none
  deriving DecidableEq, Repr, Inhabited

/-- The name in effect. -/
def BackendConfig.effectiveName (b : BackendConfig) : String :=
  b.name.getD b.address

/-- How backends are probed, and when their health changes. -/
structure HealthCheckConfig where
  /-- Whether they are probed. -/
  enabled : Bool := true
  /-- Seconds between probes. -/
  intervalSecs : Nat := 5
  /-- Seconds for one probe. -/
  timeoutSecs : Nat := 2
  /-- The path to ask for; without one a probe only connects. -/
  path : Option String := none
  /-- Failures in a row that make a backend unhealthy. -/
  unhealthyThreshold : Nat := 3
  /-- Successes in a row that make it healthy again. -/
  healthyThreshold : Nat := 2
  deriving DecidableEq, Repr, Inhabited

/-- How long the gateway waits. -/
structure TimeoutConfig where
  /-- Seconds for a connection to a backend. -/
  connectSecs : Nat := 3
  /-- Seconds for a whole request with its response. -/
  requestSecs : Nat := 30
  /-- Seconds for the next request of a client. -/
  idleSecs : Nat := 60
  deriving DecidableEq, Repr, Inhabited

/-- How much the gateway holds. -/
structure LimitConfig where
  /-- Bytes of a head. -/
  maxHeaderBytes : Nat := 65536
  /-- Bytes of a body at once. -/
  bufferBytes : Nat := 16384
  deriving DecidableEq, Repr, Inhabited

/-- How log lines are written. -/
inductive LogFormat where
  | pretty
  | json
  deriving DecidableEq, Repr, Inhabited

namespace LogFormat

/-- The word for a format. -/
def label : LogFormat → String
  | .pretty => "pretty"
  | .json => "json"

/-- The format of a word. -/
def ofLabel? (word : String) : Option LogFormat :=
  [pretty, json].find? fun format => format.label == word

end LogFormat

/-- What the gateway shows of itself. -/
structure ObservabilityConfig where
  /-- The least level that is logged. -/
  logLevel : String := "info"
  /-- How log lines are written. -/
  logFormat : LogFormat := .pretty
  /-- Whether metrics can be read over the network. -/
  metricsEnabled : Bool := false
  /-- The address to read them at. -/
  metricsAddress : String := "0.0.0.0:9090"
  deriving DecidableEq, Repr, Inhabited

/-- The interface for operators. -/
structure AdminConfig where
  /-- Whether there is one. -/
  enabled : Bool := false
  /-- The key that opens it. -/
  apiKey : String := "CHANGE_ME_IN_PRODUCTION"
  /-- The address to listen at. -/
  bindAddress : String := "127.0.0.1:8081"
  deriving DecidableEq, Repr, Inhabited

/-- A whole configuration. -/
structure Config where
  listener : ListenerConfig := {}
  backends : List BackendConfig := []
  loadBalancing : Selection := {}
  healthCheck : HealthCheckConfig := {}
  timeouts : TimeoutConfig := {}
  limits : LimitConfig := {}
  observability : ObservabilityConfig := {}
  admin : AdminConfig := {}
  deriving DecidableEq, Repr, Inhabited

end Gateway
