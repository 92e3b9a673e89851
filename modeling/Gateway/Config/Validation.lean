import Gateway.Address
import Gateway.Config.Schema
import Gateway.Text.Blank
import Gateway.Text.Quoted

/-!
# Validation

What a configuration can say that makes no sense. All flaws are given, part
after part, each in the order of the settings; a configuration is valid if there
is none.

* `ConfigFlaw.message` is the one-line wording, `ConfigFlaw.report` the full
  form;
* `Config.flaws` is the concatenation of the flaws of the parts.
-/

namespace Gateway

/-- What is wrong with a configuration. -/
inductive ConfigFlaw where
  /-- There is no backend. -/
  | noBackends
  /-- A setting holds no address. -/
  | invalidAddress (setting value : String)
  /-- A backend has the weight 0. -/
  | zeroWeight (name : String)
  /-- A backend has no room for a connection. -/
  | zeroCapacity (name : String)
  /-- A backend has the name of an earlier one. -/
  | duplicateName (name : String)
  /-- A setting is 0. -/
  | notPositive (setting : String)
  /-- The path of probes does not begin at the root. -/
  | invalidPath (path : String)
  /-- The interface for operators is open to everybody. -/
  | emptyApiKey
  deriving DecidableEq, Repr, Inhabited

namespace ConfigFlaw

/-- The wording of a flaw. -/
def message : ConfigFlaw → String
  | .noBackends => "no backends configured"
  | .invalidAddress setting value =>
    "invalid address for " ++ setting ++ ": " ++ value
  | .zeroWeight name => "backend " ++ name ++ " has weight 0 (must be >= 1)"
  | .zeroCapacity name => "backend " ++ name ++ " has max_connections 0"
  | .duplicateName name => "duplicate backend name: " ++ name
  | .notPositive setting => setting ++ " must be greater than zero"
  | .invalidPath path => "health_check.path must start with '/': " ++ path
  | .emptyApiKey =>
    "admin.api_key must not be empty when the admin API is enabled"

/-- The full form of a flaw: its name, with what it is about. -/
def report : ConfigFlaw → String
  | .noBackends => "NoBackends"
  | .invalidAddress setting value =>
      "InvalidAddress \x7b field: " ++ Text.quoted setting ++ ", value: " ++
        Text.quoted value ++ " \x7d"
  | .zeroWeight name => "ZeroWeight(" ++ Text.quoted name ++ ")"
  | .zeroCapacity name => "ZeroCapacity(" ++ Text.quoted name ++ ")"
  | .duplicateName name => "DuplicateName(" ++ Text.quoted name ++ ")"
  | .notPositive setting => "NotPositive(" ++ Text.quoted setting ++ ")"
  | .invalidPath path => "InvalidPath(" ++ Text.quoted path ++ ")"
  | .emptyApiKey => "EmptyApiKey"

/-- A flaw, if the condition holds. -/
def whenever (condition : Bool) (flaw : ConfigFlaw) : List ConfigFlaw :=
  if condition then [flaw] else []

end ConfigFlaw

open ConfigFlaw

/-- Whether a text is a socket address. -/
def isSocketAddress (s : String) : Bool :=
  (SocketAddress.ofText? s).isSome

/-- Whether a text is a socket address or a host name with a port. -/
def isHostAndPort (s : String) : Bool :=
  isSocketAddress s ||
    match Text.cutLast? ':' s.toList with
    | some (host, port) =>
      !host.isEmpty && !host.contains ':' && (Text.unsigned? 10 Text.max16 port).isSome
    | none => false

/-- The flaws of the listener's settings. -/
def ListenerConfig.flaws (l : ListenerConfig) : List ConfigFlaw :=
  whenever (!isSocketAddress l.bindAddress)
    (.invalidAddress "listener.bind_address" l.bindAddress) ++
      whenever (l.maxConnections == 0) (.notPositive "listener.max_connections")

/-- The flaws of one backend by itself. -/
def BackendConfig.flaws (b : BackendConfig) : List ConfigFlaw :=
  whenever (!isHostAndPort b.address)
      (.invalidAddress ("backends[" ++ b.effectiveName ++ "].address") b.address)
    ++ whenever (b.weight == 0) (.zeroWeight b.effectiveName)
    ++ whenever (b.maxConnections == some 0) (.zeroCapacity b.effectiveName)

/-- The flaws of backends, of which others with the names `seen` come before. -/
def BackendConfig.flawsOfAll (seen : List String) :
    List BackendConfig → List ConfigFlaw
  | [] => []
  | b :: rest =>
    b.flaws ++ whenever (seen.contains b.effectiveName) (.duplicateName b.effectiveName)
      ++ flawsOfAll (b.effectiveName :: seen) rest

/-- The flaws of the settings for probes. -/
def HealthCheckConfig.flaws (h : HealthCheckConfig) : List ConfigFlaw :=
  whenever (h.intervalSecs == 0) (.notPositive "health_check.interval_secs")
    ++ whenever (h.timeoutSecs == 0) (.notPositive "health_check.timeout_secs")
    ++ whenever (h.unhealthyThreshold == 0)
      (.notPositive "health_check.unhealthy_threshold")
    ++ whenever (h.healthyThreshold == 0) (.notPositive "health_check.healthy_threshold")
    ++ match h.path with
      | some path =>
        whenever (path.toList.head? != some '/') (.invalidPath path)
      | none => []

/-- The flaws of the timeouts. -/
def TimeoutConfig.flaws (t : TimeoutConfig) : List ConfigFlaw :=
  whenever (t.connectSecs == 0) (.notPositive "timeouts.connect_secs")
    ++ whenever (t.requestSecs == 0) (.notPositive "timeouts.request_secs")
    ++ whenever (t.idleSecs == 0) (.notPositive "timeouts.idle_secs")

/-- The flaws of the limits. -/
def LimitConfig.flaws (l : LimitConfig) : List ConfigFlaw :=
  whenever (l.maxHeaderBytes == 0) (.notPositive "limits.max_header_bytes")
    ++ whenever (l.bufferBytes == 0) (.notPositive "limits.buffer_bytes")

/-- The flaws of the settings for metrics, which count only if there are metrics
to read. -/
def ObservabilityConfig.flaws (o : ObservabilityConfig) : List ConfigFlaw :=
  whenever (o.metricsEnabled && !isSocketAddress o.metricsAddress)
    (.invalidAddress "observability.metrics_address" o.metricsAddress)

/-- The flaws of the settings for operators, which count only if they have an
interface. -/
def AdminConfig.flaws (a : AdminConfig) : List ConfigFlaw :=
  if a.enabled then
    whenever (!isSocketAddress a.bindAddress)
      (.invalidAddress "admin.bind_address" a.bindAddress) ++
        whenever (Text.trim a.apiKey.toList == []) .emptyApiKey
  else []

/-- All flaws of a configuration. -/
def Config.flaws (c : Config) : List ConfigFlaw :=
  c.listener.flaws ++ whenever c.backends.isEmpty .noBackends
    ++ BackendConfig.flawsOfAll [] c.backends ++ c.healthCheck.flaws ++ c.timeouts.flaws
    ++ c.limits.flaws ++ c.observability.flaws ++ c.admin.flaws

end Gateway
