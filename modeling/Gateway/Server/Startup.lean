import Gateway.Pool.Resolution
import Gateway.Server.Connection
import Gateway.Server.Listener

/-!
# Starting

From a configuration to a server that can accept clients. The parts are made in
a fixed order, and the first that cannot be made ends the attempt: the pool, the
listener for clients, the one for operators, the one for metrics.
-/

namespace Gateway

/-- Why the gateway cannot start. -/
inductive StartupError where
  /-- A backend cannot be resolved. -/
  | backend (error : ResolveError)
  /-- A setting holds no address. -/
  | invalidAddress (setting value : String)
  /-- Clients cannot be accepted. -/
  | listener (error : ListenerError)
  /-- Operators cannot be accepted. -/
  | adminBind (address : SocketAddress) (fault : Fault)
  /-- Those who read metrics cannot be accepted. -/
  | metricsBind (fault : Fault)
  deriving DecidableEq, Repr, Inhabited

namespace StartupError

/-- The wording of the failure. -/
def message : StartupError → String
  | .backend error => error.message
  | .invalidAddress setting value =>
    "invalid " ++ setting ++ " " ++ Text.quoted value
  | .listener .tooManyClients => ListenerError.tooManyClients.message
  | .listener error => "listener error: " ++ error.message
  | .adminBind address fault =>
    "failed to bind admin API on " ++ address.text ++ ": " ++ fault.message
  | .metricsBind fault =>
      "failed to install metrics exporter: failed to create HTTP listener: " ++
        fault.message

/-- Whether the program breaks off instead of reporting the failure. -/
def isAbrupt (e : StartupError) : Bool :=
  e == .listener .tooManyClients

/-- The exit code of the program. -/
def exitCode (e : StartupError) : Nat :=
  if e.isAbrupt then 101 else 1

end StartupError

/-- A gateway that has started. -/
structure Started where
  /-- The server. -/
  server : Server
  /-- Whether there is an interface for operators. -/
  hasAdmin : Bool
  deriving DecidableEq, Repr, Inhabited

namespace Config

/-- How much the gateway waits and holds. -/
def forwardLimits (c : Config) : ForwardLimits :=
  { connectTimeout := .seconds c.timeouts.connectSecs
    requestTimeout := .seconds c.timeouts.requestSecs
    maxHeaderBytes := c.limits.maxHeaderBytes
    bufferBytes := max c.limits.bufferBytes 1 }

/-- The settings of the server. -/
def serverSettings (c : Config) (network : Network)
    (requestId : Nat → String) : ServerSettings :=
  { limits := c.forwardLimits, rules := c.loadBalancing, network := network,
    requestId := requestId }

/-- Listens for operators, if they have an interface. -/
def bindAdmin (binder : Binder) (taken : List SocketAddress) (a : AdminConfig) :
    Except StartupError (Option SocketAddress) :=
  if a.enabled then
    match SocketAddress.ofText? a.bindAddress with
    | none => .error (.invalidAddress "admin.bind_address" a.bindAddress)
    | some address =>
      match binder taken address with
      | .ok _ => .ok (some address)
      | .error fault => .error (.adminBind address fault)
  else .ok none

/-- Listens for those who read metrics, if there are metrics to read. -/
def bindMetrics (binder : Binder) (taken : List SocketAddress)
    (o : ObservabilityConfig) :
    Except StartupError Unit :=
  if o.metricsEnabled then
    match SocketAddress.ofText? o.metricsAddress with
    | none =>
      .error (.invalidAddress "observability.metrics_address" o.metricsAddress)
    | some address => (binder taken address).mapError .metricsBind
  else .ok ()

/-- Reports that every backend is healthy. -/
def reportAll (p : Pool) : Metrics :=
  p.backends.foldl (fun m b => m.set (Metrics.health b.name) 1) {}

/-- Starts the gateway. -/
def start (lookup : Resolver) (binder : Binder) (c : Config) :
    Except StartupError Started :=
  match Pool.ofConfig lookup c.backends c.healthCheck with
  | .error e => .error (.backend e)
  | .ok pool =>
    match Listener.listen binder c.listener.bindAddress c.listener.maxConnections with
    | .error e => .error (.listener e)
    | .ok (address, _) =>
      match bindAdmin binder [address] c.admin with
      | .error e => .error e
      | .ok admin =>
        match bindMetrics binder (address :: admin.toList) c.observability with
        | .error e => .error e
        | .ok _ =>
          .ok { server := { fleet := ⟨pool, reportAll pool⟩ },
                hasAdmin := admin.isSome }

end Config

end Gateway
