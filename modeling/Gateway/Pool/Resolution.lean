import Gateway.Config.Schema
import Gateway.Fault
import Gateway.Host

/-!
# From configuration to a pool

Backend addresses are resolved once, in their order, and the first that cannot
be ends the attempt. A plain address is its own; only the host of another is
looked up. Weights and thresholds of 0 count as 1.
-/

namespace Gateway

/-- A backend's address could not be resolved. -/
structure ResolveError where
  /-- The address. -/
  address : String
  /-- Why not. -/
  fault : Fault
  deriving DecidableEq, Repr, Inhabited

/-- The wording of the failure. -/
def ResolveError.message (e : ResolveError) : String :=
  "cannot resolve backend address " ++ Text.quoted e.address ++ ": " ++ e.fault.message

/-- Resolves host and port. -/
def SocketAddress.resolve (lookup : Resolver) (s : String) :
    Except ResolveError SocketAddress :=
  let refuse (text : String) : Except ResolveError SocketAddress :=
    .error ⟨s, .worded .invalidInput text⟩
  match SocketAddress.ofText? s with
  | some a => .ok a
  | none =>
    match Text.cutLast? ':' s.toList with
    | none => refuse "invalid socket address"
    | some (host, port) =>
      match Text.unsigned? 10 Text.max16 port with
      | none => refuse "invalid port value"
      | some n =>
        if host.contains '\x00' then .error ⟨s, .nameHasNul⟩
        else match lookup (String.ofList host) with
          | .ok (ip, zone) =>
            .ok { ip := ip, port := n.toUInt16, scope := zone.toUInt32 }
          | .error e => .error ⟨s, .worded .uncategorized e.message⟩

/-- Builds a backend as it is configured. -/
def BackendConfig.resolve (lookup : Resolver) (b : BackendConfig) :
    Except ResolveError Backend :=
  match SocketAddress.resolve lookup b.address with
  | .ok address =>
    .ok (.ofWeight b.effectiveName address b.weight b.maxConnections)
  | .error e => .error e

/-- The thresholds in effect. -/
def HealthCheckConfig.thresholds (h : HealthCheckConfig) : Thresholds :=
  { unhealthy := max h.unhealthyThreshold 1, healthy := max h.healthyThreshold 1 }

/-- Builds the pool of a configuration. -/
def Pool.ofConfig (lookup : Resolver) (backends : List BackendConfig)
    (health : HealthCheckConfig) :
    Except ResolveError Pool :=
  match backends.mapM (BackendConfig.resolve lookup) with
  | .ok built => .ok (.ofBackends built health.thresholds)
  | .error e => .error e

end Gateway
