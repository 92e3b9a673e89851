import Gateway.Pool.Fleet
import Gateway.Probe.Basic

/-!
# Monitors

A monitor starts a probe of every backend in regular rounds, but never a second
one of a backend whose last has not ended. A probe that ends is recorded once.

* `Monitor.checkAll` starts probes and tells of which backends;
* `Monitor.finish` ends one.
-/

namespace Gateway

/-- A fleet with the probes that are under way. -/
structure Monitor where
  /-- The backends. -/
  fleet : Fleet
  /-- Whether a probe of each backend is under way. -/
  inFlight : List Bool
  deriving DecidableEq, Repr, Inhabited

namespace Monitor

/-- A monitor before its first round. -/
def ofFleet (fleet : Fleet) : Monitor :=
  { fleet := fleet, inFlight := List.replicate fleet.pool.size false }

/-- The backends of which no probe is under way. -/
def idle (m : Monitor) : List Nat :=
  (m.inFlight.zipIdx.filter fun (busy, _) => !busy).map (·.2)

/-- Starts a probe of every backend of which none is under way. -/
def checkAll (m : Monitor) : List Nat × Monitor :=
  (m.idle, { m with inFlight := m.inFlight.map fun _ => true })

/-- Ends the probe of a backend. -/
def finish (id : Nat) (result : Option FailureKind) (m : Monitor) : Monitor :=
  let counted : Fleet :=
    { m.fleet with
      metrics := m.fleet.metrics.add
        (Metrics.probes (m.fleet.nameOf id) (Probe.resultLabel result)) 1 }
  match counted.recordProbe id result with
  | .ok (_, fleet) => { fleet := fleet, inFlight := m.inFlight.set id false }
  | .error _ => { m with inFlight := m.inFlight.set id false }

/-- Ends several probes; `result` says how. -/
def finishAll (result : Nat → Option FailureKind) (ids : List Nat)
    (m : Monitor) : Monitor :=
  ids.foldl (fun m id => m.finish id (result id)) m

/-- A round whose probes all end before the next. -/
def round (result : Nat → Option FailureKind)
    (m : Monitor) : List Nat × Monitor :=
  let (ids, m) := m.checkAll
  (ids, m.finishAll result ids)

end Monitor

end Gateway
