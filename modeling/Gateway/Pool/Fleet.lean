import Gateway.Metrics
import Gateway.Pool.Selection

/-!
# Pools under observation

A fleet is a pool with the metrics that its changes are reported to: the number
of connections whenever it changes, and the health of a backend whenever it
changes.
-/

namespace Gateway

/-- A pool and its metrics. -/
structure Fleet where
  /-- The pool. -/
  pool : Pool
  /-- What was measured. -/
  metrics : Metrics := {}
  deriving DecidableEq, Repr, Inhabited

namespace Fleet

/-- The name of a backend; there is none for an unknown number. -/
def nameOf (id : Nat) (f : Fleet) : String :=
  match f.pool.members[id]? with
  | some m => m.backend.name
  | none => ""

/-- Reports a change of health. -/
def reportHealth (name : String) (transition : Option Transition)
    (m : Metrics) : Metrics :=
  match transition with
  | none => m
  | some .becameHealthy => m.set (Metrics.health name) 1
  | some .becameUnhealthy => m.set (Metrics.health name) 0

/-- Takes a signal of a backend and reports what it changes. -/
def record (id : Nat)
    (signal : Pool → Except UnknownBackend (Option Transition × Pool))
    (f : Fleet) :
    Except UnknownBackend (Option Transition × Fleet) :=
  match signal f.pool with
  | .ok (t, pool) => .ok (t, ⟨pool, reportHealth (f.nameOf id) t f.metrics⟩)
  | .error e => .error e

/-- Takes a success of a backend. -/
def recordSuccess (id : Nat) (f : Fleet) :
    Except UnknownBackend (Option Transition × Fleet) :=
  f.record id (Pool.recordSuccess id)

/-- Takes a failure of a backend. -/
def recordFailure (id : Nat) (kind : FailureKind) (f : Fleet) :
    Except UnknownBackend (Option Transition × Fleet) :=
  f.record id (Pool.recordFailure id kind)

/-- Takes several failures of one kind. -/
def recordFailures (id : Nat) (kind : FailureKind) :
    (times : Nat) → Fleet → Except UnknownBackend Fleet
  | 0, f => .ok f
  | times + 1, f =>
    (f.recordFailure id kind).bind fun (_, f) => f.recordFailures id kind times

/-- Takes the result of a probe of a backend. -/
def recordProbe (id : Nat) (result : Option FailureKind) (f : Fleet) :
    Except UnknownBackend (Option Transition × Fleet) :=
  f.record id (Pool.recordProbe id result)

/-- Takes the outcome of a request to a backend. Outcomes that say nothing about
the backend are no signals. -/
def recordOutcome (id : Nat) (outcome : Outcome) (f : Fleet) :
    Except UnknownBackend (Option Transition × Fleet) :=
  match outcome with
  | .success => f.recordSuccess id
  | .failed kind => f.recordFailure id kind
  | .pending | .noBackend | .rejected => .ok (none, f)

/-- Begins a connection and gives how many there are now. -/
def beginConnection (id : Nat) (f : Fleet) :
    Except UnknownBackend (Nat × Fleet) :=
  match f.pool.beginConnection id with
  | .ok (n, pool) =>
    .ok (n, ⟨pool, f.metrics.set (Metrics.activeConnections (f.nameOf id)) n⟩)
  | .error e => .error e

/-- Ends a connection, if there is one. -/
def endConnection (id : Nat) (f : Fleet) : Except UnknownBackend Fleet :=
  match f.pool.endConnection id with
  | .ok (some n, pool) =>
    .ok ⟨pool, f.metrics.set (Metrics.activeConnections (f.nameOf id)) n⟩
  | .ok (none, pool) => .ok { f with pool := pool }
  | .error e => .error e

/-- Picks a backend for one request. -/
def select (s : Selection) (f : Fleet) : Except Unavailable Nat × Fleet :=
  match f.pool.select s with
  | (result, pool) => (result, { f with pool := pool })

/-- Gives out a turn among `count` candidates. -/
def turn (count : Nat) (f : Fleet) : Nat × Fleet :=
  match f.pool.turn count with
  | (i, pool) => (i, { f with pool := pool })

end Fleet

end Gateway
