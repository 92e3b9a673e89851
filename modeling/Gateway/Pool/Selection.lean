import Gateway.Pool.Policy

/-!
# Selection

A request goes to a backend that is healthy and has room. If no backend at all
is healthy, the pool can be told to fail open: then an unhealthy one with room
will do.
-/

namespace Gateway

/-- No backend can take the request. -/
structure Unavailable where
  /-- How many backends there are. -/
  total : Nat
  /-- How many of them are healthy. -/
  healthy : Nat
  deriving DecidableEq, Repr, Inhabited

/-- The wording of the failure. -/
def Unavailable.message (e : Unavailable) : String :=
  "no backend available (" ++ toString e.healthy ++ " of " ++
    toString e.total ++ " healthy)"

/-- The rules by which a pool's backends are picked. -/
structure Selection where
  /-- The policy. -/
  policy : Policy := .roundRobin
  /-- Whether unhealthy backends will do where none is healthy. -/
  failOpen : Bool := false
  deriving DecidableEq, Repr, Inhabited

namespace Pool

/-- All members with their numbers. -/
def candidates (p : Pool) : List Candidate :=
  p.members.zipIdx.map fun (m, i) => ⟨i, m⟩

/-- How many backends are healthy. -/
def healthyCount (p : Pool) : Nat :=
  p.members.countP fun m => m.health.healthy

/-- The candidates for a request. -/
def eligible (failOpen : Bool) (p : Pool) : List Candidate :=
  if failOpen && p.healthyCount == 0 then p.candidates.filter fun c =>
    c.member.hasCapacity
  else p.candidates.filter fun c => c.member.health.healthy && c.member.hasCapacity

/-- Picks a backend for one request. -/
def select (s : Selection) (p : Pool) : Except Unavailable Nat × Pool :=
  match s.policy.pick (p.eligible s.failOpen) p with
  | (some id, q) => (.ok id, q)
  | (none, q) => (.error ⟨p.size, p.healthyCount⟩, q)

end Pool

end Gateway
