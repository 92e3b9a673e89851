import Gateway.Address

/-!
# Backends

One server that requests are passed on to. A backend stands in a pool at a fixed
position, which is its number there.
-/

namespace Gateway

/-- A server behind the gateway. -/
structure Backend where
  /-- What logs and metrics call it. -/
  name : String
  /-- Where it listens. -/
  address : SocketAddress
  /-- Its share of requests under a policy by weight. -/
  weight : Nat := 1
  /-- How many connections it may have at once. -/
  capacity : Option Nat := none
  /-- No backend is left out for its weight. -/
  weight_pos : 0 < weight := by decide
  deriving DecidableEq, Repr

namespace Backend

/-- Builds a backend. A weight of 0 counts as 1. -/
def ofWeight (name : String) (address : SocketAddress) (weight : Nat)
    (capacity : Option Nat) : Backend :=
  { name := name, address := address, weight := max weight 1, capacity := capacity
    weight_pos := by omega }

/-- How the backend of a number is called before it has a name. -/
def label (id : Nat) : String :=
  "backend-" ++ toString id

end Backend

end Gateway
