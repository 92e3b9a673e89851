/-!
# Open connections

A tracker knows which client connections are open, and whether the gateway is
about to end. Connections are numbered in the order in which they came.
-/

namespace Gateway

/-- The connections of a gateway. -/
structure Tracker where
  /-- Every connection that there was, and whether it is open. -/
  connections : List Bool := []
  /-- Whether the gateway is about to end. -/
  draining : Bool := false
  deriving DecidableEq, Repr, Inhabited

namespace Tracker

/-- How many connections are open. -/
def active (t : Tracker) : Nat :=
  t.connections.count true

/-- Opens a connection and gives its number. -/
def track (t : Tracker) : Nat × Tracker :=
  (t.connections.length, { t with connections := t.connections ++ [true] })

/-- Closes a connection, and tells whether it was open. -/
def drop (number : Nat) (t : Tracker) : Bool × Tracker :=
  (t.connections[number]?.getD false, { t with
    connections := t.connections.set number false })

/-- From now on the gateway is about to end. -/
def beginDrain (t : Tracker) : Tracker :=
  { t with draining := true }

end Tracker

end Gateway
