import Gateway.Address
import Gateway.Wire.Peer

/-!
# Networks

What comes of an attempt to connect: a connection, a refusal, or no answer at
all. A gateway may stand in a network from which no backend can be reached; then
every attempt is refused.

* `Network.dial` is what becomes of an attempt to connect;
* `Binder` is what the system answers to a listener. Which addresses a host has
  is not said here: `Binder.ofAdmits` is told, and refuses what is taken
  already.
-/

namespace Gateway

/-- What comes of an attempt to connect. -/
inductive Dialed where
  /-- A connection to a peer. -/
  | connected (peer : Peer)
  /-- A refusal. -/
  | refused (fault : Fault)
  /-- No answer. -/
  | unanswered
  deriving DecidableEq, Repr, Inhabited

/-- Whether backends can be reached. -/
inductive Network where
  /-- They can. -/
  | joined
  /-- No route leads to any. -/
  | isolated
  deriving DecidableEq, Repr, Inhabited

/-- What comes of an attempt to connect to a backend that would answer so. -/
def Network.dial (network : Network) (answer : Dialed) : Dialed :=
  match network with
  | .joined => answer
  | .isolated => .refused .networkUnreachable

namespace SocketAddress

/-- Whether a listener at one address hears what is meant for the other. -/
def covers (a b : SocketAddress) : Bool :=
  match a.ip with
  | .v4 ip => (ip.isUnspecified && b.ip.v4?.isSome) || b.ip.v4? == some ip
  | .v6 ip => ip.isUnspecified ||
    match ip.mapped? with
    | some ip => (ip.isUnspecified && b.ip.v4?.isSome) || b.ip.v4? == some ip
    | none => b.ip == .v6 ip

/-- Whether two listeners would be in each other's way. Port 0 stands for any
port that is free. -/
def collides (a b : SocketAddress) : Bool :=
  a.port != 0 && a.port == b.port && (a.covers b || b.covers a)

end SocketAddress

/-- What listening at an address comes to where others are taken. -/
abbrev Binder : Type := List SocketAddress → SocketAddress → Except Fault Unit

/-- The binder of a system that admits addresses so: it refuses those it does
not admit, and those that are taken. -/
def Binder.ofAdmits (admits : SocketAddress → Except Fault Unit) : Binder :=
  fun taken a =>
  match admits a with
  | .error fault => .error fault
  | .ok _ => if taken.any a.collides then .error .addressInUse else .ok ()

/-- The system lets the gateway listen wherever it wants to. -/
def Binder.Permits (binder : Binder) : Prop :=
  ∀ taken a, ∃ u, binder taken a = .ok u

end Gateway
