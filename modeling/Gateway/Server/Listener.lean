import Gateway.Network

/-!
# Listeners

A listener accepts a client only while it has a permit left for it; other
clients wait, in the order in which they came. A failure to accept is transient
if it is about one client, or about resources that come free again.
-/

namespace Gateway

/-- Why clients cannot be accepted. -/
inductive ListenerError where
  /-- What was configured is no address. -/
  | invalidAddress (text : String)
  /-- The address cannot be listened at. -/
  | bind (address : SocketAddress) (fault : Fault)
  /-- There cannot be so many permits. -/
  | tooManyClients
  /-- A client could not be accepted. -/
  | accept (fault : Fault)
  /-- The listener has ended. -/
  | closed
  deriving DecidableEq, Repr, Inhabited

/-- No listener serves more clients at once. -/
def Listener.mostPermits : Nat := (UInt64.size - 1) / 8

namespace ListenerError

/-- The wording of the failure. -/
def message : ListenerError → String
  | .invalidAddress text => "invalid bind address " ++ Text.quoted text
  | .bind address fault =>
    "failed to bind " ++ address.text ++ ": " ++ fault.message
  | .tooManyClients =>
    "a semaphore may not have more than MAX_PERMITS permits ("
      ++ toString Listener.mostPermits ++ ")"
  | .accept fault => "failed to accept: " ++ fault.message
  | .closed => "listener closed"

/-- The kinds of failures after which the next client may be accepted. -/
def transientKinds : List FaultKind :=
  [.connectionRefused, .connectionAborted, .connectionReset, .interrupted,
    .timedOut, .wouldBlock, .outOfMemory]

/-- The system errors that say that descriptors, buffers or memory are used
up. -/
def exhaustion : List Nat := [24, 23, 105, 12]

/-- Whether it is worth while to go on accepting. -/
def isTransient : ListenerError → Bool
  | .accept fault =>
    transientKinds.contains fault.kind ||
      match fault with
      | .system code => exhaustion.contains code
      | .worded _ _ => false
  | _ => false

end ListenerError

/-- A listener with its permits. -/
structure Listener where
  /-- How many clients it serves at once. -/
  limit : Nat
  /-- The clients that wait. -/
  waiting : List Ip := []
  /-- Every permit that was given out, and whether it is still held. -/
  permits : List Bool := []
  deriving DecidableEq, Repr, Inhabited

namespace Listener

/-- Listens at a configured address. -/
def bind (binder : Binder) (address : String) :
    Except ListenerError SocketAddress :=
  match SocketAddress.ofText? address with
  | none => .error (.invalidAddress address)
  | some a =>
    match binder [] a with
    | .ok _ => .ok a
    | .error fault => .error (.bind a fault)

/-- A new listener; a limit of 0 counts as 1. None is made for more clients than
there can be permits. -/
def ofLimit? (limit : Nat) : Option Listener :=
  if max limit 1 ≤ mostPermits then some { limit := max limit 1 } else none

/-- Listens at a configured address, for so many clients at once. -/
def listen (binder : Binder) (address : String) (limit : Nat) :
    Except ListenerError (SocketAddress × Listener) :=
  match bind binder address with
  | .error e => .error e
  | .ok a =>
    match ofLimit? limit with
    | none => .error .tooManyClients
    | some l => .ok (a, l)

/-- How many permits are left. -/
def available (l : Listener) : Nat :=
  l.limit - l.permits.count true

/-- A client comes. -/
def connect (client : Ip) (l : Listener) : Listener :=
  { l with waiting := l.waiting ++ [client] }

/-- Accepts the client that has waited longest, if there is a permit for it. -/
def accept (l : Listener) : Option (Nat × Ip) × Listener :=
  if l.available = 0 then (none, l)
  else match l.waiting with
    | [] => (none, l)
    | client :: rest =>
      (some (l.permits.length, client), { l with
        waiting := rest, permits := l.permits ++ [true] })

/-- Gives a permit back, and tells whether it was held. -/
def release (permit : Nat) (l : Listener) : Bool × Listener :=
  (l.permits[permit]?.getD false, { l with permits := l.permits.set permit false })

end Listener

end Gateway
