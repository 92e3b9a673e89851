import Gateway.Wire.Reader
import Gateway.Wire.Sink

/-!
# Peers

One connection with both its sides.
-/

namespace Gateway

/-- A connection to a client or a backend. -/
structure Peer where
  /-- What it sends. -/
  reader : Reader := {}
  /-- What it is sent. -/
  sink : Sink := {}
  deriving DecidableEq, Repr, Inhabited

namespace Peer

/-- A peer that sends segments, then ends as told, and accepts everything. -/
def ofSegments (segments : List Bytes) (ending : Ending) : Peer :=
  { reader := { source := .ofSegments segments ending } }

/-- Everything that the peer was sent. -/
def received (p : Peer) : Bytes :=
  p.sink.accepted

/-- Reads a message head. -/
def readHead (max : Nat) (p : Peer) : Except HeadError (Option Bytes) × Peer :=
  match p.reader.readHead max with
  | (result, reader) => (result, { p with reader := reader })

/-- Sends bytes. -/
def write (data : Bytes) (p : Peer) : Except Fault Unit × Peer :=
  match p.sink.write data with
  | (result, sink) => (result, { p with sink := sink })

end Peer

end Gateway
