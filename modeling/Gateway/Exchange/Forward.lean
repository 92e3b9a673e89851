import Gateway.Exchange.Failure
import Gateway.Exchange.Measure
import Gateway.Message.NextHop
import Gateway.Network
import Gateway.Pool.Fleet

/-!
# Forwarding

One request is passed on to one backend, and its response back. The steps come
in a fixed order: connect, send the head, tell the client to go on if it waits
for that, relay the request's body, read heads until one is final, send it,
relay its body. The first step that fails ends the exchange; the client is told
unless the response has begun.

* `Exchange.converse` does the steps after the connection is there;
* `Exchange.forward` adds the connection, the accounts in the fleet, and the
  answer to a client whose exchange has failed.
-/

namespace Gateway

/-- How much a forwarder waits and holds. -/
structure ForwardLimits where
  /-- For a connection. -/
  connectTimeout : Duration := .seconds 3
  /-- For a whole exchange. -/
  requestTimeout : Duration := .seconds 30
  /-- The longest head of a response. -/
  maxHeaderBytes : Nat := 65536
  /-- The most bytes of a body at once. -/
  bufferBytes : Nat := 16384
  deriving DecidableEq, Repr, Inhabited

/-- Both connections of an exchange, and its record. -/
structure Conversation where
  /-- The client. -/
  client : Peer
  /-- The backend. -/
  backend : Peer
  /-- The record. -/
  record : Exchange
  deriving DecidableEq, Repr, Inhabited

namespace Conversation

/-- A step of an exchange, which ends with a value or a failure and in either
case leaves a conversation. -/
abbrev Step (α : Type) : Type :=
  Conversation → EStateM.Result ExchangeError Conversation α

/-- Sends bytes to the backend. -/
def tellBackend (data : Bytes) : Step Unit := fun c =>
  match c.backend.write data with
  | (.ok _, peer) => .ok () { c with backend := peer }
  | (.error fault, peer) => .error (.backendIo fault) { c with backend := peer }

/-- Sends bytes to the client. -/
def tellClient (data : Bytes) : Step Unit := fun c =>
  match c.client.write data with
  | (.ok _, peer) => .ok () { c with client := peer }
  | (.error fault, peer) => .error (.clientIo fault) { c with client := peer }

/-- Relays the body of the request. -/
def relayRequest (limits : ForwardLimits) (framing : Framing) : Step Unit :=
  fun c =>
  let close (p : Pipe) : Conversation :=
    { client := { c.client with reader := p.reader },
      backend := { c.backend with sink := p.sink }
      record := { c.record with requestBytes := p.count } }
  match Pipe.relay framing limits.bufferBytes ⟨c.client.reader, c.backend.sink,
      c.record.requestBytes⟩ with
  | .ok _ p => .ok () (close p)
  | .error e p => .error (.ofRequestRelay limits.requestTimeout e) (close p)

/-- Relays the body of the response. -/
def relayResponse (limits : ForwardLimits) (framing : Framing) : Step Unit :=
  fun c =>
  let close (p : Pipe) : Conversation :=
    { client := { c.client with sink := p.sink },
      backend := { c.backend with reader := p.reader }
      record := { c.record with responseBytes := p.count } }
  match Pipe.relay framing limits.bufferBytes ⟨c.backend.reader, c.client.sink,
      c.record.responseBytes⟩ with
  | .ok _ p => .ok () (close p)
  | .error e p => .error (.ofResponseRelay limits.requestTimeout e) (close p)

/-- Reads one head of the backend. -/
def readResponse (limits : ForwardLimits) : Step Response := fun c =>
  match c.backend.readHead limits.maxHeaderBytes with
  | (.ok (some raw), peer) =>
    match Response.parse raw with
    | .ok response => .ok response { c with backend := peer }
    | .error flaw =>
      .error (.malformedResponse (.malformed flaw)) { c with backend := peer }
  | (.ok none, peer) => .error .backendClosed { c with backend := peer }
  | (.error e, peer) =>
    .error (.ofResponseHead limits.requestTimeout e) { c with backend := peer }

/-- A head that is read leaves fewer bytes to come. -/
theorem readResponse_length_lt {limits : ForwardLimits} {c d : Conversation}
    {r : Response} (h : readResponse limits c = .ok r d) :
    d.backend.reader.remaining.length < c.backend.reader.remaining.length := by
  unfold readResponse at h
  split at h
  · rename_i hr
    split at h
    · cases h
      unfold Peer.readHead at hr
      simp only [Prod.mk.injEq] at hr
      obtain ⟨h1, rfl⟩ := hr
      exact Reader.length_remaining_readHead (Prod.ext h1 rfl)
    · cases h
  · cases h
  · cases h

/-- Reads heads of the backend until one is final. -/
def readFinal (limits : ForwardLimits) : Step Response := fun c =>
  match _h : readResponse limits c with
  | .error e d => .error e d
  | .ok response d =>
    if response.isInterim then readFinal limits d else .ok response d
termination_by c => c.backend.reader.remaining.length
decreasing_by exact readResponse_length_lt _h

/-- Sends the request on: its head, the word to the client that waits for one,
and its body. -/
def sendRequest (limits : ForwardLimits) (request : Request)
    (framing : Framing) : Step Unit := fun c =>
  match tellBackend (request.prepare c.record.client.ip c.record.id).encode c with
  | .error e c => .error e c
  | .ok _ c =>
    let invited : EStateM.Result ExchangeError Conversation Unit :=
      if request.expectsContinue && framing != .empty then
        tellClient Response.goAhead c else .ok () c
    match invited with
    | .error e c => .error e c
    | .ok _ c => relayRequest limits framing c

/-- Whether the client's connection goes on after a response: both sides want
that, the protocol stays the same, and the end of the body shows. -/
def reuses (request : Request) (response : Response)
    (framing : Framing) : Bool :=
  request.keepAlive && response.keepAlive && response.status != 101 &&
    framing.isDelimited

/-- Sends a response to the client, and tells whether its connection goes on. -/
def sendResponse (limits : ForwardLimits) (request : Request)
    (response : Response) : Step Bool := fun c =>
  match response.framing request.isHead with
  | .error flaw => .error (.malformedResponse (.malformed flaw)) c
  | .ok framing =>
    let reuse := reuses request response framing
    let c := { c with record := { c.record with
      status := some response.status, responseStarted := true } }
    match tellClient (response.prepare reuse request.version).encode c with
    | .error e c => .error e c
    | .ok _ c =>
      match relayResponse limits framing c with
      | .error e c => .error e c
      | .ok _ c => .ok reuse c

/-- The exchange over two connections. -/
def converse (limits : ForwardLimits) (request : Request)
    (framing : Framing) : Step Bool := fun c =>
  match sendRequest limits request framing c with
  | .error e c => .error e c
  | .ok _ c =>
    match readFinal limits c with
    | .error e c => .error e c
    | .ok response c => sendResponse limits request response c

end Conversation

/-! ## The whole exchange -/

/-- What an exchange leaves. -/
structure Forwarded where
  /-- The client's connection. -/
  client : Peer
  /-- The backend's connection, if there was one. -/
  backend : Option Peer := none
  /-- The record. -/
  record : Exchange
  /-- Whether the client's connection goes on. -/
  keepAlive : Bool := false
  deriving DecidableEq, Repr, Inhabited

namespace Exchange

/-- Connects and does the steps; a failure leaves the conversation as it
stands. -/
def attempt (limits : ForwardLimits) (address : SocketAddress) (dialed : Dialed)
    (request : Request) (framing : Framing) (client : Peer) (x : Exchange) :
    Except ExchangeError Bool × Forwarded :=
  match dialed with
  | .refused fault =>
    (.error (.connect address fault), { client := client, record := x })
  | .unanswered =>
    let e : ExchangeError :=
      if limits.connectTimeout.millis ≤ limits.requestTimeout.millis then
        .connectTimeout address
      else .timeout limits.requestTimeout
    (.error e, { client := client, record := x })
  | .connected backend =>
    match Conversation.converse limits request framing ⟨client, backend, x⟩ with
    | .ok reuse c =>
      (.ok reuse, { client := c.client, backend := some c.backend, record := c.record })
    | .error e c =>
      (.error e, { client := c.client, backend := some c.backend, record := c.record })

/-- Tells the client that the exchange has failed, unless the response has begun
or the client is gone. -/
def settle (e : ExchangeError) (f : Forwarded) : Forwarded :=
  let ended := { f.record with outcome := e.outcome }
  match (if f.record.responseStarted then none else e.status?) with
  | none => { f with record := ended }
  | some status =>
    { f with
      record := { ended with status := some status }
      client := (f.client.write (Response.errorResponse status e.message)).2 }

/-- Closes the record of an attempt. -/
def conclude : Except ExchangeError Bool × Forwarded → Forwarded
  | (.ok reuse, f) =>
    { f with record := { f.record with outcome := .success }, keepAlive := reuse }
  | (.error e, f) => settle e f

/-- Passes a request on to a backend. A connection of the backend is counted
while the exchange lasts, and its outcome is recorded once. -/
def forward (limits : ForwardLimits) (id : Nat) (address : SocketAddress)
    (dialed : Dialed) (request : Request) (framing : Framing) (client : Peer)
    (x : Exchange) (fleet : Fleet) :
    Except UnknownBackend (Forwarded × Fleet) :=
  match fleet.beginConnection id with
  | .error e => .error e
  | .ok (_, fleet) =>
    let forwarded := conclude (attempt limits address dialed request framing client x)
    match fleet.endConnection id with
    | .error e => .error e
    | .ok fleet =>
      match fleet.recordOutcome id forwarded.record.outcome with
      | .error e => .error e
      | .ok (_, fleet) => .ok (forwarded, fleet)

end Exchange

/-- Counts an exchange that has ended. -/
def Fleet.measure (x : Exchange) (f : Fleet) : Fleet :=
  { f with metrics := x.measure f.metrics }

end Gateway
