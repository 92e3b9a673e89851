import Gateway.Exchange.Forward

/-!
# Client connections

The requests of a client are served one after the other on its connection, until
one of them ends it. A request that the gateway cannot read, frame or find a
backend for is answered by the gateway itself, and the connection closes.

* `Server.exchangeWith` serves one request with a backend;
* `Server.serve` serves a whole connection.
-/

namespace Gateway

/-- What a server is told. -/
structure ServerSettings where
  /-- How much it waits and holds. -/
  limits : ForwardLimits := {}
  /-- How it picks backends. -/
  rules : Selection := {}
  /-- Whether its backends can be reached. -/
  network : Network := .joined
  /-- The identifiers that it gives to requests, by their number. -/
  requestId : Nat → String

/-- A server with everything that it can meet. -/
structure Server where
  /-- The backends. -/
  fleet : Fleet
  /-- For each backend, what the next attempts to connect to it come to; later
  attempts are taken and ended at once. -/
  answers : List (List Dialed) := []
  /-- The connections to backends that there were, with the number of the
  backend. -/
  contacts : List (Nat × Peer) := []
  /-- How many requests there were. -/
  requests : Nat := 0
  deriving DecidableEq, Repr, Inhabited

namespace Server

/-- Tells the client why its request is not served. -/
def reject (status : Nat) (message : String) (client : Peer) : Peer :=
  (client.write (Response.errorResponse status message)).2

/-- What the next attempt to connect to a backend comes to. -/
def nextAnswer (id : Nat) (s : Server) : Dialed :=
  match s.answers[id]? with
  | some (answer :: _) => answer
  | _ => .connected {}

/-- Opens the record of a request. -/
def openRecord (settings : ServerSettings) (address : SocketAddress)
    (request : Request) (s : Server) :
    Exchange × Server :=
  (.ofRequest (settings.requestId s.requests) address request, { s with
    requests := s.requests + 1 })

/-- Counts an exchange that has ended. -/
def finish (x : Exchange) (s : Server) : Server :=
  { s with fleet := s.fleet.measure x }

/-- Passes a request on to a backend. -/
def exchangeWith (settings : ServerSettings) (id : Nat) (backend : Backend)
    (request : Request) (framing : Framing) (client : Peer) (x : Exchange)
    (s : Server) : Bool × Peer × Server :=
  let dialed := settings.network.dial (s.nextAnswer id)
  let x := { x with backend := some backend.name }
  match x.forward settings.limits id backend.address dialed request framing
      client s.fleet with
  | .error _ => (false, client, s)
  | .ok (f, fleet) =>
    let contacts := match f.backend with
      | some peer => s.contacts ++ [(id, peer)]
      | none => s.contacts
    let answers := s.answers.modify id List.tail
    (f.keepAlive, f.client,
      finish f.record { s with
      fleet := fleet, answers := answers, contacts := contacts })

/-- Serves one request. -/
def handle (settings : ServerSettings) (address : SocketAddress)
    (request : Request) (framing : Framing) (client : Peer)
    (s : Server) : Bool × Peer × Server :=
  let (x, s) := s.openRecord settings address request
  match s.fleet.select settings.rules with
  | (.error e, fleet) =>
    (false, reject 503 e.message client,
      finish { x with outcome := .noBackend, status := some 503 } { s with
      fleet := fleet })
  | (.ok id, fleet) =>
    match fleet.pool.members[id]? with
    | none => (false, client, { s with fleet := fleet })
    | some m =>
      exchangeWith settings id m.backend request framing client x { s with
        fleet := fleet }

/-- Refuses a request whose body the gateway cannot find. -/
def refuseFraming (settings : ServerSettings) (address : SocketAddress)
    (request : Request) (client : Peer) (s : Server) : Peer × Server :=
  let (x, s) := s.openRecord settings address request
  (reject 400 "Unsupported request body framing" client,
    finish { x with outcome := .rejected, status := some 400 } s)

end Server

/-! ## An exchange leaves no more of the client's bytes to come than there
were -/

namespace Conversation

theorem tellBackend_client {data : Bytes} {c d : Conversation}
    (h : tellBackend data c = .ok () d) :
    d.client = c.client := by
  unfold tellBackend at h
  split at h <;> cases h
  rfl

/-- Sending to the client leaves its bytes to come alone. -/
theorem tellClient_reader {data : Bytes} {c d : Conversation}
    (h : tellClient data c = .ok () d) :
    d.client.reader = c.client.reader := by
  unfold tellClient at h
  split at h
  · rename_i peer hw
    cases h
    unfold Peer.write at hw
    simp only [Prod.mk.injEq] at hw
    rw [← hw.2]
  · cases h

/-- Relaying a request takes bytes off the client. -/
theorem relayRequest_length_le {limits : ForwardLimits} {framing : Framing}
    {c d : Conversation} (h : relayRequest limits framing c = .ok () d) :
    d.client.reader.remaining.length ≤ c.client.reader.remaining.length := by
  unfold relayRequest at h
  simp only at h
  split at h
  · rename_i hr
    cases h
    exact Pipe.relay_length_le hr
  · cases h

theorem relayResponse_reader {limits : ForwardLimits} {framing : Framing}
    {c d : Conversation} (h : relayResponse limits framing c = .ok () d) :
    d.client.reader = c.client.reader := by
  unfold relayResponse at h
  simp only at h
  split at h <;> cases h
  rfl

theorem readResponse_client {limits : ForwardLimits} {c d : Conversation}
    {r : Response}
    (h : readResponse limits c = .ok r d) : d.client = c.client := by
  unfold readResponse at h
  split at h
  · split at h <;> cases h
    rfl
  · cases h
  · cases h

theorem readFinal_client {limits : ForwardLimits} {c d : Conversation}
    {r : Response}
    (h : readFinal limits c = .ok r d) : d.client = c.client := by
  fun_induction readFinal limits c with
  | case1 => cases h
  | case2 c response d' hr _ ih => exact (ih h).trans (readResponse_client hr)
  | case3 c response d' hr _ => cases h; exact readResponse_client hr

/-- Sending a request on takes bytes off the client. -/
theorem sendRequest_length_le {limits : ForwardLimits} {request : Request}
    {framing : Framing} {c d : Conversation}
    (h : sendRequest limits request framing c = .ok () d) :
    d.client.reader.remaining.length ≤ c.client.reader.remaining.length := by
  unfold sendRequest at h
  split at h
  · cases h
  · rename_i c1 h1
    rw [← tellBackend_client h1]
    simp only at h
    split at h
    · cases h
    · rename_i c2 h2
      have h3 := relayRequest_length_le h
      split at h2
      · rw [tellClient_reader h2] at h3
        exact h3
      · cases h2
        exact h3

/-- Sending a response leaves the client's bytes to come alone. -/
theorem sendResponse_reader {limits : ForwardLimits} {request : Request}
    {response : Response} {c d : Conversation} {reuse : Bool}
    (h : sendResponse limits request response c = .ok reuse d) :
    d.client.reader = c.client.reader := by
  unfold sendResponse at h
  split at h
  · cases h
  · simp only at h
    split at h
    · cases h
    · rename_i h1
      split at h
      · cases h
      · rename_i h2
        cases h
        rw [relayResponse_reader h2, tellClient_reader h1]

/-- **An exchange takes bytes off the client and adds none.** -/
theorem converse_length_le {limits : ForwardLimits} {request : Request}
    {framing : Framing} {c d : Conversation} {reuse : Bool}
    (h : converse limits request framing c = .ok reuse d) :
    d.client.reader.remaining.length ≤ c.client.reader.remaining.length := by
  unfold converse at h
  split at h
  · cases h
  · rename_i c1 h1
    split at h
    · cases h
    · rename_i c2 h2
      rw [sendResponse_reader h, readFinal_client h2]
      exact sendRequest_length_le h1

end Conversation

namespace Exchange

/-- **A connection goes on only with bytes that were there before.** -/
theorem conclude_attempt_length_le {limits : ForwardLimits}
    {address : SocketAddress} {dialed : Dialed} {request : Request}
    {framing : Framing} {client : Peer} {x : Exchange}
    (h : (conclude (attempt limits address dialed request framing client x)).keepAlive = true) :
    (conclude (attempt limits address dialed request framing
      client x)).client.reader.remaining.length ≤ client.reader.remaining.length := by
  have settled : ∀ (e : ExchangeError) (f : Forwarded), f.keepAlive = false →
      (settle e f).keepAlive = false := by
    intro e f hf
    unfold settle
    simp only
    split <;> exact hf
  unfold attempt at h ⊢
  split at h
  · exact absurd h (by simp [conclude, settled])
  · exact absurd h (by simp [conclude, settled])
  · split at h
    · rename_i hc
      simp only [conclude]
      exact Conversation.converse_length_le hc
    · exact absurd h (by simp [conclude, settled])

/-- The same for a whole exchange. -/
theorem forward_length_le {limits : ForwardLimits} {id : Nat}
    {address : SocketAddress} {dialed : Dialed} {request : Request}
    {framing : Framing} {client : Peer} {x : Exchange} {fleet fleet' : Fleet}
    {f : Forwarded}
    (h : x.forward limits id address dialed request framing client fleet = .ok (f, fleet'))
    (hk : f.keepAlive = true) :
    f.client.reader.remaining.length ≤ client.reader.remaining.length := by
  unfold forward at h
  split at h
  · cases h
  · simp only at h
    split at h
    · cases h
    · split at h
      · cases h
      · cases h
        exact conclude_attempt_length_le hk

end Exchange

namespace Server

/-- Serving a request takes bytes off the client and adds none. -/
theorem handle_length_le {settings : ServerSettings} {address : SocketAddress}
    {request : Request} {framing : Framing} {client client' : Peer}
    {s s' : Server}
    (h : s.handle settings address request framing client = (true, client', s')) :
    client'.reader.remaining.length ≤ client.reader.remaining.length := by
  unfold handle at h
  simp only at h
  split at h
  · simp at h
  · split at h
    · simp at h
    · unfold exchangeWith at h
      simp only at h
      split at h
      · simp at h
      · rename_i hf
        simp only [Prod.mk.injEq] at h
        obtain ⟨hk, rfl, -⟩ := h
        exact Exchange.forward_length_le hf hk

/-! ## The whole connection -/

/-- Serves the requests of a connection, one after the other. -/
def serve (settings : ServerSettings) (address : SocketAddress) (client : Peer)
    (s : Server) :
    Peer × Server :=
  match _hr : client.readHead settings.limits.maxHeaderBytes with
  | (.error (.tooLarge _), p) =>
    (reject 431 "Request header fields too large" p, s)
  | (.error (.malformed flaw), p) => (reject 400 flaw.message p, s)
  | (.error _, p) => (p, s)
  | (.ok none, p) => (p, s)
  | (.ok (some raw), p) =>
    match Request.parse raw with
    | .error _ => (reject 400 "Malformed request" p, s)
    | .ok request =>
      match request.framing with
      | .error _ => s.refuseFraming settings address request p
      | .ok framing =>
        match _hh : s.handle settings address request framing p with
        | (false, p, s) => (p, s)
        | (true, q, s) => serve settings address q s
termination_by client.reader.remaining.length
decreasing_by
  have h1 := handle_length_le _hh
  unfold Peer.readHead at _hr
  simp only [Prod.mk.injEq] at _hr
  obtain ⟨h2, rfl⟩ := _hr
  exact Nat.lt_of_le_of_lt h1 (Reader.length_remaining_readHead (Prod.ext h2 rfl))

/-- Serves clients, one after the other. -/
def serveAll (settings : ServerSettings) :
    List (SocketAddress × Peer) → Server → List Peer × Server
  | [], s => ([], s)
  | (address, client) :: rest, s =>
    let (client, s) := s.serve settings address client
    let (clients, s) := serveAll settings rest s
    (client :: clients, s)

end Server

end Gateway
