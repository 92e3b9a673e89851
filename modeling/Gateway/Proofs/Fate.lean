import Gateway.Proofs.Reusing

/-!
# What a response says about the connection

The head that a client is sent has one header at most about its connection,
which the gateway adds. Whether one is added depends on the version of the
client; the client reads it by the version on the status line, which is the
backend's. The two differ where a backend of version 1.0 answers a client of
version 1.1: a connection that goes on is then announced by no header, as
version 1.1 has it, in a head that says version 1.0.

* `Response.keepAlive_prepare`: what is read in a head that was made ready for a
  client;
* `Response.fate_as_read`: when it is what the gateway does;
* `Exchange.fate_of_success`: so it is at the end of every exchange that
  succeeds.
-/

namespace Gateway

/-- **What is read in a head that was made ready for a client**: that the
connection goes on, if it does and either the status line or the client has a
version that calls for no other word. -/
theorem Response.keepAlive_prepare (r : Response) (reuse : Bool)
    (client : Version) :
    (r.prepare reuse client).keepAlive =
      (reuse && (r.version == .http11 || client == .http10)) := by
  have hversion : (r.prepare reuse client).version = r.version := rfl
  rw [keepAlive, hversion]
  cases r.version with
  | http11 =>
    rw [Headers.keepAlive, Headers.hasElement, Headers.elements,
      getAll_connection_prepare]
    cases reuse <;> cases client <;> decide +kernel
  | http10 =>
    rw [Headers.keepAlive, Headers.hasElement, Headers.elements,
      getAll_connection_prepare]
    cases reuse <;> cases client <;> decide +kernel

/-- The client reads something else than the gateway does exactly if the
connection goes on, the status line has version 1.0, and the client speaks
version 1.1. -/
theorem Response.keepAlive_prepare_ne_iff (r : Response) (reuse : Bool)
    (client : Version) :
    (r.prepare reuse client).keepAlive ≠ reuse ↔
      reuse = true ∧ r.version = .http10 ∧ client = .http11 := by
  rw [keepAlive_prepare]
  cases reuse <;> cases r.version <;> cases client <;> decide

/-- **What a client makes of its connection.** A response was read from a
backend and made ready for a client. In the head that the client is sent, it
reads that its connection goes on exactly if it does and either the status line
has version 1.1 or the client has version 1.0. For what an exchange decides,
this is what the gateway does unless the connection goes on, the backend has
version 1.0 and the client version 1.1; and it is what the client reads in the
bytes if it takes so many headers. -/
theorem Response.fate_as_read {raw : Bytes} {r : Response}
    (hread : parse raw = .ok r) :
    (∀ reuse client, (r.prepare reuse client).keepAlive = true ↔
      reuse = true ∧ (r.version = .http11 ∨ client = .http10)) ∧
    ∀ (request : Request) (framing : Framing),
      let reuse := Conversation.reuses request r framing
      let sent := r.prepare reuse request.version
      (sent.keepAlive ≠ reuse ↔
        reuse = true ∧ r.version = .http10 ∧ request.version = .http11) ∧
      (sent.headers.length ≤ Head.maxHeaders → parse sent.encode = .ok sent) := by
  refine ⟨fun reuse client => ?_,
    fun request framing => ⟨r.keepAlive_prepare_ne_iff _ _, ?_⟩⟩
  · rw [keepAlive_prepare, Bool.and_eq_true, Bool.or_eq_true, beq_iff_eq, beq_iff_eq]
  · exact parse_encode ((wellFormed_of_parse hread).prepare _ _)

/-- A response of version 1.0 to a client of that version, whose connection goes
on. -/
theorem Response.fate_as_read_http10 :
    let raw := Bytes.ofText
      "HTTP/1.0 200 OK\r\nConnection: keep-alive\r\nContent-Length: 0\r\n\r\n"
    let request : Request := ⟨"GET", "/", .http10, ⟨[⟨"Connection", "keep-alive"⟩]⟩⟩
    ∃ r, parse raw = .ok r ∧ Conversation.reuses request r .empty = true ∧
      (r.prepare true .http10).keepAlive = true ∧
      parse (r.prepare true .http10).encode = .ok (r.prepare true .http10) := by
  intro raw request
  have hread : parse raw =
      .ok ⟨.http10, 200, "OK",
        ⟨[⟨"Connection", "keep-alive"⟩, ⟨"Content-Length", "0"⟩]⟩⟩ := by
    decide +kernel
  obtain ⟨hall, hexchange⟩ := fate_as_read hread
  refine ⟨_, hread, by decide +kernel, (hall true .http10).2 ⟨rfl, .inr rfl⟩, ?_⟩
  exact (hexchange request .empty).2 (by decide +kernel)

namespace Exchange

variable {limits : ForwardLimits} {id : Nat} {address : SocketAddress}
  {dialed : Dialed} {request : Request} {framing : Framing} {client : Peer}
  {x : Exchange} {fleet g : Fleet} {f : Forwarded}

/-- **What a client reads at the end of an exchange that succeeds**: the head
that it is sent says of its connection what comes of it, unless the connection
goes on and the backend's version is 1.0 where the client's is 1.1. -/
theorem fate_of_success
    (h : x.forward limits id address dialed request framing client fleet = .ok (f, g))
    (hsuccess : f.record.outcome = .success) :
    ∃ (response : Response) (answer : Bytes),
      f.client.received = client.received ++ (request.invitation framing ++
        ((response.prepare f.keepAlive request.version).encode ++ answer)) ∧
      ((response.prepare f.keepAlive request.version).keepAlive ≠ f.keepAlive ↔
        f.keepAlive = true ∧ response.version = .http10 ∧
        request.version = .http11) := by
  obtain rfl := conclude_of_forward h
  obtain ⟨backend, d, body, response, answering, answer, rfl, hrelayed, heq⟩ :=
    relayed_of_success hsuccess
  rw [heq]
  exact ⟨response, answer, hrelayed.sent, response.keepAlive_prepare_ne_iff _ _⟩

/-- **A connection goes on that the client is told will close**: the backend
speaks version 1.0 and wants its connection to go on, and the client speaks
version 1.1. -/
theorem forward_misstates_fate :
    let request : Request := ⟨"GET", "/", .http11, {}⟩
    let backend : Peer :=
      { reader := ⟨[], ⟨[Bytes.ofText
          "HTTP/1.0 200 OK\r\nConnection: keep-alive\r\nContent-Length: 0\r\n\r\n"],
        .silent⟩⟩ }
    let exchange : Exchange :=
      { id := "r", client := ⟨.loopback, 3, 0⟩, method := "GET", target := "/" }
    let member : Member := ⟨⟨"a", ⟨.loopback, 1, 0⟩, 1, none, by decide⟩, {}, 0⟩
    ∃ f g seen, exchange.forward {} 0 ⟨.loopback, 1, 0⟩
      (.connected backend) request .empty {}
        { pool := { members := [member] } } = .ok (f, g) ∧
      f.keepAlive = true ∧ f.client.received =
        Bytes.ofText "HTTP/1.0 200 OK\r\nContent-Length: 0\r\n\r\n" ∧
      Response.parse f.client.received = .ok seen ∧ seen.keepAlive = false := by
  intro request backend exchange member
  obtain ⟨f, g, hf, hforward, -⟩ :=
    forward_of_member {} ⟨.loopback, 1, 0⟩ (.connected backend) request .empty {} exchange
    (show ({ pool := { members := [member] } } : Fleet).pool.members[0]? =
      some member from rfl)
  have hended : f.keepAlive = true ∧
      f.client.received =
        Bytes.ofText "HTTP/1.0 200 OK\r\nContent-Length: 0\r\n\r\n" := by
    rw [← hf]
    decide +kernel
  refine ⟨f, g, ⟨.http10, 200, "OK", ⟨[⟨"Content-Length", "0"⟩]⟩⟩, hforward,
    hended.1, hended.2, ?_, ?_⟩
  · rw [hended.2]
    decide +kernel
  · decide +kernel

end Exchange

end Gateway
