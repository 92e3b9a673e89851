import Gateway.Proofs.Delivering
import Gateway.Proofs.Responses

/-!
# Connections that go on

Where the client's connection goes on after an exchange, the next message begins
in the same place for both sides. Whether it goes on is decided on the head that
the backend sent, and the client reads another head, with fewer headers; both
announce the same framing.

* `finalHead?_encode`: a final head that is written is the one that is found;
* `ReadsBack` says what a client finds that reads what it was sent;
* `Exchange.forward_in_sync`: it finds the response, and nothing is left.
-/

namespace Gateway

open Reader (IsLine)

variable {max : Nat} {bs rest : Bytes} {response : Response}

/-! ## Final heads -/

/-- A final head was read, and is not interim. -/
theorem parse_of_finalHead? (h : finalHead? max bs = some (response, rest)) :
    (∃ head, Response.parse head = .ok response) ∧ response.isInterim = false := by
  fun_induction finalHead? max bs with
  | case1 => cases h
  | case2 => cases h
  | case3 bs head rest' hhead response' hparse hinterim ih => exact ih h
  | case4 bs head rest' hhead response' hparse hinterim =>
    cases h
    exact ⟨⟨head, hparse⟩, by simpa using hinterim⟩

/-- **A final head that is written is the one that is found**, whatever follows
it. -/
theorem finalHead?_encode (h : response.WellFormed)
    (hroom : response.headers.length ≤ Head.maxHeaders)
    (hfinal : response.isInterim = false) (hmax : response.encode.length ≤ max)
    (rest : Bytes) :
    finalHead? max (response.encode ++ rest) = some (response, rest) := by
  rw [finalHead?_of_headOf? (Response.headOf?_encode h hmax rest)
    (Response.parse_encode h hroom), hfinal]
  rfl

/-- The word to go on is an interim response. -/
theorem finalHead?_invitation (request : Request) (framing : Framing)
    (hmax : (request.invitation framing).length ≤ max) (rest : Bytes) :
    finalHead? max (request.invitation framing ++ rest) = finalHead? max rest := by
  rw [Request.invitation] at hmax ⊢
  split
  · rename_i hexpects
    rw [if_pos hexpects] at hmax
    have hwell : Response.WellFormed ⟨.http11, 100, "Continue", {}⟩ :=
      ⟨by decide, unbroken_of_not_mem (by decide),
        fun _ hnone => absurd hnone List.not_mem_nil⟩
    have hencode : Response.goAhead =
        Response.encode ⟨.http11, 100, "Continue", {}⟩ := by decide +kernel
    rw [hencode] at hmax ⊢
    rw [finalHead?_of_headOf? (Response.headOf?_encode hwell hmax rest)
      (Response.parse_encode hwell (by decide))]
    rfl
  · rfl

/-! ## Clients -/

/-- A client that reads these bytes as the gateway itself reads a backend, in
whatever pieces they arrive, finds the response behind interim ones and then its
body, and nothing is left. -/
def ReadsBack (request : Request) (response : Response) (answering : Framing)
    (answer sent : Bytes) : Prop :=
  ∀ (limits : ForwardLimits) (c : Conversation) (room : Nat) (sink : Sink),
    sent.length ≤ limits.maxHeaderBytes → 0 < room → sink.room = none →
    c.backend.reader.remaining = sent →
    ∃ q p, Conversation.readFinal limits c = .ok response { c with backend := q } ∧
      response.framing request.isHead = .ok answering ∧
      Pipe.relay answering room ⟨q.reader, sink, 0⟩ = .ok () p ∧
      p.sink.accepted = sink.accepted ++ answer ∧
      p.reader.remaining = []

/-- **A response reads back** behind the word to go on. -/
theorem readsBack_encode {request : Request} {framing answering : Framing}
    {answer : Bytes} (h : response.WellFormed)
    (hroom : response.headers.length ≤ Head.maxHeaders)
    (hfinal : response.isInterim = false)
    (hframing : response.framing request.isHead = .ok answering)
    (hb : Delimits IsShortLine answering answer) :
    ReadsBack request response answering answer
      (request.invitation framing ++ (response.encode ++ answer)) := by
  intro limits c room sink hmax hpos hsink hbytes
  rw [List.length_append, List.length_append] at hmax
  have hhead : finalHead? limits.maxHeaderBytes c.backend.reader.remaining =
      some (response, answer) := by
    rw [hbytes, finalHead?_invitation request framing (by omega),
      finalHead?_encode h hroom hfinal (by omega)]
  obtain ⟨q, hq, hrest, -, -⟩ := Conversation.readFinal_of_finalHead? hhead
  obtain ⟨p, hp, hmoved, hnil⟩ :=
    Pipe.relay_of_delimits (p := ⟨q.reader, sink, 0⟩) hpos hb hsink
      (hrest.trans (List.append_nil answer).symm)
  exact ⟨q, p, hq, hframing, hp, hmoved.sent, hnil⟩

namespace Exchange

variable {limits : ForwardLimits} {id : Nat} {address : SocketAddress}
  {dialed : Dialed} {request : Request} {framing : Framing} {client : Peer}
  {x : Exchange} {fleet g : Fleet} {f : Forwarded}

/-- **A connection that goes on is in sync.** What is left of the client's bytes
begins right behind the body of its request. What the client was sent is a final
response that was made ready for it, whose end shows: if it has no more headers
than a head may have and no long lines among its chunks, a client that reads it
finds this response, which does not close the connection, and its body, and
nothing is left. -/
theorem forward_in_sync (hframing : request.framing = .ok framing)
    (h : x.forward limits id address dialed request framing client fleet = .ok (f, g))
    (hreuse : f.keepAlive = true) :
    ∃ backend q body response answering answer sent,
      dialed = .connected backend ∧ f.backend = some q ∧
      takeBody? framing client.reader.remaining =
        some (body, f.client.reader.remaining) ∧
      finalHead? limits.maxHeaderBytes backend.reader.remaining =
        some (response, answer ++ q.reader.remaining) ∧
      response.framing request.isHead = .ok answering ∧ answering ≠ .untilClose ∧
      f.client.received = client.received ++ sent ∧
      (response.prepare true request.version).isInterim = false ∧
      (response.prepare true request.version).headers.hasElement "connection"
        "close" = false ∧
      ((response.prepare true request.version).headers.length ≤ Head.maxHeaders →
        Delimits IsShortLine answering answer →
        ReadsBack request (response.prepare true request.version) answering
          answer sent) := by
  obtain rfl := conclude_of_forward h
  have hsuccess := outcome_of_keepAlive (keepAlive_attempt _ _ _ _ _ _ _) hreuse
  obtain ⟨backend, d, body, response, answering, answer, rfl, hrelayed, heq⟩ :=
    relayed_of_success hsuccess
  rw [heq] at hreuse ⊢
  have hreuses : Conversation.reuses request response answering = true := hreuse
  have hdelimited := Request.isDelimited_framing hframing
  have hb := (hrelayed.enclosed (.inl hdelimited)).delimits hdelimited
  have hsent := hrelayed.sent
  rw [hreuses] at hsent
  obtain ⟨⟨head, hparse⟩, hfinal⟩ := parse_of_finalHead? hrelayed.head
  refine ⟨backend, d.backend, body, response, answering, answer, _, rfl, rfl,
    takeBody?_eq_some_iff.2 ⟨hb, hrelayed.taken⟩, hrelayed.head,
    hrelayed.framed, ?_, hsent, hfinal,
    response.hasElement_close_prepare request.version, fun hroom hshort => ?_⟩
  · rintro rfl
    rw [Conversation.reuses, Bool.and_eq_true] at hreuses
    cases hreuses.2
  · exact readsBack_encode ((Response.wellFormed_of_parse hparse).prepare true
      request.version) hroom hfinal ((response.framing_prepare true
        request.version _).trans hrelayed.framed) hshort

/-- A client of version 1.0 asks for a head alone and wants its connection to go
on. -/
theorem forward_in_sync_head :
    let request : Request := ⟨"HEAD", "/", .http10, ⟨[⟨"Connection", "keep-alive"⟩]⟩⟩
    let response : Response :=
      ⟨.http11, 200, "OK", ⟨[⟨"Content-Length", "5"⟩, ⟨"Connection", "content-length"⟩]⟩⟩
    let client : Peer :=
      { reader := ⟨Bytes.ofText "GE", ⟨[Bytes.ofText "T"], .silent⟩⟩ }
    let backend : Peer := { reader := ⟨[], ⟨[response.encode], .silent⟩⟩ }
    let exchange : Exchange :=
      { id := "r", client := ⟨.loopback, 3, 0⟩, method := "HEAD", target := "/" }
    let member : Member := ⟨⟨"a", ⟨.loopback, 1, 0⟩, 1, none, by decide⟩, {}, 0⟩
    ∃ f g, exchange.forward {} 0 ⟨.loopback, 1, 0⟩
      (.connected backend) request .empty client
        { pool := { members := [member] } } = .ok (f, g) ∧
      f.client.reader.remaining = Bytes.ofText "GET" ∧
      ReadsBack request (response.prepare true .http10) .empty [] f.client.received := by
  intro request response client backend exchange member
  obtain ⟨f, g, hf, hforward, -⟩ :=
    forward_of_member {} ⟨.loopback, 1, 0⟩ (.connected backend) request .empty
      client exchange
    (show ({ pool := { members := [member] } } : Fleet).pool.members[0]? =
      some member from rfl)
  have hreuse : f.keepAlive = true := by
    rw [← hf]
    decide +kernel
  obtain ⟨_, q, body, _, answering, answer, sent, hdialed, -, hbody, hhead,
      hframed, -, hsent, -, -, hreads⟩ :=
    forward_in_sync rfl hforward hreuse
  cases hdialed
  have hfound : finalHead? ({} : ForwardLimits).maxHeaderBytes backend.reader.remaining =
      some (response, []) ∧ response.framing request.isHead = .ok .empty := by
    decide +kernel
  rw [hfound.1, Option.some_inj, Prod.mk.injEq] at hhead
  obtain ⟨rfl, htail⟩ := hhead
  obtain ⟨rfl, -⟩ := List.append_eq_nil_iff.1 htail.symm
  rw [hfound.2] at hframed
  cases hframed
  rw [takeBody?, Option.some_inj, Prod.mk.injEq] at hbody
  obtain rfl : f.client.received = sent := hsent
  exact ⟨f, g, hforward, hbody.2.symm, hreads (by decide +kernel) rfl⟩

end Exchange

end Gateway
