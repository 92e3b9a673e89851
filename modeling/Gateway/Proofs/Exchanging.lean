import Gateway.Proofs.Accounting
import Gateway.Proofs.Splitting
import Gateway.Server.Connection

/-!
# Exchanges that go through, and exchanges that break off

With a backend that takes every byte and answers in full, an exchange passes on
exactly one request: its head, made ready for the backend, and its body, and
leaves the client's connection behind it. With a request that is not whole,
whatever the backend does, a part of it from the front is passed on at most, and
the connection ends.

* `Answers` says what a backend has to send;
* `Conversation.sendRequest_cases`, `Conversation.sendResponse_cases`: what a
  step sends before it relays a body;
* `Conversation.converse_complete`, `Conversation.sendRequest_cut`: the two
  cases for two connections;
* `Exchange.attempt_complete`, `Exchange.attempt_cut`: the same for what an
  exchange leaves.
-/

namespace Gateway

open Reader (IsLine)

/-! ## Writes -/

namespace Peer

/-- A write leaves alone what the peer sends. The peer receives all bytes, and
stays without a limit if it has none; or it has one, and receives a part of them
from their front. -/
theorem write_cases (p : Peer) (data : Bytes) :
    ∃ q, q.reader = p.reader ∧
      (p.write data = (.ok (), q) ∧ q.received = p.received ++ data ∧
        (p.sink.room = none → q.sink.room = none) ∨
        ∃ fault part, p.write data = (.error fault, q) ∧ part <+: data ∧
          q.received = p.received ++ part ∧
          p.sink.room ≠ none) := by
  rcases p.sink.write_cases data with ⟨t, ht⟩ | ⟨fault, t, ht, hlimit⟩
  · refine ⟨{ p with sink := t }, rfl,
      .inl ⟨by rw [write, ht], Sink.accepted_write ht, fun hp => ?_⟩⟩
    obtain ⟨t', ht', hroom, -⟩ := Sink.write_of_unlimited data hp
    rw [ht] at ht'
    cases ht'
    exact hroom
  · obtain ⟨n, -, haccepted⟩ := Sink.accepted_write_error ht
    exact ⟨{ p with sink := t }, rfl,
      .inr ⟨fault, data.take n, by rw [write, ht], List.take_prefix n data,
        haccepted, hlimit⟩⟩

end Peer

/-- What a client is told that waits for a word before it sends its body. -/
def Request.invitation (request : Request) (framing : Framing) : Bytes :=
  if request.expectsContinue && framing != .empty then Response.goAhead else []

/-! ## Answers -/

/-- The bytes are a whole answer to a request: heads of interim responses, the
head of a response that lets the connection go on, and its body, whose end shows
and whose lines are short. -/
inductive Answers (max : Nat) (request : Request) : Bytes → Prop where
  /-- An interim response in front of an answer. -/
  | interim {bs head rest : Bytes} {response : Response} :
      Reader.headOf? max bs = some (head, rest) →
      Response.parse head = .ok response → response.isInterim = true →
      Answers max request rest →
      Answers max request bs
  /-- The final response. -/
  | final {bs head body rest : Bytes} {response : Response} {framing : Framing} :
      Reader.headOf? max bs = some (head, body ++ rest) →
      Response.parse head = .ok response →
      response.isInterim = false → response.framing request.isHead = .ok framing →
      Delimits IsShortLine framing body → response.keepAlive = true →
      response.status ≠ 101 →
      Answers max request bs

namespace Conversation

variable {limits : ForwardLimits} {request : Request} {framing : Framing}
  {c : Conversation}

/-! ## Steps -/

/-- What is sent to a backend reaches it, or it has a limit, and a part from the
front reaches it. -/
theorem tellBackend_cases (data : Bytes) (c : Conversation) :
    ∃ q, q.reader = c.backend.reader ∧
      (tellBackend data c = .ok () { c with
        backend := q } ∧ q.received = c.backend.received ++ data ∧
          (c.backend.sink.room = none → q.sink.room = none) ∨
        ∃ fault part, tellBackend data c = .error (.backendIo fault) { c with
          backend := q } ∧ part <+: data ∧
          q.received = c.backend.received ++ part ∧ c.backend.sink.room ≠ none) := by
  obtain ⟨q, hreader, ⟨hw, hspec⟩ | ⟨fault, part, hw, hspec⟩⟩ :=
    c.backend.write_cases data
  · exact ⟨q, hreader, .inl ⟨by rw [tellBackend, hw], hspec⟩⟩
  · exact ⟨q, hreader, .inr ⟨fault, part, by rw [tellBackend, hw], hspec⟩⟩

theorem tellBackend_of_unlimited (h : c.backend.sink.room = none) (data : Bytes) :
    ∃ backend, tellBackend data c = .ok () { c with backend := backend } ∧
      backend.sink.room = none := by
  obtain ⟨backend, -, ⟨htell, -, hroom⟩ | ⟨_, _, -, -, -, hlimit⟩⟩ :=
    tellBackend_cases data c
  · exact ⟨backend, htell, hroom h⟩
  · exact absurd h hlimit

theorem tellClient_cases (data : Bytes) (c : Conversation) :
    ∃ q, q.reader = c.client.reader ∧
      (tellClient data c = .ok () { c with
        client := q } ∧ q.received = c.client.received ++ data ∧
          (c.client.sink.room = none → q.sink.room = none) ∨
        ∃ fault part, tellClient data c = .error (.clientIo fault) { c with
          client := q } ∧ part <+: data ∧
          q.received = c.client.received ++ part ∧ c.client.sink.room ≠ none) := by
  obtain ⟨q, hreader, ⟨hw, hspec⟩ | ⟨fault, part, hw, hspec⟩⟩ :=
    c.client.write_cases data
  · exact ⟨q, hreader, .inl ⟨by rw [tellClient, hw], hspec⟩⟩
  · exact ⟨q, hreader, .inr ⟨fault, part, by rw [tellClient, hw], hspec⟩⟩

/-- A client that waits for a word to go on gets it, or has a limit, and gets a
part of it from the front. -/
theorem invite_cases (request : Request) (framing : Framing) (c : Conversation) :
    ∃ q, q.reader = c.client.reader ∧
      ((if request.expectsContinue && framing != .empty then
        tellClient Response.goAhead c else .ok () c) =
            .ok () { c with client := q } ∧
          q.received = c.client.received ++ request.invitation framing ∧
          (c.client.sink.room = none → q.sink.room = none) ∨
        ∃ fault part,
          (if request.expectsContinue && framing != .empty then
            tellClient Response.goAhead c else .ok () c) = .error (.clientIo fault)
              { c with client := q } ∧ part <+: request.invitation framing ∧
          q.received = c.client.received ++ part ∧ c.client.sink.room ≠ none) := by
  rw [Request.invitation]
  split
  · exact tellClient_cases Response.goAhead c
  · exact ⟨c.client, rfl, .inl ⟨rfl, (List.append_nil _).symm, id⟩⟩

/-- **The head of a request is sent and its client is told to go on**, and then
the body is relayed; or one of both has a limit, and nothing is relayed. -/
theorem sendRequest_cases (limits : ForwardLimits) (request : Request)
    (framing : Framing) (c : Conversation) :
    (∃ client backend,
        sendRequest limits request framing c =
          relayRequest limits framing { c with client := client, backend := backend } ∧
        client.reader = c.client.reader ∧
        client.received = c.client.received ++ request.invitation framing ∧
        (c.client.sink.room = none → client.sink.room = none) ∧
        backend.reader = c.backend.reader ∧
        backend.received =
          c.backend.received ++ (request.prepare c.record.client.ip c.record.id).encode ∧
        (c.backend.sink.room = none → backend.sink.room = none)) ∨
      ∃ e d front invited, sendRequest limits request framing c = .error e d ∧
        d.record = c.record ∧
        front <+: (request.prepare c.record.client.ip c.record.id).encode ∧
        d.backend.received = c.backend.received ++ front ∧
        invited <+: request.invitation framing ∧
        d.client.received = c.client.received ++ invited ∧
        (c.client.sink.room ≠ none ∧ (∃ fault, e = .clientIo fault) ∨
          c.backend.sink.room ≠ none ∧ invited = []) := by
  obtain ⟨backend, hreader, ⟨hq, hreceived, hroom⟩
      | ⟨fault, part, hq, hpart, hreceived, hlimit⟩⟩ :=
    tellBackend_cases (request.prepare c.record.client.ip c.record.id).encode c
  · rw [sendRequest, hq]
    dsimp only
    obtain ⟨client, hreader', ⟨ht, hspec⟩ | ⟨fault, part, ht, hpart, hinvited, hlimit⟩⟩ :=
      invite_cases request framing { c with backend := backend }
    · rw [ht]
      exact .inl ⟨client, backend, rfl, hreader', hspec.1, hspec.2, hreader,
        hreceived, hroom⟩
    · rw [ht]
      exact .inr ⟨_, _, _, part, rfl, rfl, List.prefix_refl _, hreceived,
        hpart, hinvited, .inl ⟨hlimit, fault, rfl⟩⟩
  · rw [sendRequest, hq]
    exact .inr ⟨_, _, part, [], rfl, rfl, hpart, hreceived, List.nil_prefix,
      (List.append_nil _).symm, .inr ⟨hlimit, rfl⟩⟩

/-- **The head of a response is sent**, from which on the record says that it
has begun, and then the body is relayed; or the client has a limit. -/
theorem sendResponse_cases {response : Response} (limits : ForwardLimits)
    (hframing : response.framing request.isHead = .ok framing)
    (c : Conversation) :
    ∃ client d, client.reader = c.client.reader ∧
      d = { c with
        client := client, record := { c.record with
          status := some response.status, responseStarted := true } } ∧
      (client.received =
            c.client.received ++ (response.prepare
              (reuses request response framing) request.version).encode ∧
          (c.client.sink.room = none → client.sink.room = none) ∧
          ((∃ s, relayResponse limits framing d = .ok () s ∧
              sendResponse limits request response c =
                .ok (reuses request response framing) s) ∨
            ∃ e s, relayResponse limits framing d = .error e s ∧
              sendResponse limits request response c = .error e s) ∨
        ∃ fault part, sendResponse limits request response c =
          .error (.clientIo fault) d ∧
          part <+: (response.prepare (reuses request response framing)
            request.version).encode ∧
          client.received = c.client.received ++ part ∧
          c.client.sink.room ≠ none) := by
  rw [sendResponse, hframing]
  dsimp only
  obtain ⟨client, hreader, ⟨hq, hreceived, hroom⟩ | ⟨fault, part, hq, hspec⟩⟩ :=
    tellClient_cases (response.prepare (reuses request response framing)
      request.version).encode
    { c with record := { c.record with
               status := some response.status, responseStarted := true } }
  · refine ⟨client, _, hreader, rfl, .inl ⟨hreceived, hroom, ?_⟩⟩
    rw [hq]
    dsimp only
    split
    · rename_i hrelay
      exact .inr ⟨_, _, hrelay, rfl⟩
    · rename_i hrelay
      exact .inl ⟨_, hrelay, rfl⟩
  · exact ⟨client, _, hreader, rfl, .inr ⟨fault, part, by rw [hq], hspec⟩⟩

/-! ## Requests that are whole -/

theorem relayRequest_complete {body rest : Bytes}
    (hroom : 0 < limits.bufferBytes) (hb : Delimits IsShortLine framing body)
    (hbackend : c.backend.sink.room = none)
    (h : c.client.reader.remaining = body ++ rest) :
    ∃ d, relayRequest limits framing c = .ok () d ∧ d.client.reader.remaining = rest ∧
      d.client.sink = c.client.sink ∧ d.backend.reader = c.backend.reader ∧
      d.backend.received = c.backend.received ++ body := by
  obtain ⟨q, hq, hmoved, hrest⟩ := Pipe.relay_of_delimits
    (p := ⟨c.client.reader, c.backend.sink, c.record.requestBytes⟩) hroom hb hbackend h
  refine ⟨{ client := { c.client with reader := q.reader },
            backend := { c.backend with sink := q.sink }
            record := { c.record with requestBytes := q.count } }, ?_, hrest,
              rfl, rfl, hmoved.sent⟩
  rw [relayRequest, hq]

/-- **A request that is whole reaches a backend without a limit**, and nothing
behind it does. -/
theorem sendRequest_complete {body rest : Bytes} (request : Request)
    (hroom : 0 < limits.bufferBytes) (hb : Delimits IsShortLine framing body)
    (hclient : c.client.sink.room = none)
    (hbackend : c.backend.sink.room = none)
    (h : c.client.reader.remaining = body ++ rest) :
    ∃ d, sendRequest limits request framing c = .ok () d ∧
      d.client.reader.remaining = rest ∧
      d.client.sink.room = none ∧ d.backend.reader = c.backend.reader ∧
      d.backend.received =
        c.backend.received ++
          ((request.prepare c.record.client.ip c.record.id).encode ++ body) := by
  rcases sendRequest_cases limits request framing c with
    ⟨client, backend, heq, hreader, -, hsink, hbreader, hreceived, hroom'⟩
      | ⟨e, d, _, _, -, -, -, -, -, -, hlimit⟩
  · rw [← hreader] at h
    obtain ⟨d, hd, hrest, hsink', hreader', hreceived'⟩ :=
      relayRequest_complete (c := { c with
        client := client, backend := backend }) hroom hb (hroom' hbackend) h
    refine ⟨d, heq.trans hd, hrest, by rw [hsink']; exact hsink hclient,
      hreader'.trans hbreader, ?_⟩
    rw [hreceived', hreceived, List.append_assoc]
  · rcases hlimit with ⟨hlimit, -⟩ | ⟨hlimit, -⟩
    · exact absurd hclient hlimit
    · exact absurd hbackend hlimit

/-! ## Answers that are whole -/

theorem readResponse_of_headOf? {head rest : Bytes} {response : Response}
    (hhead : Reader.headOf? limits.maxHeaderBytes c.backend.reader.remaining =
      some (head, rest)) (hparse : Response.parse head = .ok response) :
    ∃ q, readResponse limits c = .ok response { c with backend := q } ∧
      q.reader.remaining = rest ∧
      q.sink = c.backend.sink ∧
      q.reader.source.ending = c.backend.reader.source.ending := by
  obtain ⟨t, ht, hrest, hending⟩ := Reader.readHead_of_headOf? hhead
  refine ⟨{ c.backend with reader := t }, ?_, hrest, rfl, hending⟩
  rw [readResponse, Peer.readHead, ht]
  dsimp only
  rw [hparse]

/-- A head that was read is the final one, unless it is interim. -/
theorem readFinal_of_response {response : Response} {d : Conversation}
    (h : readResponse limits c = .ok response d) :
    readFinal limits c = if response.isInterim then readFinal limits d
      else .ok response d := by
  rw [readFinal]
  split
  · rename_i h'
    rw [h] at h'
    cases h'
  · rename_i h'
    rw [h] at h'
    cases h'
    rfl

/-- **The final head of an answer is read**, and nothing behind it is. -/
theorem readFinal_complete
    (h : Answers limits.maxHeaderBytes request c.backend.reader.remaining) :
    ∃ response q framing body rest, readFinal limits c = .ok response { c with
      backend := q } ∧
      q.sink = c.backend.sink ∧ response.framing request.isHead = .ok framing ∧
      Delimits IsShortLine framing body ∧ q.reader.remaining = body ++ rest ∧
      response.keepAlive = true ∧ response.status ≠ 101 := by
  generalize hbs : c.backend.reader.remaining = bs at h
  -- the induction is on the interim responses in front of the final one
  induction h generalizing c with
  | interim hhead hparse hinterim _ ih =>
    obtain ⟨q, hq, hrest, hsink, -⟩ := readResponse_of_headOf? (hbs ▸ hhead) hparse
    obtain ⟨response, s, framing, body, rest, hs, hsink', hspec⟩ :=
      ih (c := { c with backend := q }) hrest
    refine ⟨response, s, framing, body, rest, ?_, hsink'.trans hsink, hspec⟩
    rw [readFinal_of_response hq, if_pos hinterim, hs]
  | final hhead hparse hinterim hframing hb hkeep hstatus =>
    obtain ⟨q, hq, hrest, hsink, -⟩ := readResponse_of_headOf? (hbs ▸ hhead) hparse
    refine ⟨_, q, _, _, _, ?_, hsink, hframing, hb, hrest, hkeep, hstatus⟩
    rw [readFinal_of_response hq, hinterim]
    rfl

theorem relayResponse_complete {body rest : Bytes}
    (hroom : 0 < limits.bufferBytes)
    (hb : Encloses IsShortLine framing c.backend.reader.source.ending body rest)
    (hclient : c.client.sink.room = none)
    (h : c.backend.reader.remaining = body ++ rest) :
    ∃ d, relayResponse limits framing c = .ok () d ∧
      d.client.reader = c.client.reader ∧
      d.client.sink.room = none ∧ d.backend.sink = c.backend.sink := by
  obtain ⟨q, hq, hmoved⟩ := (Pipe.passes_relay
    (p := ⟨c.backend.reader, c.client.sink, c.record.responseBytes⟩) hroom hb
      h).moved hclient
  refine ⟨{ client := { c.client with sink := q.sink },
            backend := { c.backend with reader := q.reader }
            record := { c.record with responseBytes := q.count } }, ?_, rfl,
              hmoved.unlimited hclient, rfl⟩
  rw [relayResponse, hq]

/-- **A response that is whole reaches a client without a limit**, however its
body ends. -/
theorem sendResponse_of_encloses {response : Response} {body rest : Bytes}
    (hroom : 0 < limits.bufferBytes)
    (hframing : response.framing request.isHead = .ok framing)
    (hb : Encloses IsShortLine framing c.backend.reader.source.ending body rest)
    (hclient : c.client.sink.room = none)
    (h : c.backend.reader.remaining = body ++ rest) :
    ∃ d, sendResponse limits request response c =
      .ok (reuses request response framing) d ∧
      d.client.reader = c.client.reader ∧ d.client.sink.room = none ∧
      d.backend.sink = c.backend.sink := by
  obtain ⟨client, d, hreader, rfl, ⟨-, hsink, hrelay⟩ | ⟨_, _, -, -, -, hlimit⟩⟩ :=
    sendResponse_cases limits hframing c
  · obtain ⟨d, hd, hreader', hsink', hbackend⟩ :=
        relayResponse_complete (c := { c with
      client := client, record := { c.record with
        status := some response.status, responseStarted := true } })
      hroom hb (hsink hclient) h
    rw [hd] at hrelay
    rcases hrelay with ⟨s, hs, hsend⟩ | ⟨e, s, hs, -⟩
    · cases hs
      exact ⟨d, hsend, hreader'.trans hreader, hsink', hbackend⟩
    · cases hs
  · exact absurd hclient hlimit

/-- **A response that is whole reaches a client without a limit**, and the
connection goes on if the client wants that. -/
theorem sendResponse_complete {response : Response} {body rest : Bytes}
    (hroom : 0 < limits.bufferBytes)
    (hframing : response.framing request.isHead = .ok framing)
    (hb : Delimits IsShortLine framing body) (hkeep : response.keepAlive = true)
    (hstatus : response.status ≠ 101) (hclient : c.client.sink.room = none)
    (h : c.backend.reader.remaining = body ++ rest) :
    ∃ d, sendResponse limits request response c = .ok request.keepAlive d ∧
      d.client.reader = c.client.reader ∧ d.client.sink.room = none ∧
      d.backend.sink = c.backend.sink := by
  have hreuse : reuses request response framing = request.keepAlive := by
    rw [reuses, hkeep, hb.isDelimited, bne_iff_ne.2 hstatus, Bool.and_true,
      Bool.and_true, Bool.and_true]
  rw [← hreuse]
  exact sendResponse_of_encloses hroom hframing (.inl hb) hclient h

/-- **A whole request and a whole answer go through.** The backend has received
the request and nothing behind it, and what follows the request is left of the
client's bytes. -/
theorem converse_complete {body rest : Bytes} (hroom : 0 < limits.bufferBytes)
    (hb : Delimits IsShortLine framing body)
    (hclient : c.client.sink.room = none)
    (hbackend : c.backend.sink.room = none)
    (h : c.client.reader.remaining = body ++ rest)
    (hanswer : Answers limits.maxHeaderBytes request c.backend.reader.remaining) :
    ∃ d, converse limits request framing c = .ok request.keepAlive d ∧
      d.client.reader.remaining = rest ∧
      d.client.sink.room = none ∧
      d.backend.received =
        c.backend.received ++
          ((request.prepare c.record.client.ip c.record.id).encode ++ body) := by
  obtain ⟨c₁, h₁, hrest, hclient₁, hreader, hreceived⟩ :=
    sendRequest_complete request hroom hb hclient hbackend h
  -- nothing of the answer is read while the request is sent
  rw [← hreader] at hanswer
  obtain ⟨response, q, framing', body', rest', h₂, hsink, hframing, hb', hbody,
      hkeep, hstatus⟩ :=
    readFinal_complete hanswer
  obtain ⟨d, h₃, hreader', hclient₃, hbackend'⟩ :=
    sendResponse_complete (c := { c₁ with
      backend := q }) hroom hframing hb' hkeep hstatus hclient₁ hbody
  refine ⟨d, ?_, by rw [hreader', hrest], hclient₃, ?_⟩
  · rw [converse, h₁]
    dsimp only
    rw [h₂]
    exact h₃
  · rw [Peer.received, hbackend', hsink]
    exact hreceived

/-! ## Requests that are not whole -/

/-- Of a body that is not whole a part from the front is sent at most. -/
theorem relayRequest_cut (hf : framing.isDelimited = true)
    (h : takeBody? framing c.client.reader.remaining = none) :
    ∃ e d part, relayRequest limits framing c = .error e d ∧
      part <+: c.client.reader.remaining ∧
      d.backend.received = c.backend.received ++ part := by
  rw [relayRequest]
  cases hr : Pipe.relay framing limits.bufferBytes ⟨c.client.reader,
      c.backend.sink, c.record.requestBytes⟩ with
  | ok _ q =>
    -- what goes through has an end that the framing shows, so a body could have
    -- been taken off
    obtain ⟨body, hb, hmoved⟩ := Pipe.delimits_of_relay hf hr
    rw [takeBody?_eq_some_iff.2 ⟨hb, hmoved.taken⟩] at h
    cases h
  | error e q =>
    obtain ⟨part, hpart, hsent⟩ := (Pipe.failed_of_relay hr).broke
    exact ⟨_, _, part, rfl, hpart, hsent⟩

/-- **Of a request that is not whole a part from the front is sent at most**,
and the exchange breaks off. -/
theorem sendRequest_cut (limits : ForwardLimits) (request : Request)
    (hf : framing.isDelimited = true)
    (h : takeBody? framing c.client.reader.remaining = none) :
    ∃ e d part, sendRequest limits request framing c = .error e d ∧
      part <+: (request.prepare c.record.client.ip c.record.id).encode ++
        c.client.reader.remaining ∧
      d.backend.received = c.backend.received ++ part := by
  rcases sendRequest_cases limits request framing c with
    ⟨client, backend, heq, hreader, -, -, -, hreceived, -⟩
      | ⟨e, d, front, _, he, -, hfront, hreceived, -, -, -⟩
  · rw [← hreader] at h ⊢
    obtain ⟨e, d, part, he, hpart, hsent⟩ :=
      relayRequest_cut (c := { c with client := client, backend := backend }) hf h
    refine ⟨e, d, _ ++ part, heq.trans he, (List.prefix_append_right_inj _).2 hpart, ?_⟩
    rw [hsent, hreceived, List.append_assoc]
  · exact ⟨e, d, front, he, hfront.trans (List.prefix_append _ _), hreceived⟩

end Conversation

/-! ## What an exchange leaves -/

namespace Exchange

variable {limits : ForwardLimits} {address : SocketAddress} {request : Request}
  {framing : Framing} {client backend : Peer} {x : Exchange}

/-- **A whole request and a whole answer make a success.** -/
theorem attempt_complete {body rest : Bytes} (address : SocketAddress)
    (x : Exchange) (hroom : 0 < limits.bufferBytes)
    (hb : Delimits IsShortLine framing body) (hclient : client.sink.room = none)
    (hbackend : backend.sink.room = none)
    (h : client.reader.remaining = body ++ rest)
    (hanswer : Answers limits.maxHeaderBytes request backend.reader.remaining) :
    ∃ f q, conclude (attempt limits address (.connected backend) request framing
      client x) = f ∧
      f.keepAlive = request.keepAlive ∧ f.record.outcome = .success ∧
      f.client.reader.remaining = rest ∧
      f.client.sink.room = none ∧ f.backend = some q ∧
      q.received = backend.received ++
        ((request.prepare x.client.ip x.id).encode ++ body) := by
  obtain ⟨d, hd, hrest, hsink, hreceived⟩ :=
    Conversation.converse_complete (c := ⟨client, backend, x⟩) hroom hb hclient
      hbackend h hanswer
  rw [attempt, hd]
  exact ⟨_, d.backend, rfl, rfl, rfl, hrest, hsink, rfl, hreceived⟩

/-- **With a request that is not whole the connection ends**, and a backend has
received a part of it from the front at most. -/
theorem attempt_cut (limits : ForwardLimits) (address : SocketAddress)
    (dialed : Dialed) (request : Request) (x : Exchange)
    (hf : framing.isDelimited = true)
    (h : takeBody? framing client.reader.remaining = none) :
    ∃ f, conclude (attempt limits address dialed request framing client x) = f ∧
      f.keepAlive = false ∧
      (f.backend = none ∨ ∃ old q part, dialed = .connected old ∧ f.backend = some q ∧
        part <+: (request.prepare x.client.ip x.id).encode ++ client.reader.remaining ∧
        q.received = old.received ++ part) := by
  have hsettle : ∀ (e : ExchangeError) (f : Forwarded), f.keepAlive = false →
      (conclude (.error e, f)).keepAlive = false ∧
      (conclude (.error e, f)).backend = f.backend :=
    fun e f hf => ⟨(outcome_settle e f).2.1.trans hf, (outcome_settle e f).2.2⟩
  refine ⟨_, rfl, ?_⟩
  cases dialed with
  | refused fault =>
    obtain ⟨hkeep, hbackend⟩ :=
      hsettle (.connect address fault) { client := client, record := x } rfl
    exact ⟨hkeep, .inl hbackend⟩
  | unanswered =>
    rw [attempt]
    obtain ⟨hkeep, hbackend⟩ := hsettle
        (if limits.connectTimeout.millis ≤ limits.requestTimeout.millis then
      .connectTimeout address else .timeout limits.requestTimeout)
        { client := client, record := x } rfl
    exact ⟨hkeep, .inl hbackend⟩
  | connected old =>
    obtain ⟨e, d, part, hd, hpart, hreceived⟩ :=
      Conversation.sendRequest_cut (c := ⟨client, old, x⟩) limits request hf h
    have hconverse : Conversation.converse limits request framing
        ⟨client, old, x⟩ = .error e d := by
      rw [Conversation.converse, hd]
    rw [attempt, hconverse]
    obtain ⟨hkeep, hbackend⟩ :=
      hsettle e { client := d.client, backend := some d.backend,
                  record := d.record } rfl
    exact ⟨hkeep, .inr ⟨old, d.backend, part, rfl, hbackend, hpart, hreceived⟩⟩

end Exchange

end Gateway
