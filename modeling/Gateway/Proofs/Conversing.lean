import Gateway.Proofs.Exchanging
import Gateway.Proofs.Metering

/-!
# What an exchange did

Each step of an exchange takes bytes off one side and sends bytes to the other,
and what it did can be told from its result. The heads of a backend's interim
responses are taken off and sent nowhere, so the answer to a request begins with
the first head that is not interim.

* `finalHead?` takes the heads up to and with the first final one off bytes, and
  `Conversation.readFinal` reads exactly that one (`readFinal_of_finalHead?`,
  `finalHead?_of_readFinal`);
* `Conversation.Relayed` says what an exchange has done that came to its end
  (`relayed_of_converse`);
* `Conversation.Stopped` says what the client has seen of one that did not
  (`stopped_of_converse`).
-/

namespace Gateway

open Reader (IsLine)

/-! ## Final heads -/

/-- Takes heads off the front up to the first that is not interim. Nothing comes
of it if one of them is too long or cannot be read. -/
def finalHead? (max : Nat) (bs : Bytes) : Option (Response × Bytes) :=
  match _h : Reader.headOf? max bs with
  | none => none
  | some (head, rest) =>
    match Response.parse head with
    | .error _ => none
    | .ok response =>
      if response.isInterim then finalHead? max rest else some (response, rest)
termination_by bs.length
decreasing_by exact Reader.length_lt_of_headOf? _h

/-- The first head is the final one, unless it is interim. -/
theorem finalHead?_of_headOf? {max : Nat} {bs head rest : Bytes}
    {response : Response} (hhead : Reader.headOf? max bs = some (head, rest))
    (hparse : Response.parse head = .ok response) :
    finalHead? max bs = if response.isInterim then finalHead? max rest
      else some (response, rest) := by
  rw [finalHead?]
  split
  · rename_i h
    rw [hhead] at h
    cases h
  · rename_i h
    rw [hhead] at h
    cases h
    rw [hparse]

namespace Reader

theorem four_le_of_headEndFrom? {scanned n : Nat} {bs : Bytes}
    (h : headEndFrom? scanned bs = some n) : 4 ≤ n := by
  rw [headEndFrom?, Option.map_eq_some_iff] at h
  obtain ⟨m, hm, rfl⟩ := h
  exact Nat.le_add_left_of_le (headEnd?_bounds hm).1

/-- Where a head may have no bytes, none is read. -/
theorem pos_of_readHead {max : Nat} {r t : Reader} {head : Bytes}
    (h : r.readHead max = (.ok (some head), t)) :
    0 < max := by
  have key : ∀ pieces held scanned, readHead.go max r held scanned pieces =
      (.ok (some head), t) → 0 < max := by
    intro pieces held scanned h
    fun_induction readHead.go max r held scanned pieces with
    | case1 => cases h
    | case2 held scanned pieces buffer scanned' left n hn hle =>
      have := four_le_of_headEndFrom? hn
      omega
    | case3 => cases h
    | case4 held scanned buffer scanned' hn hlong piece rest ih => exact ih h
    | case5 => split at h <;> cases h
    | case6 => cases h
    | case7 => cases h
  exact key _ _ _ h

end Reader

/-! ## How far a body reaches -/

/-- The body that a framing puts at the front of bytes, or all of them if it
does not end within them. -/
def reach (framing : Framing) (bs : Bytes) : Bytes :=
  match takeBody? framing bs with
  | some (body, _) => body
  | none => bs

theorem reach_front (framing : Framing)
    (bs : Bytes) : reach framing bs <+: bs := by
  rw [reach]
  split
  · rename_i htake
    exact (takeBody?_eq_some_iff.1 htake).2 ▸ List.prefix_append _ _
  · exact List.prefix_refl bs

/-- A body reaches up to its end. -/
theorem prefix_reach {framing : Framing} {body rest : Bytes}
    (h : framing.isDelimited = true → Delimits IsLine framing body) :
    body <+: reach framing (body ++ rest) := by
  rw [reach]
  split
  · rename_i body' rest' htake
    have hdelimited : framing.isDelimited = true :=
      (takeBody?_eq_some_iff.1 htake).1.isDelimited
    rw [takeBody?_eq_some_iff.2 ⟨h hdelimited, rfl⟩] at htake
    cases htake
    exact List.prefix_refl _
  · exact List.prefix_append _ _

/-- **A relay that fails has sent nothing from behind the body.** -/
theorem Pipe.part_of_relay {framing : Framing} {room : Nat} {p q : Pipe}
    {e : RelayError} (h : relay framing room p = .error e q) :
    ∃ part, part <+: reach framing p.reader.remaining ∧
      q.sink.accepted = p.sink.accepted ++ part := by
  rw [reach]
  split
  · rename_i body rest htake
    obtain ⟨hb, hview⟩ := takeBody?_eq_some_iff.1 htake
    have hcarries : p.Carries body () (relay framing room p) :=
      carries_relay (.inl hb.isDelimited) (.inl hb) hview
    rw [h] at hcarries
    obtain ⟨part, hpart, hhalted, -⟩ := hcarries
    exact ⟨part, hpart, hhalted.sent⟩
  · exact (failed_of_relay h).broke

namespace Conversation

variable {limits : ForwardLimits} {request : Request} {response : Response}
  {framing : Framing} {c d : Conversation}

/-- A head that is read stood at the front of what the backend sends. -/
theorem headOf?_of_readResponse (h : readResponse limits c = .ok response d) :
    ∃ head q, Reader.headOf? limits.maxHeaderBytes c.backend.reader.remaining =
      some (head, q.reader.remaining) ∧
      Response.parse head = .ok response ∧ d = { c with backend := q } ∧
      q.sink = c.backend.sink ∧
      q.reader.source.ending = c.backend.reader.source.ending := by
  rw [readResponse, Peer.readHead] at h
  rcases hread : c.backend.reader.readHead limits.maxHeaderBytes
    with ⟨e | (_ | head), t⟩
  · rw [hread] at h
    cases h
  · rw [hread] at h
    cases h
  · rw [hread] at h
    dsimp only at h
    split at h
    · rename_i hparse
      cases h
      have hhead := Reader.headOf?_of_readHead (Reader.pos_of_readHead hread) hread
      obtain ⟨t', ht', -, hending⟩ := Reader.readHead_of_headOf? hhead
      rw [hread] at ht'
      cases ht'
      exact ⟨head, _, hhead, hparse, rfl, rfl, hending⟩
    · cases h

/-- **Only the first final head is read**, and nothing behind it is. -/
theorem finalHead?_of_readFinal (h : readFinal limits c = .ok response d) :
    ∃ q, d = { c with backend := q } ∧
      finalHead? limits.maxHeaderBytes c.backend.reader.remaining =
        some (response, q.reader.remaining) ∧
      q.sink = c.backend.sink ∧
      q.reader.source.ending = c.backend.reader.source.ending := by
  fun_induction readFinal limits c with
  | case1 => cases h
  | case2 c response' d' hread hinterim ih =>
    obtain ⟨head, q, hhead, hparse, rfl, hsink, hending⟩ :=
      headOf?_of_readResponse hread
    obtain ⟨s, rfl, hfinal, hsink', hending'⟩ := ih h
    refine ⟨s, rfl, ?_, hsink'.trans hsink, hending'.trans hending⟩
    rw [finalHead?_of_headOf? hhead hparse, if_pos hinterim, hfinal]
  | case3 c response' d' hread hinterim =>
    cases h
    obtain ⟨head, q, hhead, hparse, rfl, hsink, hending⟩ :=
      headOf?_of_readResponse hread
    refine ⟨q, rfl, ?_, hsink, hending⟩
    rw [finalHead?_of_headOf? hhead hparse, if_neg hinterim]

/-- **The first final head is read**, and nothing behind it is. -/
theorem readFinal_of_finalHead? {rest : Bytes}
    (h : finalHead? limits.maxHeaderBytes c.backend.reader.remaining =
      some (response, rest)) :
    ∃ q, readFinal limits c = .ok response { c with backend := q } ∧
      q.reader.remaining = rest ∧
      q.sink = c.backend.sink ∧
      q.reader.source.ending = c.backend.reader.source.ending := by
  generalize hbs : c.backend.reader.remaining = bs at h
  fun_induction finalHead? limits.maxHeaderBytes bs generalizing c with
  | case1 => cases h
  | case2 => cases h
  | case3 bs head rest' hhead response' hparse hinterim ih =>
    obtain ⟨q, hq, hrest, hsink, hending⟩ :=
      readResponse_of_headOf? (hbs ▸ hhead) hparse
    obtain ⟨s, hs, hrest', hsink', hending'⟩ :=
      ih (c := { c with backend := q }) hrest h
    refine ⟨s, ?_, hrest', hsink'.trans hsink, hending'.trans hending⟩
    rw [readFinal_of_response hq, if_pos hinterim, hs]
  | case4 bs head rest' hhead response' hparse hinterim =>
    cases h
    obtain ⟨q, hq, hspec⟩ := readResponse_of_headOf? (hbs ▸ hhead) hparse
    refine ⟨q, ?_, hspec⟩
    rw [readFinal_of_response hq, if_neg hinterim]

/-- A head that cannot be read changes nothing but what is left of the backend's
bytes. -/
theorem frame_of_readFinal {e : ExchangeError}
    (h : readFinal limits c = .error e d) :
    ∃ q, d = { c with backend := q } ∧ q.sink = c.backend.sink := by
  fun_induction readFinal limits c with
  | case1 c e' d' hread =>
    cases h
    rw [readResponse] at hread
    split at hread
    · split at hread
      · cases hread
      · rename_i hhead _ _ _
        cases hread
        exact ⟨_, rfl, congrArg (fun read => Peer.sink read.2) hhead.symm⟩
    · rename_i hhead
      cases hread
      exact ⟨_, rfl, congrArg (fun read => Peer.sink read.2) hhead.symm⟩
    · rename_i hhead
      cases hread
      exact ⟨_, rfl, congrArg (fun read => Peer.sink read.2) hhead.symm⟩
  | case2 c response' d' hread hinterim ih =>
    obtain ⟨head, q, -, -, rfl, hsink, -⟩ := headOf?_of_readResponse hread
    obtain ⟨s, hs, hsink'⟩ := ih h
    exact ⟨s, hs, hsink'.trans hsink⟩
  | case3 => cases h

/-! ## Bodies -/

/-- The conversation after bytes of the request's body went through a pipe. -/
def requestPiped (c : Conversation) (p : Pipe) : Conversation :=
  { client := { c.client with reader := p.reader },
    backend := { c.backend with sink := p.sink }
    record := { c.record with requestBytes := p.count } }

/-- The pipe for the body of the request. -/
def requestPipe (c : Conversation) : Pipe :=
  ⟨c.client.reader, c.backend.sink, c.record.requestBytes⟩

/-- The conversation after bytes of the response's body went through a pipe. -/
def responsePiped (c : Conversation) (p : Pipe) : Conversation :=
  { client := { c.client with sink := p.sink },
    backend := { c.backend with reader := p.reader }
    record := { c.record with responseBytes := p.count } }

/-- The pipe for the body of the response. -/
def responsePipe (c : Conversation) : Pipe :=
  ⟨c.backend.reader, c.client.sink, c.record.responseBytes⟩

/-- What a relay of the request's body did that succeeded. -/
theorem moved_of_relayRequest (h : relayRequest limits framing c = .ok () d) :
    ∃ p body, c.requestPipe.Moved body p ∧ d = c.requestPiped p ∧
      (framing.isDelimited = true ∨ 0 < limits.bufferBytes →
        Encloses IsLine framing c.client.reader.source.ending body
          p.reader.remaining) := by
  rw [relayRequest] at h
  split at h
  · rename_i hrelay
    cases h
    obtain ⟨body, hmoved, hb⟩ := Pipe.moved_of_relay hrelay
    exact ⟨_, body, hmoved, rfl, hb⟩
  · cases h

theorem failed_of_relayRequest {e : ExchangeError}
    (h : relayRequest limits framing c = .error e d) :
    ∃ p error, c.requestPipe.Failed error p ∧ d = c.requestPiped p ∧
      e = .ofRequestRelay limits.requestTimeout error := by
  rw [relayRequest] at h
  split at h
  · cases h
  · rename_i hrelay
    cases h
    exact ⟨_, _, Pipe.failed_of_relay hrelay, rfl, rfl⟩

/-- What a relay of the response's body did that succeeded. -/
theorem moved_of_relayResponse (h : relayResponse limits framing c = .ok () d) :
    ∃ p body, c.responsePipe.Moved body p ∧ d = c.responsePiped p ∧
      (framing.isDelimited = true ∨ 0 < limits.bufferBytes →
        Encloses IsLine framing c.backend.reader.source.ending body
          p.reader.remaining) := by
  rw [relayResponse] at h
  split at h
  · rename_i hrelay
    cases h
    obtain ⟨body, hmoved, hb⟩ := Pipe.moved_of_relay hrelay
    exact ⟨_, body, hmoved, rfl, hb⟩
  · cases h

theorem failed_of_relayResponse {e : ExchangeError}
    (h : relayResponse limits framing c = .error e d) :
    ∃ p error, c.responsePipe.Failed error p ∧ d = c.responsePiped p ∧
      e = .ofResponseRelay limits.requestTimeout error := by
  rw [relayResponse] at h
  split at h
  · cases h
  · rename_i hrelay
    cases h
    exact ⟨_, _, Pipe.failed_of_relay hrelay, rfl, rfl⟩

/-- What the client has seen of a response's body that could not be sent. -/
theorem part_of_relayResponse {e : ExchangeError}
    (h : relayResponse limits framing c = .error e d) :
    ∃ p part, part <+: reach framing c.backend.reader.remaining ∧
      p.sink.accepted = c.client.sink.accepted ++ part ∧ d = c.responsePiped p := by
  rw [relayResponse] at h
  split at h
  · cases h
  · rename_i hrelay
    cases h
    obtain ⟨part, hpart, hsent⟩ := Pipe.part_of_relay hrelay
    exact ⟨_, part, hpart, hsent, rfl⟩

/-! ## Exchanges that came to their end -/

/-- **A request that was sent was taken off its client whole**, and the client
was told to go on. -/
theorem sent_of_sendRequest
    (h : sendRequest limits request framing c = .ok () d) :
    ∃ body, c.client.reader.remaining = body ++ d.client.reader.remaining ∧
      (framing.isDelimited = true ∨ 0 < limits.bufferBytes →
        Encloses IsLine framing c.client.reader.source.ending body
          d.client.reader.remaining) ∧
      d.client.received = c.client.received ++ request.invitation framing ∧
      d.backend.reader = c.backend.reader ∧
      d.backend.received =
        c.backend.received ++
          ((request.prepare c.record.client.ip c.record.id).encode ++ body) ∧
      d.record = { c.record with
        requestBytes := c.record.requestBytes + body.length } := by
  rcases sendRequest_cases limits request framing c with
    ⟨client, backend, heq, hreader, hinvited, -, hbreader, hreceived, -⟩
      | ⟨e, s, _, _, he, -⟩
  · rw [heq] at h
    obtain ⟨p, body, hmoved, rfl, hb⟩ := moved_of_relayRequest h
    rw [← hreader]
    refine ⟨body, hmoved.taken, hb, hinvited, hbreader, ?_, ?_⟩
    · rw [← List.append_assoc, ← hreceived]
      exact hmoved.sent
    · exact congrArg (fun n => { c.record with requestBytes := n }) hmoved.count
  · rw [he] at h
    cases h

/-- **A response that was sent was taken off its backend whole.** -/
theorem answered_of_sendResponse {reuse : Bool}
    (h : sendResponse limits request response c = .ok reuse d) :
    ∃ answering answer, response.framing request.isHead = .ok answering ∧
      reuse = reuses request response answering ∧
      c.backend.reader.remaining = answer ++ d.backend.reader.remaining ∧
      (answering.isDelimited = true ∨ 0 < limits.bufferBytes →
        Encloses IsLine answering c.backend.reader.source.ending answer
          d.backend.reader.remaining) ∧
      d.backend.sink = c.backend.sink ∧ d.client.reader = c.client.reader ∧
      d.client.received = c.client.received ++
        ((response.prepare reuse request.version).encode ++ answer) ∧
      d.record = { c.record with
        status := some response.status, responseStarted := true
        responseBytes := c.record.responseBytes + answer.length } := by
  cases hframing : response.framing request.isHead with
  | error flaw =>
    rw [sendResponse, hframing] at h
    cases h
  | ok answering =>
    obtain ⟨client, s, hreader, rfl,
      ⟨hreceived, -, ⟨t, hrelay, hsend⟩ | ⟨e, t, -, hsend⟩⟩
        | ⟨fault, part, hsend, -⟩⟩ := sendResponse_cases limits hframing c
    · rw [hsend] at h
      cases h
      obtain ⟨p, answer, hmoved, rfl, hb⟩ := moved_of_relayResponse hrelay
      refine ⟨answering, answer, rfl, rfl, hmoved.taken, hb, rfl, hreader, ?_, ?_⟩
      · rw [← List.append_assoc, ← hreceived]
        exact hmoved.sent
      · exact congrArg (fun n => { c.record with
          status := some response.status
          responseStarted := true, responseBytes := n }) hmoved.count
    · rw [hsend] at h
      cases h
    · rw [hsend] at h
      cases h

/-- What an exchange has done that came to its end. -/
structure Relayed (limits : ForwardLimits) (request : Request)
    (framing : Framing) (c d : Conversation) (body : Bytes)
    (response : Response) (answering : Framing) (answer : Bytes) : Prop where
  /-- The body of the request was taken off the client. -/
  taken : c.client.reader.remaining = body ++ d.client.reader.remaining
  /-- It is a body of its framing. -/
  enclosed : framing.isDelimited = true ∨ 0 < limits.bufferBytes →
    Encloses IsLine framing c.client.reader.source.ending body d.client.reader.remaining
  /-- The backend was sent the request. -/
  received : d.backend.received =
    c.backend.received ++ ((request.prepare c.record.client.ip c.record.id).encode ++ body)
  /-- The response begins with the first final head. -/
  head : finalHead? limits.maxHeaderBytes c.backend.reader.remaining =
    some (response, answer ++ d.backend.reader.remaining)
  /-- Its head says how its body ends. -/
  framed : response.framing request.isHead = .ok answering
  /-- Its body is one of this framing. -/
  answered : answering.isDelimited = true ∨ 0 < limits.bufferBytes →
    Encloses IsLine answering c.backend.reader.source.ending answer
      d.backend.reader.remaining
  /-- The client was told to go on, and was sent the response. -/
  sent : d.client.received = c.client.received ++ (request.invitation framing ++
    ((response.prepare (reuses request response answering) request.version).encode ++ answer))
  /-- All of this was recorded. -/
  record : d.record = { c.record with
    requestBytes := c.record.requestBytes + body.length
    status := some response.status
    responseStarted := true
    responseBytes := c.record.responseBytes + answer.length }

/-- **An exchange that came to its end has relayed a request and a
response.** -/
theorem relayed_of_converse {reuse : Bool}
    (h : converse limits request framing c = .ok reuse d) :
    ∃ body response answering answer, reuse = reuses request response answering ∧
      Relayed limits request framing c d body response answering answer := by
  rw [converse] at h
  split at h
  · cases h
  · rename_i c₁ h₁
    split at h
    · cases h
    · rename_i response c₂ h₂
      obtain ⟨body, htaken, hb, hinvited, hreader, hreceived, hrecord⟩ :=
        sent_of_sendRequest h₁
      obtain ⟨q, rfl, hhead, hsink, hending⟩ := finalHead?_of_readFinal h₂
      obtain ⟨answering, answer, hframing, rfl, htaken', hb', hsink', hreader',
          hsent, hrecord'⟩ :=
        answered_of_sendResponse h
      -- each step leaves alone what the others have done
      refine ⟨body, response, answering, answer, rfl, ?_⟩
      constructor
      · rw [htaken, hreader']
      · rwa [hreader']
      · rw [Peer.received, hsink', hsink]
        exact hreceived
      · rw [← hreader, hhead]
        exact congrArg (fun rest => some (response, rest)) htaken'
      · exact hframing
      · rw [← hreader, ← hending]
        exact hb'
      · rw [hsent, hinvited, List.append_assoc]
      · rw [hrecord', hrecord]

/-! ## Exchanges that did not -/

/-- What the client has seen of an exchange that did not come to its end. -/
inductive Stopped (max : Nat) (request : Request) (framing : Framing)
    (c d : Conversation) (e : ExchangeError) :
    Prop where
  /-- The word to go on, if the response has not begun. Where it was cut off,
  the client is gone. -/
  | before {part : Bytes} : d.record.responseStarted = c.record.responseStarted →
      part <+: request.invitation framing →
      d.client.received = c.client.received ++ part →
      part = [] ∨ part = request.invitation framing ∨ e.status? = none →
      Stopped max request framing c d e
  /-- The word to go on and a part of the response, which does not reach beyond
  its body. -/
  | within {response : Response} {answering : Framing} {tail part : Bytes} :
      d.record.responseStarted = true →
      finalHead? max c.backend.reader.remaining = some (response, tail) →
      response.framing request.isHead = .ok answering →
      part <+: (response.prepare (reuses request response answering)
        request.version).encode ++ reach answering tail →
      d.client.received = c.client.received ++ (request.invitation framing ++ part) →
      Stopped max request framing c d e

/-- A request that could not be sent. -/
theorem stopped_of_sendRequest {e : ExchangeError} (max : Nat)
    (h : sendRequest limits request framing c = .error e d) :
    Stopped max request framing c d e := by
  rcases sendRequest_cases limits request framing c with
    ⟨client, backend, heq, -, hinvited, -⟩
      | ⟨e', s, _, part, he, hrecord, -, -, hpart, hsent, hend⟩
  · rw [heq] at h
    obtain ⟨p, error, -, rfl, -⟩ := failed_of_relayRequest h
    exact .before rfl (List.prefix_refl _) hinvited (.inr (.inl rfl))
  · rw [he] at h
    cases h
    refine .before (by rw [hrecord]) hpart hsent ?_
    rcases hend with ⟨-, fault, rfl⟩ | ⟨-, hnil⟩
    · exact .inr (.inr rfl)
    · exact .inl hnil

/-- A response that could not be sent has not begun, or the client has seen a
part of it. -/
theorem started_of_sendResponse {e : ExchangeError}
    (h : sendResponse limits request response c = .error e d) :
    d = c ∨ d.record.responseStarted = true ∧ ∃ answering part,
      response.framing request.isHead = .ok answering ∧
      part <+: (response.prepare (reuses request response answering)
        request.version).encode ++ reach answering c.backend.reader.remaining ∧
      d.client.received = c.client.received ++ part := by
  cases hframing : response.framing request.isHead with
  | error flaw =>
    rw [sendResponse, hframing] at h
    cases h
    exact .inl rfl
  | ok answering =>
    obtain ⟨client, s, hreader, rfl,
      ⟨hreceived, -, ⟨t, -, hsend⟩ | ⟨e', t, hrelay, hsend⟩⟩ | ⟨fault, part,
        hsend, hpart, hreceived, -⟩⟩ := sendResponse_cases limits hframing c
    · rw [hsend] at h
      cases h
    · rw [hsend] at h
      cases h
      obtain ⟨p, part, hpart, hsent, rfl⟩ := part_of_relayResponse hrelay
      refine .inr ⟨rfl, answering, _ ++ part, rfl,
        (List.prefix_append_right_inj _).2 hpart, ?_⟩
      rw [← List.append_assoc, ← hreceived]
      exact hsent
    · rw [hsend] at h
      cases h
      exact .inr ⟨rfl, answering, part, rfl,
        hpart.trans (List.prefix_append _ _), hreceived⟩

/-- **An exchange that did not come to its end has stopped** before the response
has begun, or within it. -/
theorem stopped_of_converse {e : ExchangeError}
    (h : converse limits request framing c = .error e d) :
    Stopped limits.maxHeaderBytes request framing c d e := by
  rw [converse] at h
  split at h
  · rename_i h₁
    cases h
    exact stopped_of_sendRequest _ h₁
  · rename_i c₁ h₁
    obtain ⟨body, -, -, hinvited, hreader, -, hrecord⟩ := sent_of_sendRequest h₁
    have hstarted : c₁.record.responseStarted = c.record.responseStarted :=
      by rw [hrecord]
    split at h
    · rename_i h₂
      cases h
      obtain ⟨q, rfl, -⟩ := frame_of_readFinal h₂
      exact .before hstarted (List.prefix_refl _) hinvited (.inr (.inl rfl))
    · rename_i response c₂ h₂
      obtain ⟨q, rfl, hhead, -, -⟩ := finalHead?_of_readFinal h₂
      rcases started_of_sendResponse h
        with rfl | ⟨hstart, answering, part, hframing, hpart, hsent⟩
      · exact .before hstarted (List.prefix_refl _) hinvited (.inr (.inl rfl))
      · rw [hreader] at hhead
        refine .within hstart hhead hframing hpart ?_
        rw [hsent, hinvited, List.append_assoc]

/-! ## What the backend has heard -/

/-- The backend has been sent the head of the request, if it takes that, and
nothing from behind the body. -/
def Heard (request : Request) (framing : Framing) (c d : Conversation) : Prop :=
  let head := (request.prepare c.record.client.ip c.record.id).encode
  ∃ part, d.backend.received = c.backend.received ++ part ∧
    part <+: head ++ reach framing c.client.reader.remaining ∧
    (c.backend.sink.Takes head.length → head <+: part)

/-- What the backend has heard of a request that could not be sent. -/
theorem heard_of_sendRequest {e : ExchangeError}
    (h : sendRequest limits request framing c = .error e d) :
    Heard request framing c d := by
  obtain ⟨backend, -, ⟨htell, hreceived, -⟩ | ⟨fault, part, htell, hpart, hreceived, -⟩⟩ :=
    tellBackend_cases (request.prepare c.record.client.ip c.record.id).encode c
  · rw [sendRequest, htell] at h
    dsimp only at h
    obtain ⟨client, hreader, ⟨hinvite, -⟩ | ⟨_, _, hinvite, -⟩⟩ :=
      invite_cases request framing { c with backend := backend }
    · rw [hinvite] at h
      dsimp only at h
      rw [relayRequest] at h
      split at h
      · cases h
      · rename_i hrelay
        cases h
        obtain ⟨part, hpart, hsent⟩ := Pipe.part_of_relay hrelay
        refine ⟨_ ++ part, ?_, (List.prefix_append_right_inj _).2
          (hreader ▸ hpart), fun _ => List.prefix_append _ _⟩
        rw [← List.append_assoc, ← hreceived]
        exact hsent
    · rw [hinvite] at h
      cases h
      exact ⟨_, hreceived, List.prefix_append _ _, fun _ => List.prefix_refl _⟩
  · rw [sendRequest, htell] at h
    cases h
    refine ⟨part, hreceived, hpart.trans (List.prefix_append _ _), fun htakes => ?_⟩
    obtain ⟨t, ht, -⟩ := Sink.write_of_takes htakes
    rw [tellBackend, Peer.write, ht] at htell
    cases htell

/-- A response that could not be sent leaves alone what the backend has
heard. -/
theorem backendSink_of_sendResponse {e : ExchangeError}
    (h : sendResponse limits request response c = .error e d) :
    d.backend.sink = c.backend.sink := by
  cases hframing : response.framing request.isHead with
  | error flaw =>
    rw [sendResponse, hframing] at h
    cases h
    rfl
  | ok answering =>
    obtain ⟨client, s, -, rfl, ⟨-, -, ⟨t, -, hsend⟩ | ⟨e', t, hrelay, hsend⟩⟩
        | ⟨fault, part, hsend, -⟩⟩ :=
      sendResponse_cases limits hframing c
    · rw [hsend] at h
      cases h
    · rw [hsend] at h
      cases h
      obtain ⟨p, _, -, -, rfl⟩ := part_of_relayResponse hrelay
      rfl
    · rw [hsend] at h
      cases h
      rfl

/-- **What the backend has heard of an exchange**, whether it came to its end or
not. -/
theorem heard_of_converse (limits : ForwardLimits) (request : Request)
    (framing : Framing) (c : Conversation) :
    match converse limits request framing c with
    | .ok _ d => Heard request framing c d
    | .error _ d => Heard request framing c d := by
  cases h : converse limits request framing c with
  | ok reuse d =>
    obtain ⟨body, response, answering, answer, rfl, hrelayed⟩ :=
      relayed_of_converse h
    refine ⟨_, hrelayed.received, (List.prefix_append_right_inj _).2 ?_,
      fun _ => List.prefix_append _ _⟩
    rw [hrelayed.taken]
    exact prefix_reach fun hf => (hrelayed.enclosed (.inl hf)).delimits hf
  | error e d =>
    rw [converse] at h
    split at h
    · rename_i hsend
      cases h
      exact heard_of_sendRequest hsend
    · rename_i c₁ hsend
      -- the whole request was sent, and nothing is sent to the backend behind
      -- it
      obtain ⟨body, htaken, hb, -, -, hreceived, -⟩ := sent_of_sendRequest hsend
      have hsink : d.backend.sink = c₁.backend.sink := by
        split at h
        · rename_i hread
          cases h
          obtain ⟨q, rfl, hsink⟩ := frame_of_readFinal hread
          exact hsink
        · rename_i hread
          obtain ⟨q, rfl, -, hsink, -⟩ := finalHead?_of_readFinal hread
          exact (backendSink_of_sendResponse h).trans hsink
      refine ⟨(request.prepare c.record.client.ip c.record.id).encode ++ body,
        ?_, (List.prefix_append_right_inj _).2 ?_, fun _ => List.prefix_append _ _⟩
      · rw [← hreceived, Peer.received, Peer.received, hsink]
      · rw [htaken]
        exact prefix_reach fun hf => (hb (.inl hf)).delimits hf

end Conversation

end Gateway
