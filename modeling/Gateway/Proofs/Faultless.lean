import Gateway.Proofs.Blaming

/-!
# Who ends an exchange

An exchange that fails was ended by one of its two sides, and what is recorded
of it says by which. A side that does all that is asked of it is never the one,
and a backend whose answer tells of an error does all that is asked of it.

* `Peer.FaultlessClient` says what is asked of a client, as `Peer.Faultless`
  says it of a backend. A side that does less and keeps its connection open
  hangs (`Peer.HangsInBody`, `Dialed.Hangs`);
* `Conversation.backendEnds_of_converse`: with a faultless client it is the
  backend that ends an exchange, as it is the client with a faultless backend
  (`Cycle.outcome_of_faultless`);
* `Conversation.converse_of_faultless`: with two faultless sides an exchange
  comes to its end;
* `Exchange.forward_blames`: what is recorded in each case.
-/

namespace Gateway

/-! ## Sides of an exchange -/

/-- A client that sends the body of its request in full and takes every byte. -/
structure Peer.FaultlessClient (client : Peer) (framing : Framing) : Prop where
  /-- It takes every byte. -/
  unlimited : client.sink.room = none
  /-- It sends the body. -/
  sends : client.SendsBody framing

/-- Behind any interim heads the backend sends a final one, which announces a
body that stands behind it and has no long lines. -/
def Peer.SendsAnswer (backend : Peer) (max : Nat) (request : Request) : Prop :=
  ∃ response answering answer rest,
    finalHead? max backend.reader.remaining = some (response, answer ++ rest) ∧
    response.framing request.isHead = .ok answering ∧
    Encloses IsShortLine answering backend.reader.source.ending answer rest

/-- The backend lets its client wait until the time is over: it keeps its
connection open and does not answer, or it does not take the connection and the
time for that is the longer one. -/
def Dialed.Hangs (limits : ForwardLimits) (request : Request) : Dialed → Prop
  | .connected backend =>
    backend.reader.source.ending = .silent ∧
      ¬ backend.SendsAnswer limits.maxHeaderBytes request
  | .refused _ => False
  | .unanswered => limits.requestTimeout.millis < limits.connectTimeout.millis

/-- The failure is the backend's, or the time is over and the backend was
silent. -/
def ExchangeError.IsBackends (e : ExchangeError) (backend : Peer) : Prop :=
  e.outcome = .failed .midStreamReset ∨
    e.outcome = .failed .timeout ∧ backend.reader.source.ending = .silent

namespace Reader

/-- The search for a head waits for ever only where the sender is silent. -/
theorem ending_of_readHead_silent {max : Nat} {r t : Reader}
    (h : r.readHead max = (.error .silent, t)) :
    r.source.ending = .silent := by
  have key : ∀ pieces held scanned, readHead.go max r held scanned pieces =
      (.error .silent, t) →
      r.source.ending = .silent := by
    intro pieces held scanned h
    fun_induction readHead.go max r held scanned pieces with
    | case4 held scanned buffer scanned' hn hlong piece rest ih => exact ih h
    | case1 => cases h
    | case2 => cases h
    | case3 => cases h
    | case5 => split at h <;> cases h
    | case6 => cases h
    | case7 held scanned buffer scanned' hn hlong hending => exact hending
  exact key r.source.pieces r.buffer 0 h

end Reader

namespace Conversation

variable {limits : ForwardLimits} {request : Request} {framing : Framing}
  {c d : Conversation} {e : ExchangeError}

/-! ## Exchanges with a faultless client -/

/-- A request that cannot be sent is ended by the backend, which does not take
it. -/
theorem backendEnds_of_sendRequest (hbuffer : 0 < limits.bufferBytes)
    (hclient : c.client.FaultlessClient framing)
    (h : sendRequest limits request framing c = .error e d) :
    ∃ fault, e = .backendIo fault := by
  obtain ⟨backend, -, ⟨htell, -⟩ | ⟨fault, _, htell, -⟩⟩ :=
    tellBackend_cases (request.prepare c.record.client.ip c.record.id).encode c
  rotate_left
  · rw [sendRequest, htell] at h
    cases h
    exact ⟨fault, rfl⟩
  obtain ⟨client, hreader, ⟨hinvite, -⟩ | ⟨_, _, -, -, -, hlimit⟩⟩ :=
    invite_cases request framing { c with backend := backend }
  rotate_left
  · exact absurd hclient.unlimited hlimit
  rw [sendRequest, htell] at h
  dsimp only at h
  rw [hinvite] at h
  dsimp only at h
  rw [relayRequest] at h
  -- the body is there, so it is only the backend that can stop it
  obtain ⟨body, rest, hsends, hb⟩ := hclient.sends
  rw [← hreader] at hsends
  rcases Pipe.passes_relay (p := ⟨client.reader, backend.sink,
      c.record.requestBytes⟩) hbuffer (.inl hb) hsends with
    ⟨p, hrelay, -⟩ | ⟨fault, p, hrelay, -⟩
  · rw [hrelay] at h
    cases h
  · rw [hrelay] at h
    cases h
    exact ⟨fault, rfl⟩

/-- A request that is sent leaves a client without a limit. -/
theorem unlimited_of_sendRequest (hclient : c.client.sink.room = none)
    (h : sendRequest limits request framing c = .ok () d) :
    d.client.sink.room = none := by
  rcases sendRequest_cases limits request framing c with
    ⟨client, backend, heq, -, -, hroom, -⟩ | ⟨_, s, _, _, he, -⟩
  · rw [heq] at h
    obtain ⟨p, _, -, rfl, -⟩ := moved_of_relayRequest h
    exact hroom hclient
  · rw [he] at h
    cases h

/-- A head that cannot be read is the backend's failure. -/
theorem isBackends_of_readResponse
    (h : readResponse limits c = .error e d) : e.IsBackends c.backend := by
  rw [readResponse, Peer.readHead] at h
  rcases hread : c.backend.reader.readHead limits.maxHeaderBytes
    with ⟨error | (_ | head), t⟩
  · rw [hread] at h
    cases h
    cases error with
    | silent => exact .inr ⟨rfl, Reader.ending_of_readHead_silent hread⟩
    | _ => exact .inl rfl
  · rw [hread] at h
    cases h
    exact .inl rfl
  · rw [hread] at h
    dsimp only at h
    split at h
    · cases h
    · cases h
      exact .inl rfl

/-- The same up to the final head. -/
theorem isBackends_of_readFinal
    (h : readFinal limits c = .error e d) : e.IsBackends c.backend := by
  fun_induction readFinal limits c with
  | case1 c e' d' hread =>
    cases h
    exact isBackends_of_readResponse hread
  | case2 c response d' hread hinterim ih =>
    obtain ⟨_, q, -, -, rfl, -, hending⟩ := headOf?_of_readResponse hread
    exact (ih h).imp_right (And.imp_right hending.symm.trans)
  | case3 => cases h

/-- A response that cannot be sent to a client without a limit is the backend's
failure. -/
theorem isBackends_of_sendResponse {response : Response}
    (hclient : c.client.sink.room = none)
    (h : sendResponse limits request response c = .error e d) :
    e.IsBackends c.backend := by
  cases hframing : response.framing request.isHead with
  | error flaw =>
    rw [sendResponse, hframing] at h
    cases h
    exact .inl rfl
  | ok answering =>
    obtain ⟨client, s, -, rfl, ⟨-, hroom, ⟨t, -, hsend⟩ | ⟨e', t, hrelay, hsend⟩⟩
        | ⟨_, _, -, -, -, hlimit⟩⟩ :=
      sendResponse_cases limits hframing c
    · rw [hsend] at h
      cases h
    · rw [hsend] at h
      cases h
      obtain ⟨p, error, hfailed, -, rfl⟩ := failed_of_relayResponse hrelay
      cases error with
      | write fault => exact absurd (hroom hclient) (hfailed.limited fault rfl)
      | silent => exact .inr ⟨rfl, hfailed.waited rfl⟩
      | _ => exact .inl rfl
    · exact absurd hclient hlimit

/-- Once the request is sent, an answer that is there reaches a client without a
limit. -/
theorem converse_of_sendsAnswer (hbuffer : 0 < limits.bufferBytes)
    (hclient : c.client.sink.room = none)
    (hbackend : c.backend.SendsAnswer limits.maxHeaderBytes request)
    (hsend : sendRequest limits request framing c = .ok () d) :
    ∃ reuse s, converse limits request framing c = .ok reuse s := by
  obtain ⟨_, -, -, -, hreader, -, -⟩ := sent_of_sendRequest hsend
  obtain ⟨response, answering, answer, rest, hhead, hframing, hanswer⟩ := hbackend
  rw [← hreader] at hhead hanswer
  obtain ⟨q, hread, hrest, -, hending⟩ := readFinal_of_finalHead? hhead
  rw [← hending] at hanswer
  have hroom := unlimited_of_sendRequest hclient hsend
  obtain ⟨s, hs, -⟩ :=
    sendResponse_of_encloses (c := { d with
      backend := q }) hbuffer hframing hanswer hroom hrest
  refine ⟨reuses request response answering, s, ?_⟩
  rw [converse, hsend]
  dsimp only
  rw [hread]
  exact hs

/-- **A client that sends its body in full and takes everything is not to
blame**: an exchange with it that fails was ended by the backend, or the backend
hung until the time was over. -/
theorem backendEnds_of_converse (hbuffer : 0 < limits.bufferBytes)
    (hclient : c.client.FaultlessClient framing)
    (h : converse limits request framing c = .error e d) :
    e.outcome = .failed .midStreamReset ∨
      e.outcome = .failed .timeout ∧
      (Dialed.connected c.backend).Hangs limits request := by
  cases hsend : sendRequest limits request framing c with
  | error e' d' =>
    obtain ⟨fault, rfl⟩ := backendEnds_of_sendRequest hbuffer hclient hsend
    rw [converse, hsend] at h
    cases h
    exact .inl rfl
  | ok _ c₁ =>
    by_cases hanswer : c.backend.SendsAnswer limits.maxHeaderBytes request
    · obtain ⟨reuse, s, hs⟩ :=
        converse_of_sendsAnswer hbuffer hclient.unlimited hanswer hsend
      rw [hs] at h
      cases h
    obtain ⟨_, -, -, -, hreader, -, -⟩ := sent_of_sendRequest hsend
    have hroom := unlimited_of_sendRequest hclient.unlimited hsend
    have hisBackends : e.IsBackends c.backend := by
      rw [converse, hsend] at h
      dsimp only at h
      rw [ExchangeError.IsBackends, ← hreader]
      split at h
      · rename_i hread
        cases h
        exact isBackends_of_readFinal hread
      · rename_i response c₂ hread
        obtain ⟨q, rfl, -, -, hending⟩ := finalHead?_of_readFinal hread
        rw [← hending]
        exact isBackends_of_sendResponse (c := { c₁ with backend := q }) hroom h
    exact hisBackends.imp_right (And.imp_right fun hsilent => ⟨hsilent, hanswer⟩)

/-! ## Exchanges with two faultless sides -/

/-- **With two faultless sides an exchange comes to its end.** -/
theorem converse_of_faultless (hbuffer : 0 < limits.bufferBytes)
    (hclient : c.client.FaultlessClient framing)
    (hbackend : c.backend.Faultless limits.maxHeaderBytes request) :
    ∃ reuse d, converse limits request framing c = .ok reuse d := by
  obtain ⟨body, rest, hsends, hb⟩ := hclient.sends
  obtain ⟨c₁, hsend, -⟩ := sendRequest_complete request hbuffer hb
    hclient.unlimited hbackend.unlimited hsends
  exact converse_of_sendsAnswer hbuffer hclient.unlimited hbackend.answers hsend

end Conversation

/-! ## What is recorded -/

namespace Exchange

variable {limits : ForwardLimits} {id : Nat} {address : SocketAddress}
  {dialed : Dialed} {request : Request} {framing : Framing}
  {client backend : Peer} {x : Exchange} {fleet : Fleet} {m : Member}

/-- With a faultless backend an exchange succeeds, its client has ended it, or
its client hangs. -/
theorem outcome_of_backend (hbuffer : 0 < limits.bufferBytes)
    (hbackend : backend.Faultless limits.maxHeaderBytes request) :
    let outcome := (conclude (attempt limits address
      (.connected backend) request framing client x)).record.outcome
    outcome = .success ∨ outcome = .rejected ∨ outcome = .failed .clientDisconnect ∨
      outcome = .failed .timeout ∧ client.HangsInBody framing :=
  Cycle.outcome_of_faultless
    (c := ⟨client, backend, address, request, framing, x⟩) hbuffer hbackend

/-- With a faultless client an exchange succeeds, its backend could not be
connected to or has ended it, or its backend hangs. -/
theorem outcome_of_client (hbuffer : 0 < limits.bufferBytes)
    (hclient : client.FaultlessClient framing) :
    let outcome := (conclude
      (attempt limits address dialed request framing client x)).record.outcome
    outcome = .success ∨ outcome = .failed .connectRefused ∨
      outcome = .failed .connectTimeout ∨
      outcome = .failed .midStreamReset ∨
        outcome = .failed .timeout ∧ dialed.Hangs limits request := by
  cases dialed with
  | refused fault => exact .inr (.inl (outcome_settle _ _).1)
  | unanswered =>
    dsimp only
    rw [attempt, conclude, (outcome_settle _ _).1]
    split
    · exact .inr (.inr (.inl rfl))
    · rename_i hlonger
      exact .inr (.inr (.inr (.inr ⟨rfl, Nat.lt_of_not_le hlonger⟩)))
  | connected backend =>
    dsimp only
    rw [attempt]
    split
    · exact .inl rfl
    · rename_i hconverse
      rw [conclude, (outcome_settle _ _).1]
      exact .inr (.inr (.inr (Conversation.backendEnds_of_converse hbuffer hclient hconverse)))

/-- With two faultless sides an exchange succeeds. -/
theorem outcome_of_both (hbuffer : 0 < limits.bufferBytes)
    (hbackend : backend.Faultless limits.maxHeaderBytes request)
    (hclient : client.FaultlessClient framing) :
    (conclude (attempt limits address (.connected backend) request framing
      client x)).record.outcome = .success := by
  obtain ⟨reuse, d, hd⟩ := Conversation.converse_of_faultless
    (c := ⟨client, backend, x⟩) hbuffer hclient hbackend
  rw [attempt, hd]
  rfl

/-- **The side that ends an exchange is the side that is blamed for it.** A
faultless backend has no failure recorded but that its client is gone, or that
its client has hung until the time was over. With a faultless client nothing is
rejected, and every failure is one of the connection to the backend or of its
answer, or the backend has hung. With both the exchange is a success, whatever
the status of the answer. -/
theorem forward_blames (hm : fleet.pool.members[id]? = some m)
    (hbuffer : 0 < limits.bufferBytes) (address : SocketAddress)
    (dialed : Dialed) (request : Request) (framing : Framing) (client : Peer)
    (x : Exchange) :
    ∃ f g, x.forward limits id address dialed request framing client fleet = .ok (f, g) ∧
      (∀ backend, dialed = .connected backend →
        backend.Faultless limits.maxHeaderBytes request →
        f.record.outcome = .success ∨ f.record.outcome = .rejected ∨
          f.record.outcome = .failed .clientDisconnect ∨
          f.record.outcome = .failed .timeout ∧ client.HangsInBody framing) ∧
      (client.FaultlessClient framing →
        f.record.outcome = .success ∨ f.record.outcome = .failed .connectRefused ∨
          f.record.outcome = .failed .connectTimeout ∨
          f.record.outcome = .failed .midStreamReset ∨
          f.record.outcome = .failed .timeout ∧ dialed.Hangs limits request) ∧
      (∀ backend, dialed = .connected backend →
        backend.Faultless limits.maxHeaderBytes request →
        client.FaultlessClient framing → f.record.outcome = .success) := by
  obtain ⟨f, g, rfl, hforward, -⟩ :=
    forward_of_member limits address dialed request framing client x hm
  refine ⟨_, g, hforward, ?_, outcome_of_client hbuffer, ?_⟩
  · rintro backend rfl hbackend
    exact outcome_of_backend hbuffer hbackend
  · rintro backend rfl hbackend hclient
    exact outcome_of_both hbuffer hbackend hclient

/-- A backend answers with an error of its own behind an interim head: that is a
success with a client that has sent its body and stays, and with one that ends
its connection instead it is this one that is blamed. -/
theorem forward_blames_error :
    let answer :=
      "HTTP/1.1 100 Continue\r\n\r\nHTTP/1.1 500 Internal Server Error\r\n\r\nno"
    let backend : Peer := { reader := ⟨[], ⟨[Bytes.ofText answer], .eof⟩⟩ }
    let request : Request := ⟨"POST", "/", .http11, ⟨[⟨"Content-Length", "1"⟩]⟩⟩
    let client : Peer := { reader := ⟨[], ⟨[Bytes.ofText "a"], .silent⟩⟩ }
    let gone : Peer := { reader := ⟨[], ⟨[], .eof⟩⟩ }
    let x : Exchange :=
      { id := "r", client := ⟨.loopback, 3, 0⟩, method := "POST", target := "/" }
    let fleet : Fleet :=
      { pool := { members := [⟨⟨"a", ⟨.loopback, 1, 0⟩, 1, none, by decide⟩, {}, 0⟩] } }
    let forwarded (client : Peer) :=
      x.forward {} 0 ⟨.loopback, 1, 0⟩ (.connected backend) request
        (.length 1) client fleet
    backend.Faultless ({} : ForwardLimits).maxHeaderBytes request ∧
      client.FaultlessClient (.length 1) ∧
      (∃ f g, forwarded client = .ok (f, g) ∧ f.record.outcome = .success) ∧
      ∃ f g, forwarded gone = .ok (f, g) ∧
        (f.record.outcome = .success ∨ f.record.outcome = .rejected ∨
          f.record.outcome = .failed .clientDisconnect) := by
  intro answer backend request client gone x fleet forwarded
  have hbackend : backend.Faultless ({} : ForwardLimits).maxHeaderBytes request :=
    ⟨rfl, ⟨.http11, 500, "Internal Server Error", ⟨[]⟩⟩, .untilClose,
      Bytes.ofText "no", [], by
      decide +kernel, if_neg (by decide), .inr ⟨rfl, rfl, rfl⟩⟩
  have hclient : client.FaultlessClient (.length 1) :=
    ⟨rfl, Bytes.ofText "a", [], rfl, rfl⟩
  have hforward :=
    fun client => forward_blames (show fleet.pool.members[0]? = some _ from rfl)
      (show 0 < ({} : ForwardLimits).bufferBytes by decide) ⟨.loopback, 1, 0⟩
      (.connected backend) request (.length 1)
    client x
  obtain ⟨f, g, hfg, -, -, hboth⟩ := hforward client
  obtain ⟨f', g', hfg', hgone, -, -⟩ := hforward gone
  refine ⟨hbackend, hclient, ⟨f, g, hfg, hboth backend rfl hbackend hclient⟩,
    f', g', hfg', ?_⟩
  rcases hgone backend rfl hbackend with hsuccess | hrejected | hended
    | ⟨-, hsilent, -⟩
  · exact .inl hsuccess
  · exact .inr (.inl hrejected)
  · exact .inr (.inr hended)
  · cases hsilent

end Exchange

end Gateway
