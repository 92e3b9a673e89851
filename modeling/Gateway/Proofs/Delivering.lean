import Gateway.Proofs.Conversing

/-!
# What both sides of an exchange receive

* `Exchange.forward_delivers`: of a success, the backend has received exactly
  the request and the client exactly the response, each with its head made ready
  for it, and the record counts both bodies;
* `Exchange.forward_answers_once`: whatever becomes of an exchange, the client
  has received a part of one answer from its front, which is the response or the
  failure, and never both.
-/

namespace Gateway

open Reader (IsLine)

/-- A client is told to go on that speaks version 1.1, expects to be told, and
has a body to send. -/
theorem Request.invitation_eq (request : Request) (framing : Framing) :
    request.invitation framing =
      if request.version = .http11 ∧ request.headers.hasElement "expect"
        "100-continue" = true ∧ framing ≠ .empty
      then Bytes.ofText "HTTP/1.1 100 Continue\r\n\r\n" else [] := by
  simp only [invitation, expectsContinue, Response.goAhead, Bool.and_eq_true,
    beq_iff_eq, bne_iff_ne, and_assoc]

namespace Exchange

variable {limits : ForwardLimits} {id : Nat} {address : SocketAddress}
  {dialed : Dialed} {request : Request} {framing : Framing} {client : Peer}
  {x : Exchange} {fleet g : Fleet} {f : Forwarded}

/-! ## Successes -/

/-- What is passed on is an attempt that is concluded. -/
theorem conclude_of_forward
    (h : x.forward limits id address dialed request framing client fleet = .ok (f, g)) :
    f = conclude (attempt limits address dialed request framing client x) := by
  rw [forward] at h
  split at h
  · cases h
  · dsimp only at h
    split at h
    · cases h
    · split at h
      · cases h
      · cases h
        rfl

/-- A success has relayed a request and a response. -/
theorem relayed_of_success
    (h : (conclude (attempt limits address dialed request framing
      client x)).record.outcome = .success) :
    ∃ backend d body response answering answer, dialed = .connected backend ∧
      Conversation.Relayed limits request framing ⟨client, backend, x⟩ d body
        response answering answer ∧
      conclude (attempt limits address dialed request framing client x) =
        { client := d.client, backend := some d.backend,
          record := { d.record with outcome := .success }
          keepAlive := Conversation.reuses request response answering } := by
  have hfailed : ∀ e f, (settle e f).record.outcome ≠ .success := by
    intro e f hs
    rw [(outcome_settle e f).1] at hs
    rcases e.outcome_cases with he | ⟨kind, he⟩
    · rw [he] at hs
      cases hs
    · rw [he] at hs
      cases hs
  cases dialed with
  | refused fault => exact absurd h (hfailed _ _)
  | unanswered => exact absurd h (hfailed _ _)
  | connected backend =>
    rw [attempt] at h ⊢
    split at h
    · rename_i reuse d hconverse
      obtain ⟨body, response, answering, answer, rfl, hrelayed⟩ :=
        Conversation.relayed_of_converse hconverse
      exact ⟨backend, d, body, response, answering, answer, rfl, hrelayed, rfl⟩
    · exact absurd h (hfailed _ _)

/-- **A success has delivered both messages.** The backend has received exactly
the request, made ready for it, with the body that its framing delimits at the
front of the client's bytes. The client has received exactly the response, made
ready for it, with the body that its framing puts behind the first head of the
backend that is not interim; in front of it, it was told to go on if it waits
for that. What follows the request is left of the client's bytes, and the record
has the lengths of both bodies and the status. -/
theorem forward_delivers (hbuffer : 0 < limits.bufferBytes)
    (hframing : request.framing = .ok framing)
    (h : x.forward limits id address dialed request framing client fleet = .ok (f, g))
    (hsuccess : f.record.outcome = .success) :
    ∃ backend q body response answering answer,
      dialed = .connected backend ∧ f.backend = some q ∧
      takeBody? framing client.reader.remaining =
        some (body, f.client.reader.remaining) ∧
      q.received = backend.received ++
        ((request.prepare x.client.ip x.id).encode ++ body) ∧
      finalHead? limits.maxHeaderBytes backend.reader.remaining =
        some (response, answer ++ q.reader.remaining) ∧
      response.framing request.isHead = .ok answering ∧
      Encloses IsLine answering backend.reader.source.ending answer q.reader.remaining ∧
      f.client.received = client.received ++
        ((if request.version = .http11 ∧
              request.headers.hasElement "expect" "100-continue" = true ∧
              framing ≠ .empty
            then Bytes.ofText "HTTP/1.1 100 Continue\r\n\r\n" else []) ++
          ((response.prepare f.keepAlive request.version).encode ++ answer)) ∧
      f.record.requestBytes = x.requestBytes + body.length ∧
      f.record.responseBytes = x.responseBytes + answer.length ∧
      f.record.status = some response.status := by
  obtain rfl := conclude_of_forward h
  obtain ⟨backend, d, body, response, answering, answer, rfl, hrelayed, heq⟩ :=
    relayed_of_success hsuccess
  rw [heq, ← Request.invitation_eq]
  have hdelimited := Request.isDelimited_framing hframing
  have hb := (hrelayed.enclosed (.inl hdelimited)).delimits hdelimited
  refine ⟨backend, d.backend, body, response, answering, answer, rfl, rfl,
    takeBody?_eq_some_iff.2 ⟨hb, hrelayed.taken⟩, hrelayed.received,
    hrelayed.head, hrelayed.framed, hrelayed.answered (.inr hbuffer),
    hrelayed.sent, ?_, ?_, ?_⟩
  · exact congrArg Exchange.requestBytes hrelayed.record
  · exact congrArg Exchange.responseBytes hrelayed.record
  · exact congrArg Exchange.status hrelayed.record

/-- A client with a body in two pieces waits for the word to go on, and a
backend sends an interim response in front of the final one, whose body is cut
by a buffer of one byte. -/
theorem forward_delivers_expecting :
    let request : Request := ⟨"PUT", "/", .http11,
      ⟨[⟨"Expect", "100-continue"⟩, ⟨"Content-Length", "2"⟩]⟩⟩
    let client : Peer :=
      { reader := ⟨Bytes.ofText "h", ⟨[Bytes.ofText "iG", Bytes.ofText "ET"], .silent⟩⟩ }
    let response : Response := ⟨.http11, 200, "OK", ⟨[⟨"Content-Length", "2"⟩]⟩⟩
    let backend : Peer :=
      { reader := ⟨[], ⟨[Bytes.ofText "HTTP/1.1 103 Early Hints\r\n\r\n" ++ response.encode ++
      Bytes.ofText "ok"], .eof⟩⟩ }
    let exchange : Exchange :=
      { id := "r", client := ⟨.loopback, 3, 0⟩, method := "PUT", target := "/" }
    let member : Member := ⟨⟨"a", ⟨.loopback, 1, 0⟩, 1, none, by decide⟩, {}, 0⟩
    ∃ f g, exchange.forward { bufferBytes := 1 } 0 ⟨.loopback, 1, 0⟩
      (.connected backend) request (.length 2)
        client { pool := { members := [member] } } = .ok (f, g) ∧
      f.client.reader.remaining = Bytes.ofText "GET" ∧
      f.client.received = Response.goAhead ++ response.encode ++ Bytes.ofText "ok" ∧
      f.record.responseBytes = 2 ∧ f.record.status = some 200 := by
  intro request client response backend exchange member
  obtain ⟨f, g, hf, hforward, -⟩ :=
    forward_of_member { bufferBytes := 1 } ⟨.loopback, 1, 0⟩
      (.connected backend) request (.length 2) client exchange
    (show ({ pool := { members := [member] } } : Fleet).pool.members[0]? =
      some member from rfl)
  have hended : f.record.outcome = .success ∧ f.keepAlive = true ∧
      f.record.responseBytes = 2 := by
    rw [← hf]
    decide +kernel
  obtain ⟨_, q, body, _, answering, answer, hdialed, -, hbody, -, hhead, -, -,
      hsent, -, hbytes, hstatus⟩ :=
    forward_delivers (show 0 < ({ bufferBytes := 1 } :
      ForwardLimits).bufferBytes by decide) rfl hforward hended.1
  cases hdialed
  have hfound : finalHead? ({ bufferBytes := 1 } : ForwardLimits).maxHeaderBytes
      backend.reader.remaining = some (response, Bytes.ofText "ok") := by
    decide +kernel
  rw [hfound, Option.some_inj, Prod.mk.injEq] at hhead
  obtain ⟨rfl, htail⟩ := hhead
  rw [hended.2.2, show exchange.responseBytes = 0 from rfl, Nat.zero_add] at hbytes
  obtain ⟨rfl, -⟩ :=
    List.append_inj (htail.symm.trans (List.append_nil _).symm) hbytes.symm
  rw [show takeBody? (.length 2) client.reader.remaining =
      some (Bytes.ofText "hi", Bytes.ofText "GET") by
    decide +kernel, Option.some_inj, Prod.mk.injEq] at hbody
  refine ⟨f, g, hforward, hbody.2.symm, ?_, hended.2.2, hstatus⟩
  rw [hsent, hended.2.1]
  decide +kernel

end Exchange

/-! ## Answers -/

/-- What a client may be told of an exchange, and whether the response has begun
then. -/
inductive Told (max : Nat) (request : Request) (dialed : Dialed)
    (a : Except ExchangeError Bool) :
    Bool → Bytes → Prop where
  /-- Nothing. -/
  | nothing : Told max request dialed a false []
  /-- That the exchange has failed. -/
  | failure {e : ExchangeError} {status : Nat} : a = .error e →
      e.status? = some status →
      Told max request dialed a false (Response.errorResponse status e.message)
  /-- The final response, with what the backend sends behind its head, but
  nothing behind the body that the framing delimits there. -/
  | response {backend : Peer} {response : Response} {answering : Framing}
      {tail : Bytes} : dialed = .connected backend →
      finalHead? max backend.reader.remaining = some (response, tail) →
      response.framing request.isHead = .ok answering →
      Told max request dialed a true
        ((response.prepare (Conversation.reuses request response answering)
          request.version).encode ++ reach answering tail)

namespace Exchange

variable {limits : ForwardLimits} {id : Nat} {address : SocketAddress}
  {dialed : Dialed} {request : Request} {framing : Framing} {client : Peer}
  {x : Exchange} {fleet g : Fleet} {f : Forwarded} {m : Member}

/-- A client is told of a failure only if its response has not begun and there
is a status for it. -/
theorem client_settle (e : ExchangeError) (f : Forwarded) :
    (settle e f).record.responseStarted = f.record.responseStarted ∧
      ((settle e f).client = f.client ∨
        ∃ status part, f.record.responseStarted = false ∧ e.status? = some status ∧
          part <+: Response.errorResponse status e.message ∧
          (settle e f).client.received = f.client.received ++ part) := by
  rw [settle]
  split
  · exact ⟨rfl, .inl rfl⟩
  · rename_i status hstatus
    refine ⟨rfl, .inr ?_⟩
    split at hstatus
    · cases hstatus
    · rename_i hstarted
      obtain ⟨q, -, ⟨hw, hreceived, -⟩ | ⟨fault, part, hw, hpart, hreceived, -⟩⟩ :=
        f.client.write_cases (Response.errorResponse status e.message)
      · refine ⟨status, _, by simpa using hstarted, hstatus, List.prefix_refl _, ?_⟩
        rw [hw]
        exact hreceived
      · refine ⟨status, part, by simpa using hstarted, hstatus, hpart, ?_⟩
        rw [hw]
        exact hreceived

/-- What the client has received of a failure, if it was told to go on at most
before. -/
theorem told_settle {max : Nat} {e : ExchangeError} {part : Bytes}
    {a : Except ExchangeError Bool} (he : a = .error e)
    (hstarted : f.record.responseStarted = false)
    (hreceived : f.client.received = client.received ++ part)
    (hpart : part <+: request.invitation framing)
    (hwhole : part = [] ∨ part = request.invitation framing ∨ e.status? = none) :
    ∃ sent invited answer, (settle e f).client.received = client.received ++ sent ∧
      sent <+: invited ++ answer ∧
      (invited = [] ∨ invited = request.invitation framing) ∧
      Told max request dialed a (settle e f).record.responseStarted answer := by
  obtain ⟨hrecord, hclient | ⟨status, more, -, hstatus, hmore, hclient⟩⟩ :=
    client_settle e f
  · rw [hrecord, hstarted, hclient]
    refine ⟨part, _, [], hreceived, ?_, .inr rfl, .nothing⟩
    rwa [List.append_nil]
  · rw [hrecord, hstarted, hclient, hreceived]
    have htold : Told max request dialed a false
        (Response.errorResponse status e.message) := .failure he hstatus
    rcases hwhole with rfl | rfl | hnone
    · refine ⟨more, [], _, ?_, hmore, .inl rfl, htold⟩
      rw [List.append_nil]
    · exact ⟨_, _, _, List.append_assoc _ _ _,
        (List.prefix_append_right_inj _).2 hmore, .inr rfl, htold⟩
    · rw [hstatus] at hnone
      cases hnone

/-- The client of an attempt that is concluded has received a part of one
answer. -/
theorem told_conclude (limits : ForwardLimits) (address : SocketAddress)
    (dialed : Dialed) (request : Request) (framing : Framing) (client : Peer)
    (hfresh : x.responseStarted = false) :
    ∃ sent invited answer,
      (conclude (attempt limits address dialed request framing client x)).client.received =
        client.received ++ sent ∧
      sent <+: invited ++ answer ∧
      (invited = [] ∨ invited = request.invitation framing) ∧
      Told limits.maxHeaderBytes request dialed
        (attempt limits address dialed request framing client x).1
          (conclude (attempt limits address dialed request framing
          client x)).record.responseStarted answer := by
  have hunsent : client.received = client.received ++ [] := (List.append_nil _).symm
  cases dialed with
  | refused fault =>
    exact told_settle rfl hfresh hunsent List.nil_prefix (.inl rfl)
  | unanswered =>
    exact told_settle rfl hfresh hunsent List.nil_prefix (.inl rfl)
  | connected backend =>
    rw [attempt]
    split
    · rename_i reuse d hconverse
      obtain ⟨body, response, answering, answer, rfl, hrelayed⟩ :=
        Conversation.relayed_of_converse hconverse
      have hstarted : d.record.responseStarted = true :=
        congrArg Exchange.responseStarted hrelayed.record
      refine ⟨_, _, (response.prepare (Conversation.reuses request response
        answering) request.version).encode ++ reach answering (answer ++
          d.backend.reader.remaining), hrelayed.sent, ?_, .inr rfl, ?_⟩
      · refine (List.prefix_append_right_inj _).2
          ((List.prefix_append_right_inj _).2 (prefix_reach fun hf => ?_))
        exact (hrelayed.answered (.inl hf)).delimits hf
      · rw [conclude, hstarted]
        exact .response rfl hrelayed.head hrelayed.framed
    · rename_i e d hconverse
      cases Conversation.stopped_of_converse hconverse with
      | before hstarted hpart hsent hwhole =>
        exact told_settle rfl (hstarted.trans hfresh) hsent hpart hwhole
      | @within response answering tail part hstarted hhead hframing hpart hsent =>
        -- the response has begun, so the client is not told of the failure
        obtain ⟨hrecord, hclient | ⟨_, _, hunstarted, -⟩⟩ := client_settle e
          { client := d.client, backend := some d.backend, record := d.record }
        · rw [conclude, hrecord, hclient, hstarted]
          exact ⟨_, _, _, hsent, (List.prefix_append_right_inj _).2 hpart,
            .inr rfl, .response rfl hhead hframing⟩
        · rw [hstarted] at hunstarted
          cases hunstarted

/-- **What the backend has heard of an attempt**: the head of the request, if it
takes that, and nothing from behind the body. Where there is no connection,
nobody has heard of it. -/
theorem heard_of_attempt (limits : ForwardLimits) (address : SocketAddress)
    (dialed : Dialed) (request : Request) (framing : Framing) (client : Peer)
    (x : Exchange) :
    let f := conclude (attempt limits address dialed request framing client x)
    let head := (request.prepare x.client.ip x.id).encode
    (∃ backend peer part, dialed = .connected backend ∧ f.backend = some peer ∧
        peer.received = backend.received ++ part ∧
        part <+: head ++ reach framing client.reader.remaining ∧
        (backend.sink.Takes head.length → head <+: part)) ∨
      (∀ backend, dialed ≠ .connected backend) ∧ f.backend = none := by
  cases dialed with
  | refused fault => exact .inr ⟨by rintro _ ⟨⟩, (outcome_settle _ _).2.2⟩
  | unanswered => exact .inr ⟨by rintro _ ⟨⟩, (outcome_settle _ _).2.2⟩
  | connected backend =>
    have hheard :=
      Conversation.heard_of_converse limits request framing ⟨client, backend, x⟩
    rw [attempt]
    split
    · rename_i reuse d hconverse
      rw [hconverse] at hheard
      obtain ⟨part, hspec⟩ := hheard
      exact .inl ⟨backend, d.backend, part, rfl, rfl, hspec⟩
    · rename_i e d hconverse
      rw [hconverse] at hheard
      obtain ⟨part, hspec⟩ := hheard
      exact .inl ⟨backend, d.backend, part, rfl, (outcome_settle _ _).2.2, hspec⟩

/-- **A client receives a part of one answer.** Whatever comes of the
connection, whatever either side does on it and wherever one of them falls
silent until the time is over: what the client has received is the beginning of
the word to go on, if it was told that, followed by one answer. The answer is
nothing, the failure, or the prepared head of the final response with the bytes
that the backend sends behind that head, up to the end of the body that its
framing delimits there; it is the response if and only if the record says that
the response has begun. -/
theorem forward_answers_once (limits : ForwardLimits) (address : SocketAddress)
    (dialed : Dialed) (request : Request) (framing : Framing) (client : Peer)
    (hm : fleet.pool.members[id]? = some m) (hfresh : x.responseStarted = false) :
    ∃ f g sent invited answer,
      x.forward limits id address dialed request framing client fleet = .ok (f, g) ∧
      f.client.received = client.received ++ sent ∧ sent <+: invited ++ answer ∧
      (invited = [] ∨ invited = Response.goAhead) ∧
      Told limits.maxHeaderBytes request dialed
        (attempt limits address dialed request framing client x).1
          f.record.responseStarted answer := by
  obtain ⟨f, g, rfl, hforward, -⟩ :=
    forward_of_member limits address dialed request framing client x hm
  obtain ⟨sent, invited, answer, hsent, hprefix, hinvited, htold⟩ :=
    told_conclude limits address dialed request framing client hfresh
  refine ⟨_, g, sent, invited, answer, hforward, hsent, hprefix, ?_, htold⟩
  rcases hinvited with rfl | rfl
  · exact .inl rfl
  · rw [Request.invitation]
    split
    · exact .inr rfl
    · exact .inl rfl

/-- A response that ends before its body does is not followed by anything
else. -/
theorem forward_answers_once_truncated :
    let request : Request := ⟨"GET", "/", .http10, ⟨[]⟩⟩
    let response : Response := ⟨.http11, 200, "OK", ⟨[⟨"Content-Length", "9"⟩]⟩⟩
    let backend : Peer :=
      { reader := ⟨[], ⟨[response.encode ++ Bytes.ofText "half"], .eof⟩⟩ }
    let exchange : Exchange :=
      { id := "r", client := ⟨.loopback, 3, 0⟩, method := "GET", target := "/" }
    let member : Member := ⟨⟨"a", ⟨.loopback, 1, 0⟩, 1, none, by decide⟩, {}, 0⟩
    ∃ f g invited, exchange.forward {} 0 ⟨.loopback, 1, 0⟩
      (.connected backend) request .empty {}
        { pool := { members := [member] } } = .ok (f, g) ∧
      f.record.outcome = .failed .midStreamReset ∧
      (invited = [] ∨ invited = Response.goAhead) ∧
      f.client.received <+: invited ++
        ((response.prepare false .http10).encode ++ Bytes.ofText "half") := by
  intro request response backend exchange member
  obtain ⟨f, g, sent, invited, answer, hforward, hreceived, hprefix, hinvited, htold⟩ :=
    forward_answers_once {} ⟨.loopback, 1, 0⟩ (.connected backend) request .empty {}
      (show ({ pool := { members := [member] } } : Fleet).pool.members[0]? =
        some member from rfl)
      (show exchange.responseStarted = false from rfl)
  have hended : f.record.outcome = .failed .midStreamReset ∧
      f.record.responseStarted = true := by
    rw [conclude_of_forward hforward]
    decide +kernel
  rw [hended.2] at htold
  have hfound : finalHead? ({} : ForwardLimits).maxHeaderBytes backend.reader.remaining =
      some (response, Bytes.ofText "half") := by
    decide +kernel
  cases htold with
  | response hdialed hhead _ =>
    cases hdialed
    rw [hfound] at hhead
    cases hhead
    refine ⟨f, g, invited, hforward, hended.1, hinvited, hreceived ▸ hprefix.trans ?_⟩
    exact (List.prefix_append_right_inj _).2
      ((List.prefix_append_right_inj _).2 (reach_front _ _))

end Exchange

end Gateway
