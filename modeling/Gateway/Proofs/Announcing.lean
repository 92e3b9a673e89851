import Gateway.Proofs.Reusing

/-!
# What an answer announces

A client is answered with one head at most. It announces where the body ends,
and what becomes of the connection. To make a response ready for a client
changes much about its headers, but not where its body ends; and where that does
not show in the bytes, the head says that the connection closes.

* `Response.errorResponse_eq`: a failure is answered with a head and a text too;
* `Exchange.Announces` says which heads an exchange may answer with, and what
  each means for the connection;
* `Exchange.announces_of_forward`: the client of an exchange receives a part of
  such an answer;
* `Exchange.Announces.getAll_connection`: a head after which the connection
  closes says so, and no more about it;
* `Response.prepare_delimits_alike`: no head loses the framing that was read in
  it.
-/

namespace Gateway

/-! ## Heads of the gateway itself -/

namespace Response

/-- The head of the answer to a request that failed. -/
def refusal (status : Nat) (message : String) : Response :=
  ⟨.http11, status, reasonPhrase status,
    ⟨[⟨"Content-Type", "text/plain"⟩, ⟨"Content-Length",
      toString message.utf8ByteSize⟩, ⟨"Connection", "close"⟩]⟩⟩

/-- **A failure is answered with a head and its text.** -/
theorem errorResponse_eq (status : Nat) (message : String) :
    errorResponse status message =
      (refusal status message).encode ++ Bytes.ofText message := by
  have hcrlf : Bytes.crlf = Bytes.ofText "\r\n" := by decide +kernel
  have hlines : Bytes.ofText "Content-Type: text/plain\r\n" =
      Bytes.ofText "Content-Type" ++ Bytes.ofText ": " ++
        Bytes.ofText "text/plain" ++ Bytes.ofText "\r\n" ∧
      Bytes.ofText "Content-Length: " =
        Bytes.ofText "Content-Length" ++ Bytes.ofText ": " ∧
      Bytes.ofText "Connection: close\r\n" =
        Bytes.ofText "Connection" ++ Bytes.ofText ": " ++
          Bytes.ofText "close" ++ Bytes.ofText "\r\n" ∧
      Bytes.ofText "HTTP/1.1 " =
        Bytes.ofText Version.http11.text ++ Bytes.ofText " " := by
    decide +kernel
  simp only [errorResponse, refusal, encode, startLine, Headers.encode,
    Header.text, List.flatMap_cons, List.flatMap_nil, Bytes.ofText_append,
    hlines, hcrlf, List.append_assoc, List.nil_append]

end Response

/-! ## Answers -/

namespace Exchange

variable {limits : ForwardLimits} {id : Nat} {address : SocketAddress}
  {dialed : Dialed} {request : Request} {framing : Framing} {client : Peer}
  {x : Exchange} {fleet g : Fleet} {f : Forwarded} {started goesOn : Bool}
  {head : Response} {tail : Bytes}

/-- What an exchange may answer its client with, by whether the response has
begun: whether the connection is to go on after it, its head, and what stands
behind that. -/
inductive Announces (limits : ForwardLimits) (dialed : Dialed)
    (request : Request) :
    Bool → Bool → Response → Bytes → Prop where
  /-- The exchange has failed. -/
  | failure (status : Nat) (message : String) :
      Announces limits dialed request false false (.refusal status message)
        (Bytes.ofText message)
  /-- The backend has sent a final head, which is made ready for the client. -/
  | response {backend : Peer} {response : Response} {answering : Framing}
      {tail : Bytes} : dialed = .connected backend → finalHead?
        limits.maxHeaderBytes backend.reader.remaining = some (response, tail) →
      response.framing request.isHead = .ok answering →
      Announces limits dialed request true (Conversation.reuses request response answering)
        (response.prepare (Conversation.reuses request response answering)
          request.version) tail

/-- **A head after which the connection closes says so**, and no more about
it. -/
theorem Announces.getAll_connection
    (h : Announces limits dialed request started false head tail) :
    head.headers.getAll "connection" = ["close"] := by
  generalize hgoesOn : false = goesOn at h
  cases h with
  | failure status message =>
    have hnamed : Header.named "connection" ⟨"Content-Type", "text/plain"⟩ = false ∧
        Header.named "connection" ⟨"Content-Length",
          toString message.utf8ByteSize⟩ = false ∧
          Header.named "connection" ⟨"Connection", "close"⟩ = true := by
      simp only [Header.named]
      decide +kernel
    simp only [Response.refusal, Headers.getAll, List.filter_cons, hnamed,
      Bool.false_eq_true, if_false, if_true, List.filter_nil,
      List.map_cons, List.map_nil]
  | response =>
    rw [← hgoesOn]
    exact Response.getAll_connection_prepare _ _ _

/-- **A head whose body ends with the connection is one after which it
closes.** -/
theorem Announces.closes_of_untilClose
    (h : Announces limits dialed request started goesOn head tail)
    (hclose : head.framing request.isHead = .ok .untilClose) : goesOn = false := by
  cases h with
  | failure => rfl
  | response _ _ hframed =>
    rw [Response.framing_prepare, hframed] at hclose
    cases hclose
    rw [Conversation.reuses, Bool.and_eq_false_iff]
    exact .inr rfl

/-- **The client of an exchange receives a part of one answer**, perhaps behind
the word to go on. The answer is nothing where the response has not begun, or a
head with something behind it. If the connection goes on, the head was made
ready for that. -/
theorem announces_of_forward (hfresh : x.responseStarted = false)
    (h : x.forward limits id address dialed request framing client fleet = .ok (f, g)) :
    ∃ sent invited answer, f.client.received = client.received ++ sent ∧
      sent <+: invited ++ answer ∧
      (invited = [] ∨ invited = Response.goAhead) ∧
      (answer = [] ∧ f.record.responseStarted = false ∧ f.keepAlive = false ∨
        ∃ goesOn head tail, Announces limits dialed request
          f.record.responseStarted goesOn head tail ∧
          answer = head.encode ++ tail ∧ (f.keepAlive = true → goesOn = true)) := by
  obtain rfl := conclude_of_forward h
  have hinvitation : request.invitation framing = [] ∨
      request.invitation framing = Response.goAhead := by
    rw [Request.invitation]
    split
    · exact .inr rfl
    · exact .inl rfl
  cases hkept : (conclude
      (attempt limits address dialed request framing client x)).keepAlive with
  | true =>
    have hsuccess := outcome_of_keepAlive (keepAlive_attempt _ _ _ _ _ _ _) hkept
    obtain ⟨backend, d, body, response, answering, answer, rfl, hrelayed, heq⟩ :=
      relayed_of_success hsuccess
    rw [heq] at hkept ⊢
    have hannounced := @Announces.response limits (.connected backend) request
      _ _ _ _ rfl hrelayed.head hrelayed.framed
    rw [← show d.record.responseStarted = true
      from congrArg Exchange.responseStarted hrelayed.record] at hannounced
    refine ⟨_, _, _, hrelayed.sent, ?_, hinvitation,
      .inr ⟨_, _, _, hannounced, rfl, fun _ => hkept⟩⟩
    rw [← List.append_assoc _ answer]
    exact (List.prefix_append_right_inj _).2 (List.prefix_append _ _)
  | false =>
    obtain ⟨sent, invited, answer, hsent, hpart, hinvited, htold⟩ :=
      told_conclude limits address dialed request framing client hfresh
    have hword : invited = [] ∨ invited = Response.goAhead := by
      rcases hinvited with rfl | rfl
      · exact .inl rfl
      · exact hinvitation
    have hcloses : ∀ {P : Prop}, false = true → P :=
      fun hkeep => absurd hkeep Bool.false_ne_true
    generalize (conclude (attempt limits address dialed request framing
      client x)).record.responseStarted = started at htold ⊢
    cases htold with
    | nothing =>
      exact ⟨sent, invited, _, hsent, hpart, hword, .inl ⟨rfl, rfl, rfl⟩⟩
    | failure =>
      exact ⟨sent, invited, _, hsent, hpart, hword,
        .inr ⟨_, _, _, .failure _ _, Response.errorResponse_eq _ _, hcloses⟩⟩
    | response hdialed hhead hframed =>
      refine ⟨sent, invited, _, hsent, hpart.trans ?_, hword,
        .inr ⟨_, _, _, .response hdialed hhead hframed, rfl, hcloses⟩⟩
      exact (List.prefix_append_right_inj _).2
        ((List.prefix_append_right_inj _).2 (reach_front _ _))

end Exchange

/-! ## Framing -/

/-- **To make a response ready for a client never changes where its body ends.**
Of every response that was read, for a client of either version, whether its
connection goes on and whether it asked for a head alone or not, the same
framing is read afterwards as before, or the same failure; and the head reads
back from its bytes, if it has no more headers than a head may have. The client
of an exchange receives a part of one answer from its front, perhaps behind the
word to go on. Unless the answer is nothing, because the response has not begun,
it begins with the head of a failure or of a response that was made ready; and
where the client finds there that the body ends with the connection, the
connection does close, and one header says so and no other says anything about
it. -/
theorem Response.prepare_delimits_alike {limits : ForwardLimits} {id : Nat}
    {address : SocketAddress} {dialed : Dialed} {request : Request}
    {framing : Framing} {client : Peer} {x : Exchange} {fleet g : Fleet}
    {f : Forwarded} (hfresh : x.responseStarted = false)
    (h : x.forward limits id address dialed request framing client fleet = .ok (f, g)) :
    (∀ raw r, parse raw = .ok r → ∀ reuse version,
      (∀ requestWasHead, (r.prepare reuse version).framing requestWasHead =
        r.framing requestWasHead) ∧
        ((r.prepare reuse version).headers.length ≤ Head.maxHeaders →
          parse (r.prepare reuse version).encode = .ok (r.prepare reuse version))) ∧
      ∃ sent invited answer, f.client.received = client.received ++ sent ∧
        sent <+: invited ++ answer ∧
        (invited = [] ∨ invited = goAhead) ∧
        (answer = [] ∧ f.record.responseStarted = false ∨
          ∃ goesOn head tail, Exchange.Announces limits dialed request
            f.record.responseStarted goesOn head tail ∧
            answer = head.encode ++ tail ∧
            (head.framing request.isHead = .ok .untilClose →
              f.keepAlive = false ∧
                head.headers.getAll "connection" = ["close"])) := by
  refine ⟨fun raw r hread reuse version => ⟨r.framing_prepare reuse version, ?_⟩, ?_⟩
  · exact parse_encode ((wellFormed_of_parse hread).prepare reuse version)
  · obtain ⟨sent, invited, answer, hsent, hpart, hinvited, hanswer⟩ :=
      Exchange.announces_of_forward hfresh h
    refine ⟨sent, invited, answer, hsent, hpart, hinvited, ?_⟩
    obtain ⟨rfl, hstarted, -⟩ | ⟨goesOn, head, tail, hhead, hanswer, hkept⟩ := hanswer
    · exact .inl ⟨rfl, hstarted⟩
    · refine .inr ⟨goesOn, head, tail, hhead, hanswer, fun hclose => ?_⟩
      obtain rfl := hhead.closes_of_untilClose hclose
      exact ⟨Bool.eq_false_iff.2 fun hkeep =>
        absurd (hkept hkeep) Bool.false_ne_true, hhead.getAll_connection⟩

/-- A coding that is not known stands beside a length, and the header about the
connection names both of them. -/
theorem Response.prepare_delimits_alike_unknown :
    let response : Response := ⟨.http11, 200, "",
      ⟨[⟨"Transfer-Encoding", "gzip"⟩, ⟨"Content-Length", "5"⟩,
      ⟨"Connection", "content-length,transfer-encoding"⟩]⟩⟩
    let request : Request := ⟨"GET", "/", .http10, ⟨[⟨"Connection", "keep-alive"⟩]⟩⟩
    let backend : Peer :=
      { reader := ⟨[], ⟨[response.encode ++ Bytes.ofText "body"], .eof⟩⟩ }
    let exchange : Exchange :=
      { id := "r", client := ⟨.loopback, 3, 0⟩, method := "GET", target := "/" }
    let member : Member := ⟨⟨"a", ⟨.loopback, 1, 0⟩, 1, none, by decide⟩, {}, 0⟩
    let head : Response := ⟨.http11, 200, "",
      ⟨[⟨"Transfer-Encoding", "gzip"⟩, ⟨"Connection", "close"⟩]⟩⟩
    exchange.responseStarted = false ∧ parse head.encode = .ok head ∧
      head.framing request.isHead = .ok .untilClose ∧
      ∃ f g invited, exchange.forward {} 0 ⟨.loopback, 1, 0⟩
        (.connected backend) request .empty {}
          { pool := { members := [member] } } = .ok (f, g) ∧
        f.record.responseStarted = true ∧ (invited = [] ∨ invited = goAhead) ∧
        f.client.received <+: invited ++ (head.encode ++ Bytes.ofText "body") ∧
        f.keepAlive = false ∧ head.headers.getAll "connection" = ["close"] := by
  intro response request backend exchange member head
  obtain ⟨f, g, hf, hforward, -⟩ :=
    Exchange.forward_of_member {} ⟨.loopback, 1, 0⟩ (.connected backend) request
      .empty {} exchange
    (show ({ pool := { members := [member] } } : Fleet).pool.members[0]? =
      some member from rfl)
  have hstarted : f.record.responseStarted = true := by
    rw [← hf]
    decide +kernel
  have hfound : finalHead? 65536 backend.reader.remaining =
      some (response, Bytes.ofText "body") := by
    decide +kernel
  have hread : response.framing request.isHead = .ok .untilClose ∧
      response.prepare false .http10 = head ∧
      Conversation.reuses request response .untilClose = false := by
    decide +kernel
  obtain ⟨hframed, hhead, hreuses⟩ := hread
  obtain ⟨⟨raw, hparse⟩, -⟩ := parse_of_finalHead? hfound
  obtain ⟨hall, sent, invited, answer, hsent, hpart, hinvited, hanswer⟩ :=
    prepare_delimits_alike (show exchange.responseStarted = false from rfl) hforward
  obtain ⟨hframing, hencode⟩ := hall raw response hparse false .http10
  rw [hhead] at hframing hencode
  have hclose := (hframing request.isHead).trans hframed
  refine ⟨rfl, hencode (by decide), hclose, f, g, invited, hforward,
    hstarted, hinvited, ?_⟩
  rw [hstarted] at hanswer
  obtain ⟨-, hnone⟩ | ⟨_, _, tail, hannounced, rfl, hcloses⟩ := hanswer
  · cases hnone
  · cases hannounced with
    | response hdialed hfinal hanswering =>
      cases hdialed
      cases hfinal.symm.trans hfound
      cases hanswering.symm.trans hframed
      rw [hreuses, show request.version = .http10 from rfl, hhead] at hpart hcloses
      rw [hsent]
      exact ⟨hpart, hcloses hclose⟩

end Gateway
