import Gateway.Proofs.Announcing

/-!
# Who asks for the connection to close

Either side of an exchange can ask for the connection to close after it, by a
word in a header about the connection. Version 1.1 heeds the word. Version 1.0
looks for another one, by which the connection goes on, and heeds the first only
where the second is missing: a sender of that version that says both is not
heard.

* `Headers.Says` says which words are in the headers about the connection;
* `Headers.keepAlive_iff_of_says_close`: what becomes of a connection that is
  asked to close;
* `Exchange.Announces.closes`: a head for a side that is heard is one after
  which the connection closes;
* `Exchange.forward_closes`: so it is for every exchange, and
  `Exchange.forward_unheard` is one that goes on.
-/

namespace Gateway

namespace Headers

variable {hs : Headers} {word : String}

/-- A header about the connection has the word among its elements, in any letter
case. -/
def Says (hs : Headers) (word : String) : Prop :=
  ∃ h ∈ hs.list, h.named "connection" = true ∧
    ∃ part ∈ Text.pieces ',' h.value.toList,
    Text.alike (String.ofList (Text.trim part)) word = true

/-- **A word is found exactly if it is said**, unless it is blank. -/
theorem says_iff (hword : Text.alike "" word = false) :
    hs.Says word ↔ hs.hasElement "connection" word = true := by
  rw [hasElement, List.any_eq_true]
  constructor
  · rintro ⟨h, hmem, hnamed, part, hpart, halike⟩
    have hne : Text.trim part ≠ [] := by
      intro hnil
      rw [hnil, show String.ofList [] = "" from rfl, hword] at halike
      cases halike
    have hvalue : h.value ∈ hs.getAll "connection" :=
      List.mem_map_of_mem (List.mem_filter.2 ⟨hmem, hnamed⟩)
    exact ⟨_, mem_elements_iff.2 ⟨h.value, hvalue, part, hpart, hne, rfl⟩, halike⟩
  · rintro ⟨_, helement, halike⟩
    obtain ⟨_, hvalue, part, hpart, -, rfl⟩ := mem_elements_iff.1 helement
    obtain ⟨h, hmem, rfl⟩ := List.mem_map.1 hvalue
    obtain ⟨hmem, hnamed⟩ := List.mem_filter.1 hmem
    exact ⟨h, hmem, hnamed, part, hpart, halike⟩

/-- The headers of a message of the version ask for the connection to close, and
are heard. -/
def Closes (hs : Headers) (version : Version) : Prop :=
  hs.Says "close" ∧ ¬ (version = .http10 ∧ hs.Says "keep-alive")

/-- **A connection that is asked to close goes on** only where version 1.0 is
asked for that beside. -/
theorem keepAlive_iff_of_says_close (h : hs.Says "close") (version : Version) :
    hs.keepAlive version = true ↔ version = .http10 ∧ hs.Says "keep-alive" := by
  cases version with
  | http11 =>
    rw [keepAlive, (says_iff (by decide +kernel)).1 h]
    exact ⟨nofun, nofun⟩
  | http10 =>
    rw [keepAlive, says_iff (by decide +kernel)]
    exact (and_iff_right rfl).symm

theorem Closes.keepAlive_eq {version : Version} (h : hs.Closes version) :
    hs.keepAlive version = false :=
  Bool.eq_false_iff.2 fun hkeep => h.2 ((keepAlive_iff_of_says_close h.1 version).1 hkeep)

end Headers

namespace Exchange

variable {limits : ForwardLimits} {id : Nat} {address : SocketAddress}
  {dialed : Dialed} {request : Request} {framing : Framing} {client : Peer}
  {x : Exchange} {fleet g : Fleet} {f : Forwarded} {started goesOn : Bool}
  {head : Response} {tail : Bytes}

/-- A side of an exchange asks for the connection to close, and is heard: the
client in its request, or the backend in its final head. -/
def Closes (limits : ForwardLimits) (dialed : Dialed)
    (request : Request) : Prop :=
  request.headers.Closes request.version ∨
    ∃ backend response tail, dialed = .connected backend ∧
      finalHead? limits.maxHeaderBytes backend.reader.remaining =
        some (response, tail) ∧
      response.headers.Closes response.version

/-- **Where either side asks for the connection to close, it closes after the
head.** -/
theorem Announces.closes
    (h : Announces limits dialed request started goesOn head tail)
    (hcloses : Closes limits dialed request) : goesOn = false := by
  cases h with
  | failure => rfl
  | response hdialed hhead =>
    obtain hcloses | ⟨backend, response, rest, hdialed', hhead', hcloses⟩ := hcloses
    · rw [Conversation.reuses, Request.keepAlive, hcloses.keepAlive_eq]
      rfl
    · cases hdialed.symm.trans hdialed'
      cases hhead.symm.trans hhead'
      rw [Conversation.reuses, Response.keepAlive, hcloses.keepAlive_eq,
        Bool.and_false]
      rfl

/-- **Who asks for the connection to close is heard, unless in version 1.0 the
same headers ask for it to go on.** Where headers ask for the connection to
close, in any letter case, among any other words and in whichever header about
the connection, it goes on exactly if they are of version 1.0 and ask for that
too. Where the request or the final head of the backend asks for the connection
to close, and is heard, the client's connection does not go on. The client has
received a part of one answer from its front, perhaps behind the word to go on;
unless the answer is nothing, because the response has not begun, its head says
in one header that the connection closes, and no other says anything about
it. -/
theorem forward_closes (hfresh : x.responseStarted = false)
    (h : x.forward limits id address dialed request framing client fleet = .ok (f, g)) :
    (∀ (hs : Headers) (version : Version), hs.Says "close" →
      (hs.keepAlive version = true ↔ version = .http10 ∧ hs.Says "keep-alive")) ∧
      (Closes limits dialed request →
        f.keepAlive = false ∧
        ∃ sent invited answer, f.client.received = client.received ++ sent ∧
          sent <+: invited ++ answer ∧
          (invited = [] ∨ invited = Response.goAhead) ∧
          (answer = [] ∧ f.record.responseStarted = false ∨
            ∃ head tail, Announces limits dialed request
              f.record.responseStarted false head tail ∧
              answer = head.encode ++ tail ∧
                head.headers.getAll "connection" = ["close"])) := by
  refine ⟨fun hs version hsaid =>
    Headers.keepAlive_iff_of_says_close hsaid version, fun hcloses => ?_⟩
  obtain ⟨sent, invited, answer, hsent, hpart, hinvited, hanswer⟩ :=
    announces_of_forward hfresh h
  obtain ⟨rfl, hstarted, hkept⟩ | ⟨goesOn, head, tail, hhead, hanswer, hkept⟩ :=
    hanswer
  · exact ⟨hkept, sent, invited, [], hsent, hpart, hinvited, .inl ⟨rfl, hstarted⟩⟩
  · obtain rfl := hhead.closes hcloses
    exact ⟨Bool.eq_false_iff.2 fun hkeep =>
      absurd (hkept hkeep) Bool.false_ne_true, sent, invited, answer, hsent,
      hpart, hinvited, .inr ⟨head, tail, hhead, hanswer, hhead.getAll_connection⟩⟩

/-- A client of version 1.1 says the word in the second of its headers about the
connection, behind another word. -/
theorem forward_closes_among :
    let request : Request := ⟨"GET", "/", .http11,
      ⟨[⟨"Connection", "keep-alive"⟩, ⟨"CONNECTION", "x,\tClose"⟩]⟩⟩
    let response : Response := ⟨.http11, 200, "OK", ⟨[⟨"Content-Length", "0"⟩]⟩⟩
    let backend : Peer := { reader := ⟨[], ⟨[response.encode], .silent⟩⟩ }
    let exchange : Exchange :=
      { id := "r", client := ⟨.loopback, 3, 0⟩, method := "GET", target := "/" }
    let member : Member := ⟨⟨"a", ⟨.loopback, 1, 0⟩, 1, none, by decide⟩, {}, 0⟩
    request.headers.Says "close" ∧ Closes {} (.connected backend) request ∧
      exchange.responseStarted = false ∧
      ¬ request.keepAlive = true ∧
      ∃ f g invited head tail, exchange.forward {} 0 ⟨.loopback, 1, 0⟩
        (.connected backend) request .empty {}
          { pool := { members := [member] } } = .ok (f, g) ∧
        f.keepAlive = false ∧
        Announces {} (.connected backend) request true false head tail ∧
        f.client.received <+: invited ++ (head.encode ++ tail) ∧
        head.headers.getAll "connection" = ["close"] := by
  intro request response backend exchange member
  obtain ⟨f, g, hf, hforward, -⟩ :=
    forward_of_member {} ⟨.loopback, 1, 0⟩ (.connected backend) request .empty {} exchange
    (show ({ pool := { members := [member] } } : Fleet).pool.members[0]? =
      some member from rfl)
  have hstarted : f.record.responseStarted = true := by
    rw [← hf]
    decide +kernel
  have hsaid : request.headers.Says "close" :=
    (Headers.says_iff (by decide +kernel)).2 (by decide +kernel)
  have hcloses : Closes {} (.connected backend) request :=
    .inl ⟨hsaid, fun h => nomatch h.1⟩
  obtain ⟨hkeepAlive, hall⟩ :=
    forward_closes (show exchange.responseStarted = false from rfl) hforward
  obtain ⟨hkept, sent, invited, answer, hsent, hpart, -, hanswer⟩ := hall hcloses
  rw [hstarted] at hanswer
  obtain ⟨-, hnone⟩ | ⟨head, tail, hannounced, rfl, hclose⟩ := hanswer
  · cases hnone
  · refine ⟨hsaid, hcloses, rfl, fun hkeep => ?_, f, g, invited, head, tail,
      hforward, hkept, hannounced, ?_, hclose⟩
    · exact nomatch ((hkeepAlive request.headers .http11 hsaid).1 hkeep).1
    · rw [hsent]
      exact hpart

/-- **A client that asks for its connection to close is told that it goes on**,
and it does: it speaks version 1.0 and asks for both. -/
theorem forward_unheard :
    let request : Request :=
      ⟨"GET", "/", .http10, ⟨[⟨"Connection", "close, keep-alive"⟩]⟩⟩
    let backend : Peer :=
      { reader := ⟨[], ⟨[Bytes.ofText "HTTP/1.1 200 OK\r\nContent-Length: 0\r\n\r\n"], .silent⟩⟩ }
    let exchange : Exchange :=
      { id := "r", client := ⟨.loopback, 3, 0⟩, method := "GET", target := "/" }
    let member : Member := ⟨⟨"a", ⟨.loopback, 1, 0⟩, 1, none, by decide⟩, {}, 0⟩
    request.headers.Says "close" ∧ request.keepAlive = true ∧
      ∃ f g, exchange.forward {} 0 ⟨.loopback, 1, 0⟩
        (.connected backend) request .empty {}
          { pool := { members := [member] } } = .ok (f, g) ∧
        f.keepAlive = true ∧
        f.client.received = Bytes.ofText
          "HTTP/1.1 200 OK\r\nContent-Length: 0\r\nConnection: keep-alive\r\n\r\n" := by
  intro request backend exchange member
  obtain ⟨f, g, hf, hforward, -⟩ :=
    forward_of_member {} ⟨.loopback, 1, 0⟩ (.connected backend) request .empty {} exchange
    (show ({ pool := { members := [member] } } : Fleet).pool.members[0]? =
      some member from rfl)
  have hended : f.keepAlive = true ∧ f.client.received =
      Bytes.ofText "HTTP/1.1 200 OK\r\nContent-Length: 0\r\nConnection: keep-alive\r\n\r\n" := by
    rw [← hf]
    decide +kernel
  exact ⟨(Headers.says_iff (by decide +kernel)).2 (by decide +kernel),
    by decide +kernel, f, g, hforward, hended⟩

end Exchange

end Gateway
