import Gateway.Proofs.Choosing
import Gateway.Proofs.Encoding
import Gateway.Proofs.Exchanging

/-!
# The requests of a connection

A client may send its requests one behind the other without waiting. Which of
them are passed on, and which bytes belong to each, depends on the bytes of the
connection alone: they are the requests into which its bytes split.

* `Server.Provided` says that for each request a backend is eligible, which then
  takes every byte and answers in full;
* `Server.handle_of_eligible`, `Server.handle_of_ineligible`: what serving one
  request leaves of a server;
* `Server.handle_complete`, `Server.handle_cut`: what a backend receives of a
  request that is whole, and of one that is not;
* `Server.serve_passes_on_split`: the whole connection.
-/

namespace Gateway

open Reader (IsLine)

/-- What a backend receives of a whole request that is the one of a number on
its server. -/
def Message.sent (settings : ServerSettings) (address : SocketAddress)
    (number : Nat) (m : Message) : Bytes :=
  (m.request.prepare address.ip (settings.requestId number)).encode ++ m.body

/-- The bytes of a message. -/
def Message.encode (m : Message) : Bytes :=
  m.request.encode ++ m.body

/-- **A message that is written is split off as it was**, if its head is not too
long. -/
theorem splitRequests_encode {m : Message} {max : Nat}
    (hm : m.request.WellFormed)
    (hheaders : m.request.headers.length ≤ Head.maxHeaders)
    (hmax : m.request.encode.length ≤ max)
    (hframing : m.request.framing = .ok m.framing)
    (hb : Delimits IsLine m.framing m.body) (rest : Bytes) :
    splitRequests max (m.encode ++ rest) =
      if m.request.keepAlive then
        { messages := m :: (splitRequests max rest).messages,
          unfinished := (splitRequests max rest).unfinished }
      else { messages := [m] } := by
  have hhead := Request.headOf?_encode hm hmax (m.body ++ rest)
  have hbody : takeBody? m.framing (m.body ++ rest) = some (m.body, rest) :=
    takeBody?_eq_some_iff.2 ⟨hb, rfl⟩
  rw [Message.encode, List.append_assoc, splitRequests]
  split
  · rename_i h
    rw [hhead] at h
    cases h
  · rename_i h
    rw [hhead] at h
    cases h
    rw [Request.parse_encode hm hheaders]
    dsimp only
    rw [hframing]
    dsimp only
    split
    · rename_i h
      rw [hbody] at h
      cases h
    · rename_i h
      rw [hbody] at h
      cases h
      rfl

namespace Server

variable {settings : ServerSettings} {address : SocketAddress}
  {request : Request} {framing : Framing} {client : Peer} {s t : Server}

/-! ## Backends -/

/-- No connection to a backend that is still to come has carried anything. -/
def Fresh (answers : List (List Dialed)) : Prop :=
  ∀ script ∈ answers, ∀ peer, Dialed.connected peer ∈ script → peer.received = []

/-- For each request a backend is eligible, in the pool that the earlier ones
leave. Whichever is selected, it can be connected to, takes every byte, and its
answer is whole. -/
def Provided (settings : ServerSettings) :
    List Message → Pool → List (List Dialed) → Prop
  | [], _, _ => True
  | m :: rest, pool, answers =>
    pool.eligible settings.rules.failOpen ≠ [] ∧
    ∀ id member, (pool.select settings.rules).1 = .ok id →
      pool.members[id]? = some member →
      ∃ backend,
        settings.network.dial
            (nextAnswer id { fleet := { pool := pool }, answers := answers }) =
          .connected backend ∧
        backend.sink.room = none ∧
        Answers settings.limits.maxHeaderBytes m.request backend.reader.remaining ∧
        Provided settings rest
          (pool.advance.withHealth id member (member.health.account pool.thresholds .success))
          (answers.modify id List.tail)

/-- Taking the first answer off a script leaves no other connection to come. -/
theorem Fresh.modify_tail {answers : List (List Dialed)} (h : Fresh answers)
    (id : Nat) :
    Fresh (answers.modify id List.tail) := by
  intro script hscript peer hpeer
  obtain ⟨i, hi⟩ := List.mem_iff_getElem?.1 hscript
  rw [List.getElem?_modify, Option.map_eq_map, Option.map_eq_some_iff] at hi
  obtain ⟨old, hold, rfl⟩ := hi
  refine h old (List.mem_of_getElem? hold) peer ?_
  split at hpeer
  · exact List.mem_of_mem_tail hpeer
  · exact hpeer

/-- A backend that is connected to has received nothing yet. -/
theorem received_of_dial {id : Nat} {peer : Peer} (h : Fresh s.answers)
    (hdial : settings.network.dial (s.nextAnswer id) = .connected peer) :
      peer.received = [] := by
  have hanswer : s.nextAnswer id = .connected peer := by
    cases hn : settings.network with
    | joined =>
      rw [hn] at hdial
      exact hdial
    | isolated =>
      rw [hn] at hdial
      cases hdial
  rw [nextAnswer] at hanswer
  split at hanswer
  · rename_i script hscript
    rw [hanswer] at hscript
    exact h _ (List.mem_of_getElem? hscript) peer List.mem_cons_self
  · cases hanswer
    rfl

/-! ## One request -/

/-- What an exchange with a backend leaves of a server. -/
structure Exchanged (id : Nat) (member : Member) (f : Forwarded)
    (s t : Server) : Prop where
  /-- The connection to the backend is kept, if there was one. -/
  contacts : t.contacts = s.contacts ++ (f.backend.map fun peer => (id, peer)).toList
  /-- The answer of the backend is used up. -/
  answers : t.answers = s.answers.modify id List.tail
  /-- The outcome is recorded in the health of the backend. -/
  pool : t.fleet.pool =
    s.fleet.pool.withHealth id member
      (member.health.account s.fleet.pool.thresholds f.record.outcome)
  /-- No other request has come. -/
  requests : t.requests = s.requests

/-- A backend that is there is passed the request. -/
theorem exchangeWith_of_member (settings : ServerSettings) {id : Nat}
    {member : Member} (backend : Backend) (request : Request)
    (framing : Framing) (client : Peer) (x : Exchange)
    (hm : s.fleet.pool.members[id]? = some member) :
    ∃ f t, Exchange.conclude (Exchange.attempt settings.limits backend.address
        (settings.network.dial (s.nextAnswer id)) request framing client
        { x with backend := some backend.name }) = f ∧
      s.exchangeWith settings id backend request framing client x =
        (f.keepAlive, f.client, t) ∧
      Exchanged id member f s t := by
  obtain ⟨f, g, hf, hforward, hpool⟩ :=
    Exchange.forward_of_member settings.limits backend.address
      (settings.network.dial (s.nextAnswer id)) request framing client { x with
    backend := some backend.name } hm
  have hexchange : ∃ t, s.exchangeWith settings id backend request framing client x =
      (f.keepAlive, f.client, finish f.record t) ∧ Exchanged id member f s t := by
    rw [exchangeWith]
    dsimp only
    rw [hforward]
    refine ⟨_, rfl, ?_, rfl, hpool, rfl⟩
    cases f.backend with
    | none => exact (List.append_nil _).symm
    | some peer => rfl
  obtain ⟨t, ht, hcontacts, hanswers, hpool, hrequests⟩ := hexchange
  exact ⟨f, _, hf, ht, hcontacts, hanswers, hpool, hrequests⟩

/-- A server after a request has come and a turn was given out for it. -/
def begun (s : Server) : Server :=
  { s with fleet := { s.fleet with pool := s.fleet.pool.advance },
           requests := s.requests + 1 }

/-- **Where a backend is eligible, the request is passed on to one.** -/
theorem handle_of_eligible (request : Request) (framing : Framing)
    (client : Peer) (address : SocketAddress)
    (h : s.fleet.pool.eligible settings.rules.failOpen ≠ []) :
    ∃ id member x f t, (s.fleet.pool.select settings.rules).1 = .ok id ∧
      s.fleet.pool.members[id]? = some member ∧ x.client.ip = address.ip ∧
      x.id = settings.requestId s.requests ∧
      Exchange.conclude (Exchange.attempt settings.limits member.backend.address
        (settings.network.dial (s.nextAnswer id)) request framing client x) = f ∧
      s.handle settings address request framing client = (f.keepAlive, f.client, t) ∧
      Exchanged id member f s.begun t := by
  obtain ⟨c, -, hmember, hselect⟩ := Pool.select_of_eligible h
  obtain ⟨f, t, hf, ht, hspec⟩ := exchangeWith_of_member
    (s := s.begun) settings c.member.backend request framing client
      (.ofRequest (settings.requestId s.requests) address request) hmember
  refine ⟨c.id, c.member, _, f, t, by rw [hselect], hmember, ?_, ?_, hf, ?_, hspec⟩
  · rfl
  · rfl
  · rw [handle, openRecord]
    dsimp only
    rw [Fleet.select, hselect]
    dsimp only [Pool.advance]
    rw [hmember]
    exact ht

/-- **Where no backend is eligible, the connection ends** and no backend hears
of the request. -/
theorem handle_of_ineligible (request : Request) (framing : Framing)
    (client : Peer) (address : SocketAddress)
    (h : s.fleet.pool.eligible settings.rules.failOpen = []) :
    ∃ p t, s.handle settings address request framing client = (false, p, t) ∧
      t.contacts = s.contacts := by
  rw [handle, openRecord]
  dsimp only
  rw [Fleet.select, Pool.select_of_ineligible h]
  exact ⟨_, _, rfl, rfl⟩

/-- **A whole request goes to a backend that is provided for it**, and the
connection goes on behind it if the client wants that. -/
theorem handle_complete {m : Message} {rest : List Message} {following : Bytes}
    (hroom : 0 < settings.limits.bufferBytes)
    (hb : Delimits IsShortLine m.framing m.body)
    (hclient : client.sink.room = none)
    (h : client.reader.remaining = m.body ++ following)
    (hfresh : Fresh s.answers)
    (hprovided : Provided settings (m :: rest) s.fleet.pool s.answers) :
    ∃ p t id contact, s.handle settings address m.request m.framing client =
      (m.request.keepAlive, p, t) ∧
      p.reader.remaining = following ∧ p.sink.room = none ∧
      t.contacts = s.contacts ++ [(id, contact)] ∧
      contact.received = m.sent settings address s.requests ∧
      t.requests = s.requests + 1 ∧
      Fresh t.answers ∧ Provided settings rest t.fleet.pool t.answers := by
  obtain ⟨heligible, hselected⟩ := hprovided
  obtain ⟨id, member, x, f, t, hselect, hmember, hip, hid, hf, ht, hspec⟩ :=
    handle_of_eligible m.request m.framing client address heligible
  obtain ⟨backend, hdial, hbackend, hanswer, hrest⟩ :=
    hselected id member hselect hmember
  have hdial : settings.network.dial (s.nextAnswer id) = .connected backend := hdial
  obtain ⟨g, contact, hg, hkeep, houtcome, hfollowing, hsink, hcontact, hreceived⟩ :=
    Exchange.attempt_complete member.backend.address x hroom hb hclient hbackend h hanswer
  rw [hdial, hg] at hf
  subst hf
  refine ⟨g.client, t, id, contact, by rw [ht, hkeep], hfollowing, hsink, ?_,
    ?_, hspec.requests, ?_, ?_⟩
  · rw [hspec.contacts, hcontact]
    rfl
  · rw [hreceived, received_of_dial hfresh hdial, hip, hid]
    rfl
  · rw [hspec.answers]
    exact hfresh.modify_tail id
  · rw [hspec.pool, hspec.answers, houtcome]
    exact hrest

/-- **With a request that is not whole the connection ends**, and one backend at
most has received a part of it. -/
theorem handle_cut (settings : ServerSettings) (address : SocketAddress)
    (request : Request) (hf : framing.isDelimited = true)
    (h : takeBody? framing client.reader.remaining = none)
    (hfresh : Fresh s.answers) :
    ∃ p t cut, s.handle settings address request framing client = (false, p, t) ∧
      t.contacts = s.contacts ++ cut ∧ cut.length ≤ 1 ∧
      ∀ contact ∈ cut, contact.2.received <+:
        (request.prepare address.ip (settings.requestId s.requests)).encode ++
          client.reader.remaining := by
  by_cases heligible : s.fleet.pool.eligible settings.rules.failOpen = []
  · obtain ⟨p, t, ht, hcontacts⟩ :=
      handle_of_ineligible request framing client address heligible
    refine ⟨p, t, [], ht, by rw [hcontacts, List.append_nil], Nat.zero_le 1, ?_⟩
    intro contact hcontact
    cases hcontact
  · obtain ⟨id, member, x, f, t, -, -, hip, hid, hattempt, ht, hspec⟩ :=
      handle_of_eligible request framing client address heligible
    obtain ⟨g, hg, hkeep, hbackend⟩ :=
      Exchange.attempt_cut settings.limits member.backend.address
        (settings.network.dial (s.nextAnswer id)) request x hf h
    rw [hg] at hattempt
    subst hattempt
    refine ⟨g.client, t, _, by rw [ht, hkeep], hspec.contacts,
      Option.length_toList_le, ?_⟩
    rintro ⟨number, peer⟩ hcontact
    rw [Option.mem_toList, Option.map_eq_some_iff] at hcontact
    obtain ⟨contact, hcontact, he⟩ := hcontact
    cases he
    rcases hbackend with hnone | ⟨old, sent, part, hdial, hsome, hpart, hreceived⟩
    · rw [hnone] at hcontact
      cases hcontact
    · rw [hsome, Option.some_inj] at hcontact
      subst hcontact
      rw [received_of_dial hfresh hdial, List.nil_append] at hreceived
      rw [hip, hid, ← hreceived] at hpart
      exact hpart

/-! ## The whole connection -/

/-- A connection on which a request is read and framed goes on as serving that
request says. -/
theorem serve_of_headOf? {head rest : Bytes} (address : SocketAddress)
    (s : Server)
    (hhead : Reader.headOf? settings.limits.maxHeaderBytes
      client.reader.remaining = some (head, rest))
    (hparse : Request.parse head = .ok request)
    (hframing : request.framing = .ok framing) :
    ∃ p, p.reader.remaining = rest ∧ p.sink = client.sink ∧
      ∀ goesOn q t, s.handle settings address request framing p = (goesOn, q, t) →
        s.serve settings address client =
          if goesOn then t.serve settings address q else (q, t) := by
  obtain ⟨r, hr, hrest, -⟩ := Reader.readHead_of_headOf? hhead
  have hread : client.readHead settings.limits.maxHeaderBytes =
      (.ok (some head), { client with reader := r }) := by
    rw [Peer.readHead, hr]
  refine ⟨{ client with reader := r }, hrest, rfl, ?_⟩
  intro goesOn q t hhandle
  rw [serve]
  split <;> rename_i h <;> rw [hread] at h <;> cases h
  rw [hparse]
  dsimp only
  rw [hframing]
  dsimp only
  split
  · rename_i h
    rw [hhandle] at h
    cases h
    rfl
  · rename_i h
    rw [hhandle] at h
    cases h
    rfl

/-- A connection on which no request is read and framed ends, and no backend
hears of it. -/
theorem contacts_serve_of_unread (hmax : 0 < settings.limits.maxHeaderBytes)
    (h : ∀ head rest request framing, Reader.headOf?
      settings.limits.maxHeaderBytes client.reader.remaining = some (head, rest) →
      Request.parse head = .ok request → request.framing ≠ .ok framing) :
    (s.serve settings address client).2.contacts = s.contacts := by
  rw [serve]
  split
  · rfl
  · rfl
  · rfl
  · rfl
  · rename_i raw p hread
    rw [Peer.readHead, Prod.mk.injEq] at hread
    obtain ⟨hr, rfl⟩ := hread
    split
    · rfl
    · rename_i request hparse
      split
      · rfl
      · rename_i framing hframing
        exact absurd hframing (h raw _ request framing
          (Reader.headOf?_of_readHead hmax (Prod.ext hr rfl)) hparse)

/-- Serving a client has added these connections to backends, and no others: one
for each whole request of the client's bytes, in their order, which has received
its head, made ready, and its body, and nothing else; and at most one more,
which has received a part from the front of the request that is not whole. -/
def PassedOn (settings : ServerSettings) (address : SocketAddress)
    (split : Split) (s t : Server) : Prop :=
  ∃ served cut, t.contacts = s.contacts ++ (served ++ cut) ∧
    served.map (fun contact => contact.2.received) =
      split.messages.mapIdx (fun i m => m.sent settings address (s.requests + i)) ∧
    cut.length ≤ 1 ∧
    ∀ contact ∈ cut, ∃ request following,
    split.unfinished = some (request, following) ∧
      contact.2.received <+: (request.prepare address.ip
        (settings.requestId (s.requests + split.messages.length))).encode ++ following

theorem PassedOn.nil (h : t.contacts = s.contacts) :
    PassedOn settings address {} s t := by
  refine ⟨[], [], by simpa using h, rfl, Nat.zero_le 1, ?_⟩
  intro contact hcontact
  cases hcontact

/-- A whole request is passed on, and then what follows it. -/
theorem PassedOn.cons {m : Message} {split : Split} {u : Server} {id : Nat}
    {contact : Peer} (hcontacts : t.contacts = s.contacts ++ [(id, contact)])
    (hreceived : contact.received = m.sent settings address s.requests)
    (hrequests : t.requests = s.requests + 1)
    (h : PassedOn settings address split t u) :
    PassedOn settings address
      { messages := m :: split.messages, unfinished := split.unfinished } s u := by
  obtain ⟨served, cut, hu, hserved, hlength, hcut⟩ := h
  have hshift : ∀ i, t.requests + i = s.requests + (i + 1) := by
    intro i
    rw [hrequests]
    omega
  simp only [hshift] at hserved hcut
  refine ⟨(id, contact) :: served, cut, ?_, ?_, hlength, hcut⟩
  · rw [hu, hcontacts, List.append_assoc, List.singleton_append, List.cons_append]
  · rw [List.map_cons, List.mapIdx_cons, hserved, hreceived]
    rfl

/-- **What is passed on of a connection are the requests into which its bytes
split.** Whatever the bytes and the pieces in which they arrive, and however the
connection ends: if every line of the chunked bodies is short, the client takes
what it is sent, and for each request a backend is eligible that takes every
byte and answers in full, then the whole requests reach backends in their order,
each once and with its own body, up to and with the first that does not want the
connection to go on. -/
theorem serve_passes_on_split (settings : ServerSettings)
    (address : SocketAddress) (client : Peer) (s : Server)
    (hmax : 0 < settings.limits.maxHeaderBytes)
    (hroom : 0 < settings.limits.bufferBytes)
    (hclient : client.sink.room = none) (hfresh : Fresh s.answers)
    (hlines : ∀ m ∈ (splitRequests settings.limits.maxHeaderBytes
      client.reader.remaining).messages, Delimits IsShortLine m.framing m.body)
    (hprovided : Provided settings (splitRequests settings.limits.maxHeaderBytes
      client.reader.remaining).messages s.fleet.pool s.answers) :
    PassedOn settings address
      (splitRequests settings.limits.maxHeaderBytes client.reader.remaining) s
        (s.serve settings address client).2 := by
  generalize hbs : client.reader.remaining = bs at hlines hprovided ⊢
  -- the induction is on the requests of the stream: each leaves another client
  -- and another server to the next
  fun_induction splitRequests settings.limits.maxHeaderBytes bs
      generalizing client s with
  | case1 bs hhead =>
    refine PassedOn.nil (contacts_serve_of_unread hmax ?_)
    intro head rest request framing h
    rw [hbs, hhead] at h
    cases h
  | case2 bs head rest hhead flaw hparse =>
    refine PassedOn.nil (contacts_serve_of_unread hmax ?_)
    intro head rest request framing h hparse'
    rw [hbs, hhead] at h
    cases h
    rw [hparse] at hparse'
    cases hparse'
  | case3 bs head rest hhead request hparse flaw hframing =>
    refine PassedOn.nil (contacts_serve_of_unread hmax ?_)
    intro head rest request framing h hparse' hframing'
    rw [hbs, hhead] at h
    cases h
    rw [hparse] at hparse'
    cases hparse'
    rw [hframing] at hframing'
    cases hframing'
  | case4 bs head rest hhead request hparse framing hframing hbody =>
    obtain ⟨p, hrest, -, hserve⟩ :=
      serve_of_headOf? address s (hbs ▸ hhead) hparse hframing
    obtain ⟨q, t, cut, ht, hcontacts, hlength, hcut⟩ :=
      handle_cut settings address request (Request.isDelimited_framing hframing)
        (hrest ▸ hbody) hfresh
    rw [hserve _ _ _ ht]
    -- the connection ends here, whatever the backend has done
    refine ⟨[], cut, hcontacts, rfl, hlength, ?_⟩
    intro contact hcontact
    exact ⟨request, rest, rfl, hrest ▸ hcut contact hcontact⟩
  | case5 bs head rest hhead request hparse framing hframing body following
      hbody hkeep ih =>
    obtain ⟨p, hrest, hsink, hserve⟩ :=
      serve_of_headOf? address s (hbs ▸ hhead) hparse hframing
    obtain ⟨-, rfl⟩ := takeBody?_eq_some_iff.1 hbody
    obtain ⟨q, t, id, contact, ht, hfollowing, hqsink, hcontacts, hreceived,
        hrequests, hfresh', hprovided'⟩ :=
      handle_complete (m := ⟨request, framing, body⟩) hroom (hlines _ List.mem_cons_self)
        (hsink ▸ hclient) hrest hfresh hprovided
    rw [hserve _ _ _ ht, hkeep, if_pos rfl]
    exact (ih q t hqsink hfresh' hfollowing
      (fun m hm => hlines m (List.mem_cons_of_mem _ hm)) hprovided').cons
        hcontacts hreceived hrequests
  | case6 bs head rest hhead request hparse framing hframing body following hbody hkeep =>
    obtain ⟨p, hrest, hsink, hserve⟩ :=
      serve_of_headOf? address s (hbs ▸ hhead) hparse hframing
    obtain ⟨-, rfl⟩ := takeBody?_eq_some_iff.1 hbody
    obtain ⟨q, t, id, contact, ht, -, -, hcontacts, hreceived, hrequests, -, -⟩ :=
      handle_complete (m := ⟨request, framing, body⟩) hroom (hlines _ List.mem_cons_self)
        (hsink ▸ hclient) hrest hfresh hprovided
    rw [hserve _ _ _ ht, if_neg hkeep]
    exact (PassedOn.nil rfl).cons hcontacts hreceived hrequests

/-- Two requests arrive in two pieces, cut in the first one, with the beginning
of a third one behind them. The second one has a body and wants the connection
to end. -/
theorem serve_passes_on_split_pipelined :
    let settings : ServerSettings := { requestId := toString }
    let answer : Peer :=
      { reader := ⟨[], ⟨[Bytes.ofText "HTTP/1.1 200 OK\r\nContent-Length: 0\r\n\r\n"], .eof⟩⟩ }
    let server : Server :=
      { fleet := { pool := .ofBackends [⟨"a", ⟨.loopback, 1, 0⟩, 1, none, by decide⟩] {} }
        answers := [[.connected answer, .connected answer]] }
    let first : Message := ⟨⟨"GET", "/a", .http11, ⟨[]⟩⟩, .empty, []⟩
    let second : Message :=
      ⟨⟨"PUT", "/b", .http11,
        ⟨[⟨"Content-Length", "2"⟩, ⟨"Connection", "close"⟩]⟩⟩, .length 2,
        Bytes.ofText "hi"⟩
    let bytes := first.encode ++ (second.encode ++ Bytes.ofText "GET /c")
    let client : Peer := { reader := ⟨[], ⟨[bytes.take 5, bytes.drop 5], .eof⟩⟩ }
    (server.serve settings ⟨.loopback, 3, 0⟩ client).2.contacts.map
      (fun contact => contact.2.received) = [first.sent settings
        ⟨.loopback, 3, 0⟩ 0, second.sent settings ⟨.loopback, 3, 0⟩ 1] := by
  intro settings answer server first second bytes client
  have hfirst : Request.parse (Bytes.ofText "GET /a HTTP/1.1\r\n\r\n") =
      .ok first.request := by
    decide +kernel
  have hsecond : Request.parse (Bytes.ofText
      "PUT /b HTTP/1.1\r\nContent-Length: 2\r\nConnection: close\r\n\r\n") =
        .ok second.request := by
    decide +kernel
  have hsplit : splitRequests settings.limits.maxHeaderBytes client.reader.remaining =
      { messages := [first, second] } := by
    have hbytes : client.reader.remaining =
        first.encode ++ (second.encode ++ Bytes.ofText "GET /c") := by
      rw [Reader.remaining, Source.remaining, List.nil_append,
        List.flatten_cons, List.flatten_singleton, List.take_append_drop]
    rw [hbytes, splitRequests_encode (Request.wellFormed_of_parse hfirst)
      (by decide) (by decide +kernel) rfl rfl, splitRequests_encode
        (Request.wellFormed_of_parse hsecond) (by decide) (by decide +kernel) rfl rfl]
    rfl
  have hanswer : Response.parse
      (Bytes.ofText "HTTP/1.1 200 OK\r\nContent-Length: 0\r\n\r\n") =
        .ok ⟨.http11, 200, "OK", ⟨[⟨"Content-Length", "0"⟩]⟩⟩ := by
    decide +kernel
  have hanswers : ∀ request : Request, request.isHead = false →
      Answers settings.limits.maxHeaderBytes request answer.reader.remaining := by
    intro request hhead
    have hfound : Reader.headOf? settings.limits.maxHeaderBytes answer.reader.remaining =
        some (answer.reader.remaining, [] ++ []) := by decide +kernel
    refine Answers.final hfound hanswer rfl ?_
      (show Delimits IsShortLine .empty [] from rfl) rfl (by decide)
    rw [hhead]
    rfl
  -- the one backend is the only one that can be selected, before and after it
  -- has had a success
  have honly : ∀ (pool : Pool) id member, pool.members.length = 1 →
      pool.members[id]? = some member →
      id = 0 := by
    intro pool id member hlength hmember
    have hlt := (List.getElem?_eq_some_iff.1 hmember).1
    omega
  have hprovided :
      Provided settings [first, second] server.fleet.pool server.answers := by
    refine ⟨by decide, ?_⟩
    intro id member _ hmember
    obtain rfl := honly _ id member rfl hmember
    cases hmember
    refine ⟨answer, rfl, rfl, hanswers _ (by decide), by decide, ?_⟩
    intro id member _ hmember
    obtain rfl := honly _ id member rfl hmember
    exact ⟨answer, rfl, rfl, hanswers _ (by decide), trivial⟩
  have hlines : ∀ m ∈ [first, second], Delimits IsShortLine m.framing m.body := by
    intro m hm
    rcases List.mem_pair.1 hm with rfl | rfl
    · rfl
    · rfl
  have hfresh : Fresh server.answers := by
    intro script hscript peer hpeer
    rw [List.mem_singleton.1 hscript] at hpeer
    simp only [List.mem_cons, List.not_mem_nil, or_false, or_self,
      Dialed.connected.injEq] at hpeer
    rw [hpeer]
    rfl
  obtain ⟨served, cut, hcontacts, hserved, -, hcut⟩ :=
    serve_passes_on_split settings ⟨.loopback, 3, 0⟩ client server (by decide)
      (by decide) rfl hfresh (by rw [hsplit]; exact hlines)
      (by rw [hsplit]; exact hprovided)
  rw [hsplit] at hserved hcut
  have hnone : cut = [] := by
    rw [List.eq_nil_iff_forall_not_mem]
    intro contact hcontact
    obtain ⟨request, following, hunfinished, -⟩ := hcut contact hcontact
    cases hunfinished
  rw [hcontacts, hnone, List.append_nil]
  exact hserved

end Server

end Gateway
