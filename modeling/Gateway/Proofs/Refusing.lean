import Mathlib.Logic.Relation
import Gateway.Proofs.Delivering
import Gateway.Proofs.Pipelining

/-!
# Requests that the gateway answers itself

The gateway passes a request on, or answers it itself and closes the connection:
if its head is too long, if its head or the framing of its body makes no sense,
or if there is no backend for it.

* `Server.Turn` says what becomes of the next request of a connection, and of
  what cause; it is one thing (`Server.turn_unique`), and always something
  (`Server.exists_turn`);
* `Server.Advances` is one request more that is passed on, with the connection
  open behind it;
* `Server.refused_serve`: what a request leaves that the gateway answers itself,
  and `Server.handedOn_handle`: what the two sides get of one that it passes on;
* `Server.serve_refuses`: all requests of a connection.
-/

namespace Gateway

namespace Server

variable {settings : ServerSettings} {address : SocketAddress}
  {request : Request} {framing : Framing} {client p q : Peer} {s t : Server}
  {id status : Nat} {message : String}

/-! ## What becomes of a request -/

/-- What becomes of the next request of a connection. -/
inductive Verdict where
  /-- There is none. -/
  | ended
  /-- The gateway answers it itself. -/
  | refused (status : Nat) (message : String)
  /-- It is passed on to a backend. -/
  | passed (id : Nat)
  deriving DecidableEq, Repr

/-- The next request can be read and framed, and `p` is left of the client
behind its head. -/
structure Asks (settings : ServerSettings) (client : Peer) (request : Request)
    (framing : Framing) (p : Peer) :
    Prop where
  /-- Its head is whole and makes sense. -/
  head : ∃ raw, client.readHead settings.limits.maxHeaderBytes = (.ok (some raw), p) ∧
    Request.parse raw = .ok request
  /-- So does the framing of its body. -/
  framing : request.framing = .ok framing

/-- What becomes of the next request, and why. -/
inductive Turn (settings : ServerSettings) (client : Peer)
    (s : Server) : Verdict → Prop where
  /-- Its head is too long. -/
  | tooLarge {max : Nat} : (client.readHead settings.limits.maxHeaderBytes).1 =
      .error (.tooLarge max) →
      Turn settings client s (.refused 431 "Request header fields too large")
  /-- Its head makes no sense. -/
  | malformed {raw : Bytes} {flaw : Flaw} :
      (client.readHead settings.limits.maxHeaderBytes).1 = .ok (some raw) →
      Request.parse raw = .error flaw →
      Turn settings client s (.refused 400 "Malformed request")
  /-- The framing of its body makes no sense. -/
  | unframed {raw : Bytes} {request : Request} {flaw : Flaw} :
      (client.readHead settings.limits.maxHeaderBytes).1 = .ok (some raw) →
      Request.parse raw = .ok request →
      request.framing = .error flaw →
      Turn settings client s (.refused 400 "Unsupported request body framing")
  /-- There is no backend for it. -/
  | unavailable {request : Request} {framing : Framing} {p : Peer} {e : Unavailable} :
      Asks settings client request framing p →
      (s.fleet.select settings.rules).1 = .error e →
      Turn settings client s (.refused 503 e.message)
  /-- There is one. -/
  | passed {request : Request} {framing : Framing} {p : Peer} {id : Nat} :
      Asks settings client request framing p →
      (s.fleet.select settings.rules).1 = .ok id →
      Turn settings client s (.passed id)
  /-- No head arrives as a whole, and none is too long. -/
  | ended : (∀ raw, (client.readHead settings.limits.maxHeaderBytes).1 ≠ .ok (some raw)) →
      (∀ max, (client.readHead settings.limits.maxHeaderBytes).1 ≠
        .error (.tooLarge max)) →
      Turn settings client s .ended

/-- What becomes of the next request. -/
def verdict (settings : ServerSettings) (client : Peer)
    (s : Server) : Verdict :=
  match (client.readHead settings.limits.maxHeaderBytes).1 with
  | .error (.tooLarge _) => .refused 431 "Request header fields too large"
  | .ok (some raw) =>
    match Request.parse raw with
    | .error _ => .refused 400 "Malformed request"
    | .ok request =>
      match request.framing with
      | .error _ => .refused 400 "Unsupported request body framing"
      | .ok _ =>
        match (s.fleet.select settings.rules).1 with
        | .error e => .refused 503 e.message
        | .ok id => .passed id
  | _ => .ended

/-- Something becomes of every request, for a cause. -/
theorem turn_verdict (settings : ServerSettings) (client : Peer) (s : Server) :
    Turn settings client s (verdict settings client s) := by
  rw [verdict]
  split
  · rename_i hread
    exact .tooLarge hread
  · rename_i raw hread
    split
    · rename_i hparse
      exact .malformed hread hparse
    · rename_i request hparse
      split
      · rename_i hframing
        exact .unframed hread hparse hframing
      · rename_i framing hframing
        have hasks : Asks settings client request framing
            (client.readHead settings.limits.maxHeaderBytes).2 :=
          ⟨⟨raw, Prod.ext hread rfl, hparse⟩, hframing⟩
        split
        · rename_i hselect
          exact .unavailable hasks hselect
        · rename_i hselect
          exact .passed hasks hselect
  · rename_i hlarge hwhole
    exact .ended hwhole hlarge

/-- **One thing becomes of a request.** -/
theorem eq_verdict_of_turn {v : Verdict} (h : Turn settings client s v) :
    v = verdict settings client s := by
  have hasked : ∀ {request framing p}, Asks settings client request framing p →
      verdict settings client s = match (s.fleet.select settings.rules).1 with
        | .error e => .refused 503 e.message
        | .ok id => .passed id := by
    rintro request framing p ⟨⟨raw, hread, hparse⟩, hframing⟩
    rw [verdict, hread]
    dsimp only
    rw [hparse]
    dsimp only
    rw [hframing]
  cases h with
  | tooLarge hread => rw [verdict, hread]
  | malformed hread hparse =>
    rw [verdict, hread]
    dsimp only
    rw [hparse]
  | unframed hread hparse hframing =>
    rw [verdict, hread]
    dsimp only
    rw [hparse]
    dsimp only
    rw [hframing]
  | unavailable hasks hselect => rw [hasked hasks, hselect]
  | passed hasks hselect => rw [hasked hasks, hselect]
  | ended hwhole hlarge =>
    rw [verdict]
    split
    · rename_i hread
      exact absurd hread (hlarge _)
    · rename_i hread
      exact absurd hread (hwhole _)
    · rfl

/-- No head that is read is found to make no sense before it is parsed. -/
theorem readHead_ne_malformed (max : Nat) (client : Peer) (flaw : Flaw) :
    (client.readHead max).1 ≠ .error (.malformed flaw) := by
  have key : ∀ pieces held scanned,
      (Reader.readHead.go max client.reader held scanned pieces).1 ≠
        .error (.malformed flaw) := by
    intro pieces held scanned
    fun_induction Reader.readHead.go max client.reader held scanned pieces with
    | case4 held scanned buffer scanned' hend hshort piece rest ih => exact ih
    | case5 =>
      dsimp only
      split <;> rintro ⟨⟩
    | _ => rintro ⟨⟩
  exact key _ _ _

/-! ## What the gateway answers itself -/

/-- What a request leaves that the gateway answers itself, with an error of this
status and message. -/
structure Refused (client : Peer) (s : Server) (status : Nat) (message : String)
    (result : Peer × Server) : Prop where
  /-- No health changed, no number of connections, and no turn was given out. -/
  pool : result.2.fleet.pool = s.fleet.pool
  /-- No gauge changed. -/
  gauges : result.2.fleet.metrics.gauges = s.fleet.metrics.gauges
  /-- No backend has heard of it, or of what follows on the connection. -/
  contacts : result.2.contacts = s.contacts
  /-- The client was sent one error response and nothing else, as far as it
  takes it. -/
  sent : ∃ part, part <+: Response.errorResponse status message ∧
    result.1.received = client.received ++ part ∧
    (client.sink.Takes (Response.errorResponse status message).length →
      part = Response.errorResponse status message)

theorem gauges_measure (x : Exchange) (m : Metrics) :
    (x.measure m).gauges = m.gauges := by
  rw [Exchange.measure, Exchange.countBytes]
  split <;> split <;> rfl

/-- A client is sent the error response as far as it takes it. -/
theorem received_reject (status : Nat) (message : String) (client : Peer) :
    ∃ part, part <+: Response.errorResponse status message ∧
      (reject status message client).received = client.received ++ part ∧
      (client.sink.Takes (Response.errorResponse status message).length →
        part = Response.errorResponse status message) := by
  rw [reject, Peer.write]
  by_cases htakes : client.sink.Takes (Response.errorResponse status message).length
  · obtain ⟨sink, hw, hsent, -, -⟩ := Sink.write_of_takes htakes
    rw [hw]
    exact ⟨_, List.prefix_rfl, hsent, fun _ => rfl⟩
  · obtain ⟨most, sink, -, -, hw, hsent⟩ := Sink.write_of_not_takes htakes
    rw [hw]
    exact ⟨_, List.take_prefix most _, hsent, fun h => absurd h htakes⟩

theorem Refused.of_reject (hp : p.sink = client.sink)
    (hpool : t.fleet.pool = s.fleet.pool)
    (hgauges : t.fleet.metrics.gauges = s.fleet.metrics.gauges)
    (hcontacts : t.contacts = s.contacts) :
    Refused client s status message (reject status message p, t) := by
  obtain ⟨part, hpart, hsent, hall⟩ := received_reject status message p
  rw [Peer.received, Peer.received, hp] at hsent
  rw [hp] at hall
  exact ⟨hpool, hgauges, hcontacts, part, hpart, hsent, hall⟩

/-- Where there is no backend, the request is answered with what is missing, and
nothing else happens. -/
theorem handle_of_unavailable {e : Unavailable} (address : SocketAddress)
    (request : Request) (framing : Framing) (p : Peer)
    (h : (s.fleet.select settings.rules).1 = .error e) :
    ∃ t, s.handle settings address request framing p =
      (false, reject 503 e.message p, t) ∧
      t.fleet.pool = s.fleet.pool ∧ t.fleet.metrics.gauges =
        s.fleet.metrics.gauges ∧ t.contacts = s.contacts := by
  by_cases heligible : s.fleet.pool.eligible settings.rules.failOpen = []
  · rw [Fleet.select, Pool.select_of_ineligible heligible] at h
    cases h
    rw [handle, openRecord]
    dsimp only
    rw [Fleet.select, Pool.select_of_ineligible heligible]
    exact ⟨_, rfl, rfl, gauges_measure _ _, rfl⟩
  · obtain ⟨c, -, -, hselect⟩ := Pool.select_of_eligible heligible
    rw [Fleet.select, hselect] at h
    cases h

/-! ## What the gateway passes on -/

/-- What is done with a request that is passed on to a backend, and what its two
sides get of it. -/
structure HandedOn (settings : ServerSettings) (id : Nat) (member : Member)
    (request : Request) (framing : Framing) (client : Peer) (x : Exchange)
    (s : Server) (result : Bool × Peer × Server) : Prop where
  /-- It is exchanged with the backend, behind the turn that was given out for
  it. -/
  exchanged : result =
    s.begun.exchangeWith settings id member.backend request framing client x
  /-- The backend hears of it if it can be connected to: it is sent the head, if
  it takes that, and nothing from behind the body. No other backend hears of
  it. -/
  heard :
    let head := (request.prepare x.client.ip x.id).encode
    (∃ backend peer part, settings.network.dial (s.nextAnswer id) = .connected backend ∧
        result.2.2.contacts = s.contacts ++ [(id, peer)] ∧
        peer.received = backend.received ++ part ∧
        part <+: head ++ reach framing client.reader.remaining ∧
        (backend.sink.Takes head.length → head <+: part)) ∨
      (∀ backend, settings.network.dial (s.nextAnswer id) ≠ .connected backend) ∧
      result.2.2.contacts = s.contacts
  /-- The client is told to go on at most, and receives a part of one answer. -/
  told :
    let dialed := settings.network.dial (s.nextAnswer id)
    ∃ sent invited answer started, result.2.1.received =
      client.received ++ sent ∧ sent <+: invited ++ answer ∧
      (invited = [] ∨ invited = request.invitation framing) ∧
      Told settings.limits.maxHeaderBytes request dialed
        (Exchange.attempt settings.limits member.backend.address dialed request framing client
          { x with backend := some member.backend.name }).1
        started answer

/-- **A request for which there is a backend is passed on to it.** -/
theorem handedOn_handle (address : SocketAddress) (request : Request)
    (framing : Framing) (p : Peer)
    (h : (s.fleet.select settings.rules).1 = .ok id) :
    ∃ member, s.fleet.pool.members[id]? = some member ∧
      HandedOn settings id member request framing p
        (.ofRequest (settings.requestId s.requests) address request) s
          (s.handle settings address request framing p) := by
  by_cases heligible : s.fleet.pool.eligible settings.rules.failOpen = []
  · rw [Fleet.select, Pool.select_of_ineligible heligible] at h
    cases h
  obtain ⟨c, -, hmember, hselect⟩ := Pool.select_of_eligible heligible
  rw [Fleet.select, hselect] at h
  cases h
  have hhandle : s.handle settings address request framing p =
      s.begun.exchangeWith settings c.id c.member.backend request framing p
        (.ofRequest (settings.requestId s.requests) address request) := by
    rw [handle, openRecord]
    dsimp only
    rw [Fleet.select, hselect]
    dsimp only [Pool.advance]
    rw [hmember]
    rfl
  obtain ⟨f, t, hf, ht, hexchanged⟩ :=
    exchangeWith_of_member (s := s.begun) settings c.member.backend request framing
      p (.ofRequest (settings.requestId s.requests) address request) hmember
  refine ⟨c.member, hmember, hhandle, ?_, ?_⟩
  · rw [hhandle, ht, hexchanged.contacts, ← hf]
    rcases Exchange.heard_of_attempt settings.limits c.member.backend.address
        (settings.network.dial (s.begun.nextAnswer c.id)) request framing p
        { Exchange.ofRequest (settings.requestId s.requests) address request with
          backend := some c.member.backend.name } with
      ⟨backend, peer, part, hdial, hpeer, hspec⟩ | ⟨hdial, hnone⟩
    · rw [hpeer]
      exact .inl ⟨backend, peer, part, hdial, rfl, hspec⟩
    · rw [hnone]
      exact .inr ⟨hdial, List.append_nil _⟩
  · rw [hhandle, ht, ← hf]
    obtain ⟨sent, invited, answer, hspec⟩ :=
      Exchange.told_conclude settings.limits c.member.backend.address
        (settings.network.dial (s.begun.nextAnswer c.id)) request framing p
      (x := { Exchange.ofRequest (settings.requestId s.requests) address request with
        backend := some c.member.backend.name }) rfl
    obtain ⟨hsent, hprefix, hinvited, htold⟩ := hspec
    exact ⟨sent, invited, answer, _, hsent, hprefix, hinvited, htold⟩

/-! ## The whole connection -/

/-- What becomes of a connection, from the answer to the request for a head and
from what is left of the client. -/
theorem serve_eq (settings : ServerSettings) (address : SocketAddress)
    (client : Peer) (s : Server) :
    s.serve settings address client =
      match client.readHead settings.limits.maxHeaderBytes with
      | (.error (.tooLarge _), p) => (reject 431 "Request header fields too large" p, s)
      | (.error (.malformed flaw), p) => (reject 400 flaw.message p, s)
      | (.error _, p) => (p, s)
      | (.ok none, p) => (p, s)
      | (.ok (some raw), p) =>
        match Request.parse raw with
        | .error _ => (reject 400 "Malformed request" p, s)
        | .ok request =>
          match request.framing with
          | .error _ => s.refuseFraming settings address request p
          | .ok framing =>
            match s.handle settings address request framing p with
            | (goesOn, q, t) => if goesOn then t.serve settings address q
              else (q, t) := by
  rw [serve]
  split
  · rename_i hread
    rw [hread]
  · rename_i hread
    rw [hread]
  · rename_i e p hlarge hmalformed hread
    rw [hread]
    cases e with
    | tooLarge n => exact (hlarge n rfl).elim
    | malformed flaw => exact (hmalformed flaw rfl).elim
    | _ => rfl
  · rename_i hread
    rw [hread]
  · rename_i raw p hread
    rw [hread]
    dsimp only
    cases Request.parse raw with
    | error flaw => rfl
    | ok request =>
      dsimp only
      cases request.framing with
      | error flaw => rfl
      | ok framing =>
        dsimp only
        split
        · rename_i hhandle
          rw [hhandle]
          rfl
        · rename_i hhandle
          rw [hhandle]
          rfl

theorem serve_of_asks (address : SocketAddress) (s : Server)
    (h : Asks settings client request framing p) :
    s.serve settings address client =
      match s.handle settings address request framing p with
      | (goesOn, q, t) => if goesOn then t.serve settings address q else (q, t) := by
  obtain ⟨⟨raw, hread, hparse⟩, hframing⟩ := h
  rw [serve_eq, hread]
  dsimp only
  rw [hparse]
  dsimp only
  rw [hframing]

theorem Asks.sink
    (h : Asks settings client request framing p) : p.sink = client.sink := by
  obtain ⟨⟨raw, hread, -⟩, -⟩ := h
  exact congrArg (fun read => Peer.sink read.2) hread.symm

/-- **What the gateway answers itself leaves everything else as it was**, and
ends the connection. -/
theorem refused_serve (address : SocketAddress)
    (h : Turn settings client s (.refused status message)) :
    Refused client s status message (s.serve settings address client) := by
  generalize hv : Verdict.refused status message = v at h
  have hread : ∀ {answer}, (client.readHead settings.limits.maxHeaderBytes).1 = answer →
      client.readHead settings.limits.maxHeaderBytes =
        (answer, (client.readHead settings.limits.maxHeaderBytes).2) :=
    fun h => Prod.ext h rfl
  cases h with
  | tooLarge hlarge =>
    cases hv
    rw [serve_eq, hread hlarge]
    exact .of_reject rfl rfl rfl rfl
  | malformed hwhole hparse =>
    cases hv
    rw [serve_eq, hread hwhole]
    dsimp only
    rw [hparse]
    exact .of_reject rfl rfl rfl rfl
  | unframed hwhole hparse hframing =>
    cases hv
    rw [serve_eq, hread hwhole]
    dsimp only
    rw [hparse]
    dsimp only
    rw [hframing]
    exact .of_reject rfl rfl (gauges_measure _ _) rfl
  | unavailable hasks hselect =>
    cases hv
    obtain ⟨t, ht, hpool, hgauges, hcontacts⟩ :=
      handle_of_unavailable address _ _ _ hselect
    rw [serve_of_asks address s hasks, ht]
    exact .of_reject hasks.sink hpool hgauges hcontacts
  | passed => cases hv
  | ended => cases hv

/-- A connection without a next request ends as it is. -/
theorem serve_of_ended (address : SocketAddress)
    (h : Turn settings client s .ended) :
    (s.serve settings address client).1.received = client.received ∧
      (s.serve settings address client).2 = s := by
  generalize hv : Verdict.ended = v at h
  cases h with
  | ended hwhole hlarge =>
    have hmalformed := readHead_ne_malformed settings.limits.maxHeaderBytes client
    have hsink : (client.readHead settings.limits.maxHeaderBytes).2.sink =
        client.sink := rfl
    rw [serve_eq]
    generalize client.readHead settings.limits.maxHeaderBytes = read
      at hwhole hlarge hmalformed hsink ⊢
    obtain ⟨answer, p⟩ := read
    rcases answer with e | raw
    · cases e with
      | tooLarge n => exact absurd rfl (hlarge n)
      | malformed flaw => exact absurd rfl (hmalformed flaw)
      | _ => exact ⟨congrArg Sink.accepted hsink, rfl⟩
    · cases raw with
      | none => exact ⟨congrArg Sink.accepted hsink, rfl⟩
      | some raw => exact absurd rfl (hwhole raw)
  | _ => cases hv

/-- A request is passed on, and the connection goes on behind it. -/
def Advances (settings : ServerSettings) (address : SocketAddress)
    (now next : Peer × Server) : Prop :=
  ∃ request framing p, Asks settings now.1 request framing p ∧
    now.2.handle settings address request framing p = (true, next)

/-- Where a connection comes with its requests, one after the other. -/
def Reaches (settings : ServerSettings) (address : SocketAddress) :
    Peer × Server → Peer × Server → Prop :=
  Relation.ReflTransGen (Advances settings address)

variable {now next last : Peer × Server}

theorem serve_of_reaches (h : Reaches settings address now last) :
    now.2.serve settings address now.1 = last.2.serve settings address last.1 := by
  induction h using Relation.ReflTransGen.head_induction_on with
  | refl => rfl
  | head hadvances _ ih =>
    obtain ⟨request, framing, p, hasks, hhandle⟩ := hadvances
    rw [serve_of_asks address _ hasks, hhandle]
    exact ih

/-- A request that is passed on is gone. -/
theorem length_lt_of_advances (h : Advances settings address now next) :
    next.1.reader.remaining.length < now.1.reader.remaining.length := by
  obtain ⟨request, framing, p, ⟨⟨raw, hread, -⟩, -⟩, hhandle⟩ := h
  have hle := handle_length_le hhandle
  rw [Peer.readHead] at hread
  cases hr : now.1.reader.readHead settings.limits.maxHeaderBytes with
  | mk answer r =>
    rw [hr] at hread
    cases hread
    exact Nat.lt_of_le_of_lt hle (Reader.length_remaining_readHead hr)

/-- A connection goes on only behind a request that is passed on. -/
theorem passed_of_advances (h : Advances settings address now next) :
    ∃ id, Turn settings now.1 now.2 (.passed id) := by
  obtain ⟨request, framing, p, hasks, hhandle⟩ := h
  cases hselect : (now.2.fleet.select settings.rules).1 with
  | ok id => exact ⟨id, .passed hasks hselect⟩
  | error e =>
    obtain ⟨t, ht, -⟩ := handle_of_unavailable address request framing p hselect
    rw [ht] at hhandle
    cases hhandle

/-- **Every connection has a last request**, which ends it. -/
theorem exists_last (settings : ServerSettings) (address : SocketAddress)
    (now : Peer × Server) :
    ∃ last, Reaches settings address now last ∧
      ∀ next, ¬ Advances settings address last next := by
  induction hlength : now.1.reader.remaining.length using Nat.strongRecOn
      generalizing now with
  | ind length ih =>
    by_cases hgoesOn : ∃ next, Advances settings address now next
    · obtain ⟨next, hnext⟩ := hgoesOn
      obtain ⟨last, hlast, hends⟩ :=
        ih _ (hlength ▸ length_lt_of_advances hnext) next rfl
      exact ⟨last, .head hnext hlast, hends⟩
    · exact ⟨now, .refl, fun next hnext => hgoesOn ⟨next, hnext⟩⟩

/-- **What becomes of the requests of a connection**, whatever the server,
whatever the client sends and in whatever pieces. Wherever the connection comes,
one thing becomes of its next request. It is answered with 431 exactly if its
head is found to be too long; if its head arrives as a whole, it is passed on to
a backend, or answered with 400, or with 503. What the gateway answers itself is
answered with one error response, as far as the client takes it, and leaves the
pool with its health, connections and turns and every gauge as they were; the
connection ends with it, and no backend hears of it or of what follows. Of a
request that is passed on, the backend is sent the head, if it can be connected
to and takes that, and nothing from behind the body; the client receives a part
of one answer. And a connection comes to an end. -/
theorem serve_refuses (settings : ServerSettings) (address : SocketAddress)
    (client : Peer) (s : Server) :
    (∀ c t, Reaches settings address (client, s) (c, t) →
      (∃ v, Turn settings c t v ∧ ∀ w, Turn settings c t w → w = v) ∧
      ((∃ message, Turn settings c t (.refused 431 message)) ↔
        ∃ max, (c.readHead settings.limits.maxHeaderBytes).1 =
          .error (.tooLarge max)) ∧
      (∀ raw, (c.readHead settings.limits.maxHeaderBytes).1 = .ok (some raw) →
        (∃ id, Turn settings c t (.passed id)) ∨
          (∃ message, Turn settings c t (.refused 400 message)) ∨
          ∃ message, Turn settings c t (.refused 503 message)) ∧
      (∀ status message, Turn settings c t (.refused status message) →
        status ∈ [431, 400, 503] ∧
        Refused c t status message (s.serve settings address client)) ∧
      (∀ id, Turn settings c t (.passed id) → ∃ request framing p member,
        Asks settings c request framing p ∧ t.fleet.pool.members[id]? = some member ∧
        HandedOn settings id member request framing p
          (.ofRequest (settings.requestId t.requests) address request) t
            (t.handle settings address request framing p)) ∧
      (Turn settings c t .ended →
        (s.serve settings address client).1.received = c.received ∧
        (s.serve settings address client).2 = t) ∧
      ∀ next, Advances settings address (c, t) next →
        ∃ id, Turn settings c t (.passed id)) ∧
    ∃ last, Reaches settings address (client, s) last ∧
      ∀ next, ¬ Advances settings address last next := by
  refine ⟨fun c t hreaches => ?_, exists_last settings address (client, s)⟩
  have hserve : s.serve settings address client = t.serve settings address c :=
    serve_of_reaches hreaches
  rw [hserve]
  have hverdict := turn_verdict settings c t
  refine ⟨⟨_, hverdict, fun w => eq_verdict_of_turn⟩, ⟨?_, ?_⟩,
    fun raw hwhole => ?_, fun status message hturn => ?_, fun id hturn => ?_,
    serve_of_ended address, fun next => passed_of_advances⟩
  · rintro ⟨message, hturn⟩
    generalize hv : Verdict.refused 431 message = v at hturn
    cases hturn with
    | tooLarge hlarge => exact ⟨_, hlarge⟩
    | _ => cases hv
  · rintro ⟨max, hlarge⟩
    exact ⟨_, .tooLarge hlarge⟩
  · generalize verdict settings c t = v at hverdict
    cases hverdict with
    | tooLarge hlarge =>
      rw [hwhole] at hlarge
      cases hlarge
    | malformed hread hparse => exact .inr (.inl ⟨_, .malformed hread hparse⟩)
    | unframed hread hparse hframing =>
      exact .inr (.inl ⟨_, .unframed hread hparse hframing⟩)
    | unavailable hasks hselect =>
      exact .inr (.inr ⟨_, .unavailable hasks hselect⟩)
    | passed hasks hselect => exact .inl ⟨_, .passed hasks hselect⟩
    | ended hnone => exact absurd hwhole (hnone raw)
  · refine ⟨?_, refused_serve address hturn⟩
    generalize hv : Verdict.refused status message = v at hturn
    cases hturn <;> cases hv <;> decide
  · generalize hv : Verdict.passed id = v at hturn
    cases hturn with
    | passed hasks hselect =>
      cases hv
      obtain ⟨member, hmember, hpassed⟩ := handedOn_handle address _ _ _ hselect
      exact ⟨_, _, _, member, hasks, hmember, hpassed⟩
    | _ => cases hv

/-- Two requests in two pieces, and no room at the only backend: the first is
answered, and nothing else happens. -/
theorem serve_refuses_unavailable :
    let settings : ServerSettings := { requestId := toString }
    let pool : Pool := { Pool.ofBackends
      [⟨"a", ⟨.loopback, 1, 0⟩, 1, some 0, by decide⟩] {} with cursor := 7 }
    let server : Server := { fleet := { pool := pool } }
    let client : Peer :=
      { reader := ⟨[], ⟨[Bytes.ofText "GET /a HTT",
          Bytes.ofText "P/1.1\r\n\r\nGET /b HTTP/1.1\r\n\r\n"], .eof⟩⟩ }
    let message := "no backend available (1 of 1 healthy)"
    let served := server.serve settings ⟨.loopback, 3, 0⟩ client
    Turn settings client server (.refused 503 message) ∧
      served.2.fleet.pool = pool ∧ served.2.contacts = [] ∧
      served.1.received = Response.errorResponse 503 message := by
  intro settings pool server client message served
  have hverdict : verdict settings client server = .refused 503 message := by
    decide +kernel
  have hturn : Turn settings client server (.refused 503 message) :=
    hverdict ▸ turn_verdict settings client server
  obtain ⟨hrefuses, -⟩ := serve_refuses settings ⟨.loopback, 3, 0⟩ client server
  obtain ⟨-, -, -, hrefused, -⟩ := hrefuses client server .refl
  obtain ⟨-, hpool, -, hcontacts, part, -, hsent, hall⟩ := hrefused _ _ hturn
  rw [hall nofun] at hsent
  exact ⟨hturn, hpool, hcontacts, hsent⟩

end Server

end Gateway
