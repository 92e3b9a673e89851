import Gateway.Proofs.Exchanging
import Gateway.Proofs.Operations
import Mathlib.Logic.Function.Iterate

/-!
# Clients at the same time

A server serves many clients at once. Each request goes through a few steps that
touch what all requests share, the pool and the metrics, and between two steps
of one request any steps of others can come. Everything else belongs to one
client alone, so it does not matter when it is done.

* `Session` is where the connection of a client stands, and `Session.advance`
  its next step;
* `Serving` is any number of them, and a list of numbers any order of their
  steps (`Serving.run`); it keeps a list of the heads that were accepted and one
  of the requests that are through;
* `Session.advanced_advance` says what a step can be;
* `Serving.exists_run_serveAll`: serving the clients one after the other is one
  such order.
-/

namespace Gateway

/-- Where the connection of a client stands. -/
inductive Session where
  /-- The next head is to be read. -/
  | reading (client : Peer)
  /-- A head was accepted, and its record is open. -/
  | accepted (client : Peer) (request : Request) (x : Exchange)
  /-- A backend was picked. -/
  | assigned (client : Peer) (request : Request) (framing : Framing)
      (x : Exchange) (id : Nat) (backend : Backend)
  /-- A connection to the backend is counted. -/
  | connected (client : Peer) (request : Request) (framing : Framing)
      (x : Exchange) (id : Nat) (backend : Backend)
  /-- The exchange is over, and its connection is counted no more. -/
  | ended (id : Nat) (f : Forwarded)
  /-- The record is closed and not yet measured; the client's connection goes on
  or not. -/
  | finishing (x : Exchange) (client : Peer) (again : Bool)
  /-- The client's connection has ended. -/
  | closed (client : Peer)

namespace Session

open Server (reject)

/-- The next step of a connection, with the server that it leaves. -/
def advance (settings : ServerSettings) (address : SocketAddress) (s : Server) :
    Session → Session × Server
  | .reading client =>
    match client.readHead settings.limits.maxHeaderBytes with
    | (.error (.tooLarge _), p) =>
      (.closed (reject 431 "Request header fields too large" p), s)
    | (.error (.malformed flaw), p) => (.closed (reject 400 flaw.message p), s)
    | (.error _, p) => (.closed p, s)
    | (.ok none, p) => (.closed p, s)
    | (.ok (some raw), p) =>
      match Request.parse raw with
      | .error _ => (.closed (reject 400 "Malformed request" p), s)
      | .ok request =>
        (.accepted p request (s.openRecord settings address request).1,
          (s.openRecord settings address request).2)
  | .accepted client request x =>
    match request.framing with
    | .error _ =>
      (.finishing { x with outcome := .rejected, status := some 400 }
        (reject 400 "Unsupported request body framing" client) false, s)
    | .ok framing =>
      match s.fleet.select settings.rules with
      | (.error e, fleet) =>
        (.finishing { x with outcome := .noBackend, status := some 503 }
          (reject 503 e.message client) false, { s with fleet := fleet })
      | (.ok id, fleet) =>
        match fleet.pool.members[id]? with
        | none => (.closed client, { s with fleet := fleet })
        | some m =>
          (.assigned client request framing { x with
            backend := some m.backend.name } id m.backend, { s with fleet := fleet })
  | .assigned client request framing x id backend =>
    match s.fleet.beginConnection id with
    | .error _ => (.closed client, s)
    | .ok (_, fleet) =>
      (.connected client request framing x id backend, { s with fleet := fleet })
  | .connected client request framing x id backend =>
    let dialed := settings.network.dial (s.nextAnswer id)
    let f := Exchange.conclude (Exchange.attempt settings.limits backend.address
        dialed request framing client x)
    let contacts := match f.backend with
      | some peer => s.contacts ++ [(id, peer)]
      | none => s.contacts
    match s.fleet.endConnection id with
    | .error _ => (.closed client, s)
    | .ok fleet =>
      (.ended id f,
        { s with
          fleet := fleet, answers := s.answers.modify id List.tail
          contacts := contacts })
  | .ended id f =>
    match s.fleet.recordOutcome id f.record.outcome with
    | .error _ => (.closed f.client, s)
    | .ok (_, fleet) =>
      (.finishing f.record f.client f.keepAlive, { s with fleet := fleet })
  | .finishing x client again =>
    (if again then .reading client else .closed client, s.finish x)
  | .closed client => (.closed client, s)

/-- The head that is read in a step, if it is one of a request. -/
def headsOf (settings : ServerSettings) : Session → List Request
  | .reading client =>
    match (client.readHead settings.limits.maxHeaderBytes).1 with
    | .ok (some raw) => (Request.parse raw).toOption.toList
    | _ => []
  | _ => []

/-- The record that a step closes, if it does, with the backend that the request
was passed on to. -/
def recordsOf : (before after : Session) → List (Option Nat × Exchange)
  | .accepted _ _ _, .finishing x _ _ => [(none, x)]
  | .connected _ _ _ _ _ _, .ended id f => [(some id, f.record)]
  | _, _ => []

/-- No request is on its way. -/
def IsIdle : Session → Prop
  | .reading _ | .closed _ => True
  | _ => False

instance : DecidablePred IsIdle
  | .reading _ | .closed _ => inferInstanceAs (Decidable True)
  | .accepted _ _ _ | .assigned _ _ _ _ _ _ | .connected _ _ _ _ _ _ | .ended
      _ _ | .finishing _ _ _ =>
    inferInstanceAs (Decidable False)

end Session

/-- A server with the clients that it serves at once. -/
structure Serving where
  /-- The server. -/
  server : Server
  /-- Where the clients are and where their connections stand. -/
  sessions : List (SocketAddress × Session)
  /-- The heads that were accepted. -/
  heads : List Request := []
  /-- The records that were closed, each with the backend that the request was
  passed on to. -/
  records : List (Option Nat × Exchange) := []

namespace Serving

/-- Clients that have sent nothing yet. -/
def arrive (clients : List (SocketAddress × Peer)) (s : Server) : Serving :=
  { server := s, sessions := clients.map fun client => (client.1, .reading client.2) }

/-- The connection of a number takes its next step. -/
def step (settings : ServerSettings) (i : Nat) (w : Serving) : Serving :=
  match w.sessions[i]? with
  | none => w
  | some (address, session) =>
    let (next, server) := session.advance settings address w.server
    { server := server, sessions := w.sessions.set i (address, next)
      heads := w.heads ++ session.headsOf settings
      records := w.records ++ session.recordsOf next }

/-- Connections take steps in this order. -/
def run (settings : ServerSettings) : List Nat → Serving → Serving
  | [], w => w
  | i :: order, w => run settings order (w.step settings i)

end Serving

/-! ## Records -/

namespace Conversation

variable {limits : ForwardLimits} {request : Request} {framing : Framing}
  {c : Conversation} {α : Type}

/-- The conversation that a step leaves, whether or not it fails. -/
def left : EStateM.Result ExchangeError Conversation α → Conversation
  | .ok _ d => d
  | .error _ d => d

/-- The record of a request that is sent is one of the same backend. -/
theorem backend_sendRequest (limits : ForwardLimits) (request : Request)
    (framing : Framing) (c : Conversation) :
    (left (sendRequest limits request framing c)).record.backend =
      c.record.backend := by
  have hrelay : ∀ d, (left (relayRequest limits framing d)).record.backend =
      d.record.backend := by
    intro d
    rw [relayRequest]
    dsimp only
    split <;> rfl
  rcases sendRequest_cases limits request framing c
    with ⟨client, backend, heq, -⟩ | ⟨e, d, _, _, he, hrecord, -⟩
  · rw [heq]
    exact hrelay _
  · rw [he]
    exact congrArg Exchange.backend hrecord

/-- Reading the head of a response changes no record. -/
theorem record_readFinal (limits : ForwardLimits) (c : Conversation) :
    (left (readFinal limits c)).record = c.record := by
  have hread : ∀ d, (left (readResponse limits d)).record = d.record := by
    intro d
    rw [readResponse]
    split
    · split <;> rfl
    · rfl
    · rfl
  fun_induction readFinal limits c with
  | case1 c e d h => rw [← hread c, h]
  | case2 c response d h _ ih => rw [ih, ← hread c, h]; rfl
  | case3 c response d h => rw [← hread c, h]

/-- The record of a response that is sent is one of the same backend. -/
theorem backend_sendResponse (limits : ForwardLimits) (request : Request)
    (response : Response) (c : Conversation) :
    (left (sendResponse limits request response c)).record.backend =
      c.record.backend := by
  have hrelay : ∀ framing d, (left (relayResponse limits framing d)).record.backend =
      d.record.backend := by
    intro framing d
    rw [relayResponse]
    dsimp only
    split <;> rfl
  cases hframing : response.framing request.isHead with
  | error flaw =>
    rw [sendResponse, hframing]
    rfl
  | ok answering =>
    obtain ⟨client, d, -, hdef, ⟨-, -, ⟨t, ht, hsend⟩ | ⟨e, t, ht, hsend⟩⟩
        | ⟨_, _, hsend, -⟩⟩ :=
      sendResponse_cases limits hframing c
    · have hd := hrelay answering d
      rw [ht, hdef] at hd
      rw [hsend]
      exact hd
    · have hd := hrelay answering d
      rw [ht, hdef] at hd
      rw [hsend]
      exact hd
    · rw [hsend, hdef]
      rfl

/-- **The record of an exchange is one of the same backend.** -/
theorem backend_converse (limits : ForwardLimits) (request : Request)
    (framing : Framing) (c : Conversation) :
    (left (converse limits request framing c)).record.backend = c.record.backend := by
  have hsend := backend_sendRequest limits request framing c
  rw [converse]
  split
  · rename_i h
    rw [h] at hsend
    exact hsend
  · rename_i d h
    rw [h] at hsend
    have hread := congrArg Exchange.backend (record_readFinal limits d)
    split
    · rename_i h
      rw [h] at hread
      exact hread.trans hsend
    · rename_i response d' h
      rw [h] at hread
      exact (backend_sendResponse limits request response d').trans (hread.trans hsend)

end Conversation

/-- The record that an exchange closes is one of the same backend. -/
theorem Exchange.backend_conclude (limits : ForwardLimits)
    (address : SocketAddress) (dialed : Dialed) (request : Request)
    (framing : Framing) (client : Peer) (x : Exchange) :
    (conclude (attempt limits address dialed request framing client x)).record.backend =
      x.backend := by
  have hsettle : ∀ e f, (settle e f).record.backend = f.record.backend := by
    intro e f
    rw [settle]
    dsimp only
    split <;> rfl
  cases dialed with
  | refused fault => exact hsettle _ _
  | unanswered => exact hsettle _ _
  | connected backend =>
    have hconverse :=
      Conversation.backend_converse limits request framing ⟨client, backend, x⟩
    rw [attempt]
    split
    · rename_i h
      rw [h] at hconverse
      exact hconverse
    · rename_i h
      rw [h] at hconverse
      exact (hsettle _ _).trans hconverse

/-! ## Steps -/

/-- What is known of a member apart from its connections. -/
def Member.standing (m : Member) : Backend × Health :=
  (m.backend, m.health)

/-- No backend's health and no counter has changed. -/
structure Server.Quiet (s t : Server) : Prop where
  /-- The backends are the same, and so is their health. -/
  members : t.fleet.pool.members.map Member.standing =
    s.fleet.pool.members.map Member.standing
  /-- The counters are the same. -/
  counters : t.fleet.metrics.counters = s.fleet.metrics.counters

namespace Fleet

variable {id : Nat} {f g : Fleet} {m : Member}

theorem counters_of_beginConnection {n : Nat}
    (h : f.beginConnection id = .ok (n, g)) :
    g.metrics.counters = f.metrics.counters := by
  rw [beginConnection] at h
  split at h <;> cases h
  rfl

theorem counters_of_endConnection (h : f.endConnection id = .ok g) :
    g.metrics.counters = f.metrics.counters := by
  rw [endConnection] at h
  split at h <;> cases h <;> rfl

theorem counters_of_record
    {signal : Pool → Except UnknownBackend (Option Transition × Pool)}
    {t : Option Transition} (h : f.record id signal = .ok (t, g)) :
    g.metrics.counters = f.metrics.counters := by
  rw [record] at h
  split at h
  · cases h
    rw [reportHealth.eq_def]
    split <;> rfl
  · cases h

theorem counters_of_recordOutcome {outcome : Outcome} {t : Option Transition}
    (h : f.recordOutcome id outcome = .ok (t, g)) :
    g.metrics.counters = f.metrics.counters := by
  cases outcome with
  | success => exact counters_of_record h
  | failed kind => exact counters_of_record h
  | _ =>
    cases h
    rfl

end Fleet

namespace Session

variable {settings : ServerSettings} {address : SocketAddress} {s : Server}

/-- What a step of a connection can be, and what it does to the server. -/
inductive Advanced (settings : ServerSettings) (s : Server) :
    Session → Session → Server → Prop where
  /-- The connection ends. -/
  | left {client p : Peer} : headsOf settings (.reading client) = [] →
      Advanced settings s (.reading client) (.closed p) s
  /-- A head is accepted. -/
  | opened {t : Server} {client p : Peer} {request : Request} {x : Exchange} :
      headsOf settings (.reading client) = [request] → x.backend = none → s.Quiet t →
      Advanced settings s (.reading client) (.accepted p request x) t
  /-- The request has no backend. -/
  | unserved {t : Server} {client p : Peer} {request : Request}
      {x y : Exchange} : y.backend = x.backend →
      y.outcome = .rejected ∨ y.outcome = .noBackend → s.Quiet t →
      Advanced settings s (.accepted client request x) (.finishing y p false) t
  /-- A backend is picked. -/
  | picked {t : Server} {client : Peer} {request : Request} {framing : Framing}
      {x : Exchange} {id : Nat} {m : Member} : s.fleet.pool.members[id]? =
        some m → s.Quiet t →
      Advanced settings s (.accepted client request x)
        (.assigned client request framing { x with
          backend := some m.backend.name } id m.backend) t
  /-- A connection begins. -/
  | began {t : Server} {client : Peer} {request : Request} {framing : Framing}
      {x : Exchange} {id : Nat} {backend : Backend} : s.Quiet t →
      Advanced settings s (.assigned client request framing x id backend)
        (.connected client request framing x id backend) t
  /-- The exchange is over. -/
  | exchanged {t : Server} {client : Peer} {request : Request}
      {framing : Framing} {x : Exchange} {id : Nat} {backend : Backend}
        {f : Forwarded} : f.record.backend = x.backend →
      f.record.outcome = .success ∨ f.record.outcome = .rejected ∨
      (∃ kind, f.record.outcome = .failed kind) →
      s.Quiet t → Advanced settings s
        (.connected client request framing x id backend) (.ended id f) t
  /-- The outcome is recorded. -/
  | recorded {t : Server} {id : Nat} {f : Forwarded} {m : Member} :
      s.fleet.pool.members[id]? = some m →
      t.fleet.pool = s.fleet.pool.withHealth id m
        (m.health.account s.fleet.pool.thresholds f.record.outcome) →
      t.fleet.metrics.counters = s.fleet.metrics.counters →
      Advanced settings s (.ended id f) (.finishing f.record f.client f.keepAlive) t
  /-- The record is measured. -/
  | measured {x : Exchange} {client : Peer} {next : Session}
      {again : Bool} : next.IsIdle →
      Advanced settings s (.finishing x client again) next (s.finish x)
  /-- Nothing happens. -/
  | rested {client : Peer} : Advanced settings s (.closed client) (.closed client) s

/-- The record of a request names the backend that was picked for it, if one
was. -/
def Placed (backends : List Backend) : Session → Prop
  | .accepted _ _ x => x.backend = none
  | .assigned _ _ _ x id _ | .connected _ _ _ x id _ =>
    ∃ b, backends[id]? = some b ∧ x.backend = some b.name
  | .ended id f => ∃ b, backends[id]? = some b ∧ f.record.backend = some b.name
  | _ => True

theorem member_of_backends {p : Pool} {id : Nat} {b : Backend}
    (h : p.backends[id]? = some b) :
    ∃ m, p.members[id]? = some m ∧ m.backend = b := by
  rwa [Pool.backends, List.getElem?_map, Option.map_eq_some_iff] at h

theorem quiet_of_withActive {id n : Nat} {m : Member} {g : Fleet}
    (hm : s.fleet.pool.members[id]? = some m)
    (hpool : g.pool = s.fleet.pool.withActive id m n)
    (hcounters : g.metrics.counters = s.fleet.metrics.counters) :
    s.Quiet { s with fleet := g } :=
  ⟨by rw [hpool]; exact Pool.map_members_set hm rfl, hcounters⟩

/-- A selection changes neither health nor counters, and picks a backend that is
there. -/
theorem quiet_select (rules : Selection) (s : Server) :
    s.Quiet { s with fleet := (s.fleet.select rules).2 } ∧
      ∀ id, (s.fleet.select rules).1 = .ok id →
        ∃ m, s.fleet.pool.members[id]? = some m ∧
          (s.fleet.select rules).2.pool.members[id]? = some m := by
  rw [Fleet.select]
  by_cases heligible : s.fleet.pool.eligible rules.failOpen = []
  · rw [Pool.select_of_ineligible heligible]
    exact ⟨⟨rfl, rfl⟩, fun _ hid => by cases hid⟩
  · obtain ⟨c, -, hmember, hselect⟩ := Pool.select_of_eligible heligible
    rw [hselect]
    refine ⟨⟨rfl, rfl⟩, fun id hid => ?_⟩
    cases hid
    exact ⟨c.member, hmember, hmember⟩

/-- **A step of a connection is one of these.** -/
theorem advanced_advance (settings : ServerSettings) (address : SocketAddress)
    {session : Session} (h : session.Placed s.fleet.pool.backends) :
    Advanced settings s session (session.advance settings address s).1
      (session.advance settings address s).2 := by
  cases session with
  | reading client =>
    rw [advance]
    split
    · rename_i hread
      exact .left (by rw [headsOf, hread])
    · rename_i hread
      exact .left (by rw [headsOf, hread])
    · rename_i hread
      exact .left (by rw [headsOf, hread])
    · rename_i hread
      exact .left (by rw [headsOf, hread])
    · rename_i hread
      split
      · rename_i hparse
        exact .left (by rw [headsOf, hread]; dsimp only; rw [hparse]; rfl)
      · rename_i hparse
        refine .opened ?_ rfl ⟨rfl, rfl⟩
        rw [headsOf, hread]
        dsimp only
        rw [hparse]
        rfl
  | accepted client request x =>
    obtain ⟨hquiet, hpicked⟩ := quiet_select settings.rules s
    rw [advance]
    split
    · exact .unserved rfl (.inl rfl) ⟨rfl, rfl⟩
    · split
      · rename_i hselect
        rw [hselect] at hquiet
        exact .unserved rfl (.inr rfl) hquiet
      · rename_i id fleet hselect
        rw [hselect] at hquiet hpicked
        obtain ⟨m, hm, hm'⟩ := hpicked id rfl
        dsimp only at hm'
        rw [hm']
        exact .picked hm hquiet
  | assigned client request framing x id backend =>
    obtain ⟨b, hb, -⟩ := h
    obtain ⟨m, hm, -⟩ := member_of_backends hb
    obtain ⟨g, hg, hpool⟩ := Fleet.beginConnection_of_member hm
    rw [advance, hg]
    exact .began (quiet_of_withActive hm hpool (Fleet.counters_of_beginConnection hg))
  | connected client request framing x id backend =>
    obtain ⟨b, hb, -⟩ := h
    obtain ⟨m, hm, -⟩ := member_of_backends hb
    obtain ⟨g, hg, hpool⟩ := Fleet.endConnection_of_member hm
    obtain ⟨hmembers, hcounters⟩ :=
      quiet_of_withActive hm hpool (Fleet.counters_of_endConnection hg)
    rw [advance, hg]
    exact .exchanged (Exchange.backend_conclude _ _ _ _ _ _ _)
      (Exchange.outcome_conclude _) ⟨hmembers, hcounters⟩
  | ended id f =>
    obtain ⟨b, hb, -⟩ := h
    obtain ⟨m, hm, -⟩ := member_of_backends hb
    obtain ⟨t, g, hg, hpool⟩ := Fleet.recordOutcome_spec hm f.record.outcome
    rw [advance, hg]
    exact .recorded hm hpool (Fleet.counters_of_recordOutcome hg)
  | finishing x client again =>
    cases again with
    | false => exact .measured trivial
    | true => exact .measured trivial
  | closed client => exact .rested

/-- The backends stay. -/
theorem Advanced.backends_eq {t : Server} {session next : Session}
    (h : Advanced settings s session next t) :
    t.fleet.pool.backends = s.fleet.pool.backends := by
  have hquiet : ∀ {t : Server}, s.Quiet t →
      t.fleet.pool.backends = s.fleet.pool.backends := by
    intro t h
    have hbackends := congrArg (List.map Prod.fst) h.members
    rwa [List.map_map, List.map_map] at hbackends
  cases h with
  | left => rfl
  | opened _ _ h => exact hquiet h
  | unserved _ _ h => exact hquiet h
  | picked _ h => exact hquiet h
  | began h => exact hquiet h
  | exchanged _ _ h => exact hquiet h
  | recorded hm hpool =>
    rw [hpool]
    exact Pool.map_members_set hm rfl
  | measured => rfl
  | rested => rfl

/-- The record names the backend that was picked, after every step. -/
theorem Advanced.placed {t : Server} {session next : Session}
    (h : Advanced settings s session next t)
    (hplaced : session.Placed s.fleet.pool.backends) :
    next.Placed s.fleet.pool.backends := by
  cases h with
  | opened _ hx => exact hx
  | picked hm =>
    refine ⟨_, ?_, rfl⟩
    rw [Pool.backends, List.getElem?_map, hm]
    rfl
  | began => exact hplaced
  | exchanged hbackend =>
    obtain ⟨b, hb, hx⟩ := hplaced
    exact ⟨b, hb, hbackend.trans hx⟩
  | @measured x client next again hidle =>
    cases next with
    | reading => trivial
    | closed => trivial
    | _ => exact hidle.elim
  | _ => trivial

/-! ## One connection alone -/

/-- A connection takes its next step while nothing else happens. -/
def turn (settings : ServerSettings) (address : SocketAddress)
    (state : Session × Server) : Session × Server :=
  state.1.advance settings address state.2

/-- Where a connection stands whose request is through. -/
def resume (again : Bool) (client : Peer) : Session :=
  if again then .reading client else .closed client

/-- **A request that is passed on while nothing else happens** is passed on as a
whole. -/
theorem iterate_exchangeWith {id : Nat} {m : Member} (backend : Backend)
    (request : Request) (framing : Framing) (client : Peer) (x : Exchange)
    (hm : s.fleet.pool.members[id]? = some m) :
    let result := s.exchangeWith settings id backend request framing client x
    (turn settings address)^[4]
        (.assigned client request framing { x with
          backend := some backend.name } id backend, s) =
      (resume result.1 result.2.1, result.2.2) := by
  obtain ⟨g₁, hbegin, hpool₁⟩ := Fleet.beginConnection_of_member hm
  have hm₁ := hpool₁ ▸ Pool.withActive_getElem_self hm (m.active + 1)
  obtain ⟨g₂, hend, hpool₂⟩ := Fleet.endConnection_of_member hm₁
  have hm₂ := hpool₂ ▸ Pool.withActive_getElem_self hm₁ _
  generalize hf : Exchange.conclude (Exchange.attempt settings.limits backend.address
    (settings.network.dial (s.nextAnswer id)) request framing client { x with
    backend := some backend.name }) = f
  obtain ⟨t, g₃, hrecord, -⟩ := Fleet.recordOutcome_spec hm₂ f.record.outcome
  have hforward : Exchange.forward settings.limits id backend.address
      (settings.network.dial (s.nextAnswer id)) request framing client { x with
      backend := some backend.name } s.fleet = .ok (f, g₃) := by
    simp only [Exchange.forward, hbegin, hend, hf, hrecord]
  have hexchange :=
    Server.exchangeWith.eq_def settings id backend request framing client x s
  dsimp only at hexchange
  rw [hforward] at hexchange
  have h₁ : turn settings address
      (.assigned client request framing { x with
        backend := some backend.name } id backend, s) = (.connected client
          request framing { x with backend := some backend.name } id backend,
          { s with fleet := g₁ }) := by
    rw [turn, advance, hbegin]
  rw [hexchange]
  change turn settings address (turn settings address
    (turn settings address (turn settings address _))) = _
  rw [h₁]
  simp only [turn, advance, hend]
  rw [show Server.nextAnswer id { s with fleet := g₁ } = s.nextAnswer id
    from rfl, hf, hrecord]
  rfl

/-- **A request that is accepted while nothing else happens** is handled as a
whole. -/
theorem iterate_handle (settings : ServerSettings) (address : SocketAddress)
    (s : Server) (client : Peer) {request : Request} {framing : Framing}
    (hframing : request.framing = .ok framing) :
    let opened := s.openRecord settings address request
    let result := s.handle settings address request framing client
    ∃ n, (turn settings address)^[n] (.accepted client request opened.1, opened.2) =
      (resume result.1 result.2.1, result.2.2) := by
  intro opened result
  have hturn : turn settings address (.accepted client request opened.1, opened.2) =
      advance settings address opened.2 (.accepted client request opened.1) := rfl
  rw [advance, hframing] at hturn
  dsimp only at hturn
  have hresult : result = s.handle settings address request framing client := rfl
  rw [Server.handle] at hresult
  rcases hselect : opened.2.fleet.select settings.rules with ⟨e | id, fleet⟩
  · rw [hselect] at hturn
    refine ⟨2, ?_⟩
    change turn settings address (turn settings address _) = _
    rw [hturn, hresult]
    dsimp only
    rw [hselect]
    rfl
  · rw [hselect] at hturn
    dsimp only at hturn hresult
    rw [hselect] at hresult
    dsimp only at hresult
    cases hm : fleet.pool.members[id]? with
    | none =>
      rw [hm] at hturn hresult
      refine ⟨1, ?_⟩
      rw [Function.iterate_one, hturn, hresult]
      rfl
    | some m =>
      rw [hm] at hturn hresult
      refine ⟨5, ?_⟩
      rw [Function.iterate_succ_apply, hturn, hresult]
      exact iterate_exchangeWith (s := { opened.2 with
        fleet := fleet }) m.backend request framing client opened.1 hm

theorem turn_of_parse {client p : Peer} {raw : Bytes} {request : Request}
    (s : Server)
    (hread : client.readHead settings.limits.maxHeaderBytes = (.ok (some raw), p))
    (hparse : Request.parse raw = .ok request) :
    turn settings address (.reading client, s) =
      (.accepted p request (s.openRecord settings address request).1,
        (s.openRecord settings address request).2) := by
  rw [turn, advance, hread]
  dsimp only
  rw [hparse]

/-- **A connection that is served while nothing else happens** is served as a
whole. -/
theorem iterate_serve (settings : ServerSettings) (address : SocketAddress)
    (client : Peer) (s : Server) :
    ∃ n, (turn settings address)^[n] (.reading client, s) =
      (.closed (s.serve settings address client).1,
        (s.serve settings address client).2) := by
  fun_induction Server.serve settings address client s with
  | case1 client s limit p hread =>
    exact ⟨1, by rw [Function.iterate_one, turn, advance, hread]⟩
  | case2 client s flaw p hread =>
    exact ⟨1, by rw [Function.iterate_one, turn, advance, hread]⟩
  | case3 client s e p hlarge hmalformed hread =>
    refine ⟨1, ?_⟩
    rw [Function.iterate_one, turn, advance, hread]
    cases e with
    | tooLarge limit => exact (hlarge limit rfl).elim
    | malformed flaw => exact (hmalformed flaw rfl).elim
    | _ => rfl
  | case4 client s p hread =>
    exact ⟨1, by rw [Function.iterate_one, turn, advance, hread]⟩
  | case5 client s raw p hread flaw hparse =>
    refine ⟨1, ?_⟩
    rw [Function.iterate_one, turn, advance, hread]
    dsimp only
    rw [hparse]
  | case6 client s raw p hread request hparse flaw hframing =>
    refine ⟨3, ?_⟩
    rw [Function.iterate_succ_apply, turn_of_parse s hread hparse,
      Function.iterate_succ_apply, turn, advance, hframing]
    rfl
  | case7 client s raw p hread request hparse framing hframing q t hhandle =>
    obtain ⟨n, hn⟩ := iterate_handle settings address s p hframing
    refine ⟨n + 1, ?_⟩
    rw [Function.iterate_succ_apply, turn_of_parse s hread hparse, hn, hhandle]
    rfl
  | case8 client s raw p hread request hparse framing hframing q t hhandle ih =>
    obtain ⟨n, hn⟩ := iterate_handle settings address s p hframing
    obtain ⟨k, hk⟩ := ih
    refine ⟨k + (n + 1), ?_⟩
    rw [Function.iterate_add_apply, Function.iterate_succ_apply,
      turn_of_parse s hread hparse, hn, hhandle]
    exact hk

end Session

namespace Serving

variable {settings : ServerSettings} {w : Serving}

theorem run_append (settings : ServerSettings) (order more : List Nat)
    (w : Serving) :
    run settings (order ++ more) w = run settings more (run settings order w) := by
  induction order generalizing w with
  | nil => rfl
  | cons i order ih => exact ih (w.step settings i)

/-- A connection of many takes its steps as it does alone. -/
theorem run_replicate (settings : ServerSettings) {i : Nat}
    {address : SocketAddress} {session : Session}
    (h : w.sessions[i]? = some (address, session)) (n : Nat) :
    let state := (Session.turn settings address)^[n] (session, w.server)
    (run settings (List.replicate n i) w).server = state.2 ∧
      (run settings (List.replicate n i) w).sessions =
        w.sessions.set i (address, state.1) := by
  obtain ⟨hlt, hget⟩ := List.getElem?_eq_some_iff.1 h
  induction n generalizing w session with
  | zero =>
    exact ⟨rfl, by rw [Function.iterate_zero, id, ← hget, List.set_getElem_self]; rfl⟩
  | succ n ih =>
    have hstep : (w.step settings i).server =
        (Session.turn settings address (session, w.server)).2 ∧
        (w.step settings i).sessions =
          w.sessions.set i (address,
            (Session.turn settings address (session, w.server)).1) := by
      rw [step, h]
      exact ⟨rfl, rfl⟩
    have hnext : (w.step settings i).sessions[i]? =
        some (address, (Session.turn settings address (session, w.server)).1) := by
      rw [hstep.2, List.getElem?_set_self hlt]
    obtain ⟨hserver, hsessions⟩ := ih hnext (by rwa [hstep.2, List.length_set])
      (List.getElem?_eq_some_iff.1 hnext).2
    rw [hstep.1] at hserver hsessions
    rw [hstep.2, List.set_set] at hsessions
    exact ⟨hserver, hsessions⟩

/-- The clients that have not been served yet are served one after the other. -/
theorem exists_run_rest (clients : List (SocketAddress × Peer))
    (front : List (SocketAddress × Session))
    (h : w.sessions = front ++ clients.map fun client => (client.1, .reading client.2)) :
    ∃ order, (run settings order w).server = (w.server.serveAll settings clients).2 ∧
      (run settings order w).sessions.map Prod.snd =
        front.map Prod.snd ++ (w.server.serveAll settings clients).1.map .closed := by
  induction clients generalizing w front with
  | nil =>
    refine ⟨[], rfl, ?_⟩
    rw [run, h]
    simp [Server.serveAll]
  | cons client clients ih =>
    obtain ⟨address, client⟩ := client
    have hfirst : w.sessions[front.length]? = some (address, .reading client) := by
      rw [h, List.getElem?_append_right (Nat.le_refl _), Nat.sub_self]
      rfl
    obtain ⟨n, hn⟩ := Session.iterate_serve settings address client w.server
    obtain ⟨hserver, hsessions⟩ := run_replicate settings hfirst n
    rw [hn] at hserver hsessions
    have hrest : (run settings (List.replicate n front.length) w).sessions =
        (front ++ [(address, .closed (w.server.serve settings address client).1)]) ++
          clients.map fun client => (client.1, .reading client.2) := by
      rw [hsessions, h, List.set_append_right _ _ (Nat.le_refl _), Nat.sub_self]
      simp
    obtain ⟨order, horder, hclosed⟩ := ih _ hrest
    refine ⟨List.replicate n front.length ++ order, ?_, ?_⟩
    · rw [run_append, horder, hserver]
      rfl
    · rw [run_append, hclosed, hserver]
      simp [Server.serveAll]

/-- **Serving clients one after the other is one order of their steps**, in
which all of them are served. -/
theorem exists_run_serveAll (settings : ServerSettings)
    (clients : List (SocketAddress × Peer)) (s : Server) :
    ∃ order, (run settings order (arrive clients s)).server =
      (s.serveAll settings clients).2 ∧
      (run settings order (arrive clients s)).sessions.map Prod.snd =
        (s.serveAll settings clients).1.map .closed :=
  exists_run_rest clients [] (w := arrive clients s) rfl

end Serving

end Gateway
