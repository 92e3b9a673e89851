import Gateway.Proofs.Defects
import Gateway.Proofs.Delivering

/-!
# Clients that end exchanges

With a backend that takes everything and answers in full, it is for the client
to end an exchange too early: the body of its request is malformed, it ends its
connection too soon, or its connection fails, while it sends the body or while
it is told something. A malformed body says nothing about the backend. A client
that is gone is recorded as a failure, which counts as any other, so enough of
them in a row make the backend unhealthy.

* `Cycle.SendsMalformed` and `Cycle.Leaves` say of the bytes that a client
  sends, of how it ends and of how much it takes, that it ends its exchange in
  the one way or the other;
* `Cycle.outcome_of_sendsMalformed`, `Cycle.outcome_of_leaves`,
  `Cycle.outcome_of_stays`: what is recorded of it;
* `Health.Blamed` says what failures in a row do to the health of a backend;
* `Cycle.forwardAll_of_clientEnds`: what such clients in a row do to it.
-/

namespace Gateway

open Reader (IsLine)

/-- Where so much is accepted first, the rest has to fit behind it. -/
theorem Sink.takes_add_iff {s t : Sink} {m n : Nat}
    (h : s.room = t.room.map (m + ·)) :
    s.Takes (m + n) ↔ t.Takes n := by
  cases hroom : t.room with
  | none => simp [Takes, h, hroom]
  | some most => simp [Takes, h, hroom]

/-! ## Backends that are not to blame -/

/-- The body of the request stands at the front of what the client sends and has
no long lines. -/
def Peer.SendsBody (client : Peer) (framing : Framing) : Prop :=
  ∃ body rest, client.reader.remaining = body ++ rest ∧
    Delimits IsShortLine framing body

/-- The client does not send the body of its request, and lets its connection
stay open. -/
def Peer.HangsInBody (client : Peer) (framing : Framing) : Prop :=
  client.reader.source.ending = .silent ∧ ¬ client.SendsBody framing

/-- A backend that takes every byte and answers the request in full. -/
structure Peer.Faultless (backend : Peer) (max : Nat)
    (request : Request) : Prop where
  /-- It takes every byte. -/
  unlimited : backend.sink.room = none
  /-- Its first final head announces a body, which stands behind it and has no
  long lines. -/
  answers : ∃ response answering answer rest,
    finalHead? max backend.reader.remaining = some (response, answer ++ rest) ∧
    response.framing request.isHead = .ok answering ∧
    Encloses IsShortLine answering backend.reader.source.ending answer rest

theorem Peer.faultless_of_empty {backend : Peer} {max : Nat} {request : Request}
    {response : Response} {rest : Bytes} (hlimit : backend.sink.room = none)
    (hhead : finalHead? max backend.reader.remaining = some (response, rest))
    (hempty : response.framing request.isHead = .ok .empty) :
    backend.Faultless max request :=
  ⟨hlimit, response, .empty, [], rest, hhead, hempty, .inl rfl⟩

namespace Conversation

variable {limits : ForwardLimits} {request : Request} {framing : Framing}
  {c d : Conversation}

theorem tellClient_of_takes {data : Bytes} (h : c.client.sink.Takes data.length) :
    ∃ t, tellClient data c = .ok () { c with client := { c.client with sink := t } } ∧
      c.client.sink.room = t.room.map (data.length + ·) := by
  obtain ⟨t, ht, -, hroom, -⟩ := Sink.write_of_takes h
  exact ⟨t, by rw [tellClient, Peer.write, ht], hroom⟩

theorem tellClient_of_not_takes {data : Bytes}
    (h : ¬ c.client.sink.Takes data.length) :
    ∃ fault d, tellClient data c = .error (.clientIo fault) d := by
  obtain ⟨_, t, -, -, ht, -⟩ := Sink.write_of_not_takes h
  exact ⟨_, _, by rw [tellClient, Peer.write, ht]⟩

theorem invite_of_takes
    (h : c.client.sink.Takes (request.invitation framing).length) :
    ∃ t, (if request.expectsContinue && framing != .empty then
      tellClient Response.goAhead c else .ok () c) =
        .ok () { c with client := { c.client with sink := t } } ∧
      c.client.sink.room = t.room.map ((request.invitation framing).length + ·) := by
  rw [Request.invitation] at h ⊢
  split
  · rename_i hexpects
    rw [if_pos hexpects] at h
    exact tellClient_of_takes h
  · exact ⟨c.client.sink, rfl, by simp⟩

/-- Without room for the word the exchange ends. -/
theorem sendRequest_of_not_takes (limits : ForwardLimits) (framing : Framing)
    (hbackend : c.backend.sink.room = none)
    (h : ¬ c.client.sink.Takes (request.invitation framing).length) :
    ∃ fault d, sendRequest limits request framing c = .error (.clientIo fault) d := by
  obtain ⟨backend, htell, -⟩ := tellBackend_of_unlimited hbackend
    (request.prepare c.record.client.ip c.record.id).encode
  rw [Request.invitation] at h
  split at h
  · rename_i hexpects
    obtain ⟨fault, d, hd⟩ :=
      tellClient_of_not_takes (c := { c with backend := backend }) h
    refine ⟨fault, d, ?_⟩
    rw [sendRequest, htell]
    dsimp only
    rw [if_pos hexpects, hd]
  · exact absurd (fun most _ => Nat.zero_le most) h

/-- **A request is sent, or it fails by the first defect of its body**, to a
backend that takes everything and with a client that can be told to go on. -/
theorem sendRequest_of_defect? (framing : Framing)
    (hbuffer : 0 < limits.bufferBytes) (hbackend : c.backend.sink.room = none)
    (h : c.client.sink.Takes (request.invitation framing).length) :
    match c.client.reader.defect? framing with
    | none => ∃ d, sendRequest limits request framing c = .ok () d ∧
        c.client.sink.room =
          d.client.sink.room.map ((request.invitation framing).length + ·)
    | some defect => ∃ d, sendRequest limits request framing c =
        .error (.ofRequestRelay limits.requestTimeout
          (defect.error c.client.reader.source.ending)) d := by
  obtain ⟨backend, htell, hunlimited⟩ := tellBackend_of_unlimited hbackend
    (request.prepare c.record.client.ip c.record.id).encode
  obtain ⟨t, hinvite, htaken⟩ :=
    invite_of_takes (c := { c with backend := backend }) h
  have hends := Pipe.relay_of_defect? framing
    (p := ⟨c.client.reader, backend.sink, c.record.requestBytes⟩) hbuffer hunlimited
  rw [sendRequest, htell]
  dsimp only at hends ⊢
  rw [hinvite]
  dsimp only
  rw [relayRequest]
  cases hdefect : c.client.reader.defect? framing with
  | none =>
    rw [hdefect] at hends
    obtain ⟨p, hp⟩ := hends
    exact ⟨_, by rw [hp], htaken⟩
  | some defect =>
    rw [hdefect] at hends
    obtain ⟨p, hp⟩ := hends
    exact ⟨_, by rw [hp]⟩

/-- **Once the request is sent, a whole answer reaches the client if there is
room for it**, and the exchange ends if there is not. -/
theorem converse_of_answer {response : Response} {answering : Framing}
    {answer rest : Bytes} (hbuffer : 0 < limits.bufferBytes)
    (hsend : sendRequest limits request framing c = .ok () d)
    (hhead : finalHead? limits.maxHeaderBytes c.backend.reader.remaining =
      some (response, answer ++ rest))
    (hframing : response.framing request.isHead = .ok answering)
    (hb : Encloses IsShortLine answering c.backend.reader.source.ending answer rest) :
    let told :=
      (response.prepare (reuses request response answering) request.version).encode
    (d.client.sink.Takes (told.length + answer.length) ∧
      ∃ reuse s, converse limits request framing c = .ok reuse s) ∨
      ¬ d.client.sink.Takes (told.length + answer.length) ∧
        ∃ fault s, converse limits request framing c = .error (.clientIo fault) s := by
  intro told
  obtain ⟨-, -, -, -, hreader, -, -⟩ := sent_of_sendRequest hsend
  rw [← hreader] at hhead hb
  obtain ⟨q, hread, hrest, -, hending⟩ := readFinal_of_finalHead? hhead
  rw [← hending] at hb
  rw [converse, hsend]
  dsimp only
  rw [hread]
  dsimp only
  rw [sendResponse, hframing]
  dsimp only
  by_cases htakes : d.client.sink.Takes told.length
  · obtain ⟨t, ht, hroom⟩ := tellClient_of_takes (c := { d with
      backend := q, record := { d.record with
        status := some response.status, responseStarted := true } }) htakes
    rw [ht, Sink.takes_add_iff hroom]
    dsimp only
    rw [relayResponse]
    rcases Pipe.relay_of_encloses (p := ⟨q.reader, t, d.record.responseBytes⟩)
        hbuffer hb hrest with
      ⟨htail, p, hp⟩ | ⟨htail, fault, p, hp⟩
    · exact .inl ⟨htail, _, _, by rw [hp]⟩
    · exact .inr ⟨htail, fault, _, by rw [hp]; rfl⟩
  · obtain ⟨fault, s, hs⟩ := tellClient_of_not_takes (c := { d with
      backend := q, record := { d.record with
        status := some response.status, responseStarted := true } }) htakes
    rw [hs]
    exact .inr ⟨fun hboth => htakes fun most hmost =>
      Nat.le_trans (Nat.le_add_right _ _) (hboth most hmost), fault, s, rfl⟩

end Conversation

/-! ## Failures in a row -/

namespace Health

variable {t : Thresholds} {kind : FailureKind} {k : Nat} {before after : Health}

/-- What `k` failures of a kind in a row do to the health of a backend: they are
counted, and it is unhealthy once the run of failures is long enough. -/
structure Blamed (t : Thresholds) (kind : FailureKind) (k : Nat)
    (before after : Health) : Prop where
  /-- None change nothing. -/
  unchanged : k = 0 → after = before
  /-- All are counted. -/
  failures : after.failures = before.failures + k
  /-- No success is counted. -/
  successes : after.successes = before.successes
  /-- They make the run of failures longer. -/
  failureRun : 0 < k → after.failureRun = min (before.failureRun + k) longestRun
  /-- The last one is remembered. -/
  lastFailure : 0 < k → after.lastFailure = some kind
  /-- The backend stays as it is, or the run is long enough. -/
  healthy : 0 < k →
    after.healthy = (before.healthy && decide (after.failureRun < t.unhealthy))

theorem Blamed.refl (t : Thresholds) (kind : FailureKind)
    (h : Health) : Blamed t kind 0 h h :=
  ⟨fun _ => rfl, rfl, rfl, fun h0 => absurd h0 (Nat.lt_irrefl 0),
    fun h0 => absurd h0 (Nat.lt_irrefl 0), fun h0 => absurd h0 (Nat.lt_irrefl 0)⟩

/-- **One failure more.** -/
theorem Blamed.fail (h : Blamed t kind k before after) :
    Blamed t kind (k + 1) before (after.fail t kind).2 := by
  obtain ⟨hfailures, hsuccesses, hlast⟩ := accounted_account t (.failed kind) after
  have hrun := (runs_fail t kind after).2
  have hhealthy := healthy_fail_eq t kind after
  refine ⟨fun h0 => absurd h0 (Nat.succ_ne_zero k), ?_,
    hsuccesses.trans h.successes, fun _ => ?_, fun _ => hlast, fun _ => ?_⟩
  · rw [← Nat.add_assoc, ← h.failures]
    exact hfailures
  · rw [hrun, extend]
    rcases Nat.eq_zero_or_pos k with rfl | hpos
    · rw [h.unchanged rfl]
    · rw [h.failureRun hpos]
      omega
  · rw [hhealthy]
    rcases Nat.eq_zero_or_pos k with rfl | hpos
    · rw [h.unchanged rfl]
    -- a run that is short after the failure was short before it
    · rw [h.healthy hpos, Bool.and_assoc, ← Bool.decide_and, hrun, extend,
        h.failureRun hpos]
      refine congrArg _ (decide_eq_decide.2 ?_)
      omega

end Health

/-! ## Cycles -/

/-- A request to a backend that accepts the connection. -/
structure Cycle where
  /-- The client. -/
  client : Peer
  /-- The backend. -/
  backend : Peer
  /-- Where the backend is. -/
  address : SocketAddress
  /-- The request. -/
  request : Request
  /-- How its body ends. -/
  framing : Framing
  /-- Its record. -/
  exchange : Exchange

namespace Cycle

variable {limits : ForwardLimits} {id : Nat} {fleet : Fleet} {m : Member}
  {cycles : List Cycle} {c : Cycle}

/-- Both connections before the exchange. -/
def conversation (c : Cycle) : Conversation :=
  ⟨c.client, c.backend, c.exchange⟩

/-- How the exchange ends. -/
def outcome (limits : ForwardLimits) (c : Cycle) : Outcome :=
  (Exchange.conclude <| Exchange.attempt limits c.address
    (.connected c.backend) c.request c.framing c.client c.exchange).record.outcome

/-- The client can be told to go on, if it waits for that. -/
def TakesInvitation (c : Cycle) : Prop :=
  c.client.sink.Takes (c.request.invitation c.framing).length

/-- The client sends a body that is malformed. -/
inductive SendsMalformed (c : Cycle) : Prop where
  /-- A line of it is malformed, or too long. -/
  | malformed {flaw : Flaw} : c.TakesInvitation →
      c.client.reader.defect? c.framing = some (.malformed flaw) →
      SendsMalformed c
  /-- Its connection fails within a line, and in the way in which a line is too
  long. -/
  | unreadable {fault : Fault} : c.TakesInvitation →
      c.client.reader.defect? c.framing = some .openLine →
      c.client.reader.source.ending = .failed fault →
      fault.kind = .invalidData → SendsMalformed c

/-- The client is gone before the exchange is over. -/
inductive Leaves (limits : ForwardLimits) (c : Cycle) : Prop where
  /-- It cannot be told to go on. -/
  | invitation : ¬ c.TakesInvitation → Leaves limits c
  /-- It ends its connection within the body. -/
  | closed {d : Defect} : c.TakesInvitation →
      c.client.reader.defect? c.framing = some d →
      (∀ flaw, d ≠ .malformed flaw) → c.client.reader.source.ending = .eof →
      Leaves limits c
  /-- Its connection fails within the body. -/
  | failed {d : Defect} {fault : Fault} : c.TakesInvitation →
      c.client.reader.defect? c.framing = some d →
      (∀ flaw, d ≠ .malformed flaw) → c.client.reader.source.ending = .failed fault →
      ¬ (d = .openLine ∧ fault.kind = .invalidData) → Leaves limits c
  /-- It has sent the body, and does not take the whole answer. -/
  | answer {response : Response} {answering : Framing} {answer rest : Bytes} :
      c.TakesInvitation →
      c.client.reader.defect? c.framing = none →
      finalHead? limits.maxHeaderBytes c.backend.reader.remaining =
        some (response, answer ++ rest) →
      response.framing c.request.isHead = .ok answering →
      Encloses IsShortLine answering c.backend.reader.source.ending answer rest →
      ¬ c.client.sink.Takes ((c.request.invitation c.framing).length +
        ((response.prepare (Conversation.reuses c.request response answering)
          c.request.version).encode.length + answer.length)) →
      Leaves limits c

theorem outcome_of_error {e : ExchangeError} {d : Conversation}
    (h : Conversation.converse limits c.request c.framing c.conversation = .error e d) :
    c.outcome limits = e.outcome := by
  rw [conversation] at h
  rw [outcome, Exchange.attempt, h]
  exact (Exchange.outcome_settle e _).1

theorem outcome_of_ok {reuse : Bool} {d : Conversation}
    (h : Conversation.converse limits c.request c.framing c.conversation = .ok reuse d) :
    c.outcome limits = .success := by
  rw [conversation] at h
  rw [outcome, Exchange.attempt, h]
  rfl

/-- A body with a defect is recorded by the error for it. -/
theorem outcome_of_defect {d : Defect} (hbuffer : 0 < limits.bufferBytes)
    (hbackend : c.backend.sink.room = none) (htakes : c.TakesInvitation)
    (h : c.client.reader.defect? c.framing = some d) :
    c.outcome limits =
      (ExchangeError.ofRequestRelay limits.requestTimeout
        (d.error c.client.reader.source.ending)).outcome := by
  have hsend := Conversation.sendRequest_of_defect?
    (c := c.conversation) c.framing hbuffer hbackend htakes
  rw [show c.conversation.client.reader.defect? c.framing = some d from h] at hsend
  obtain ⟨s, hs⟩ := hsend
  refine outcome_of_error (d := s) ?_
  rw [Conversation.converse, hs]
  rfl

/-- **A malformed body is rejected.** -/
theorem outcome_of_sendsMalformed (hbuffer : 0 < limits.bufferBytes)
    (hbackend : c.backend.sink.room = none) (h : c.SendsMalformed) :
    c.outcome limits = .rejected := by
  cases h with
  | malformed htakes hdefect =>
    exact outcome_of_defect hbuffer hbackend htakes hdefect
  | unreadable htakes hdefect hending hkind =>
    rw [outcome_of_defect hbuffer hbackend htakes hdefect, hending,
      Defect.error, Pipe.errorOfLine, if_pos hkind]
    rfl

/-- **A client that is gone is recorded as that.** -/
theorem outcome_of_leaves (hbuffer : 0 < limits.bufferBytes)
    (hbackend : c.backend.sink.room = none) (h : c.Leaves limits) :
    c.outcome limits = .failed .clientDisconnect := by
  cases h with
  | invitation hfull =>
    obtain ⟨fault, d, hd⟩ := Conversation.sendRequest_of_not_takes
      (c := c.conversation) limits c.framing hbackend hfull
    refine outcome_of_error (e := .clientIo fault) (d := d) ?_
    rw [Conversation.converse, hd]
  | @closed d htakes hdefect hflaw hending =>
    rw [outcome_of_defect hbuffer hbackend htakes hdefect, hending]
    cases d with
    | malformed flaw => exact absurd rfl (hflaw flaw)
    | openLine => rfl
    | shortData => rfl
  | @failed d fault htakes hdefect hflaw hending hkind =>
    rw [outcome_of_defect hbuffer hbackend htakes hdefect, hending]
    cases d with
    | malformed flaw => exact absurd rfl (hflaw flaw)
    | openLine =>
      rw [Defect.error, Pipe.errorOfLine,
        if_neg fun hinvalid => hkind ⟨rfl, hinvalid⟩]
      rfl
    | shortData => rfl
  | answer htakes hdefect hhead hframing hb hfull =>
    have hsend := Conversation.sendRequest_of_defect?
      (c := c.conversation) c.framing hbuffer hbackend htakes
    rw [show c.conversation.client.reader.defect? c.framing = none
      from hdefect] at hsend
    obtain ⟨d, hd, hroom⟩ := hsend
    rcases Conversation.converse_of_answer hbuffer hd hhead hframing hb
      with ⟨hfits, -⟩ | ⟨-, fault, s, hs⟩
    · exact absurd ((Sink.takes_add_iff hroom).2 hfits) hfull
    · exact outcome_of_error hs

/-- **A client that does neither has its request answered**, or it hangs until
the time is over. -/
theorem outcome_of_stays (hbuffer : 0 < limits.bufferBytes)
    (hbackend : c.backend.Faultless limits.maxHeaderBytes c.request)
    (hsound : ¬ c.SendsMalformed) (hstays : ¬ c.Leaves limits) :
    c.outcome limits = .success ∨
      c.outcome limits = .failed .timeout ∧ c.client.HangsInBody c.framing := by
  have htakes : c.TakesInvitation :=
    Classical.byContradiction fun hfull => hstays (.invitation hfull)
  cases hdefect : c.client.reader.defect? c.framing with
  | none =>
    have hsend :=
      Conversation.sendRequest_of_defect? (c := c.conversation) c.framing
        hbuffer hbackend.unlimited htakes
    rw [show c.conversation.client.reader.defect? c.framing = none
      from hdefect] at hsend
    obtain ⟨d, hd, hroom⟩ := hsend
    obtain ⟨response, answering, answer, rest, hhead, hframing, hb⟩ :=
      hbackend.answers
    rcases Conversation.converse_of_answer hbuffer hd hhead hframing hb
      with ⟨-, reuse, s, hs⟩ | ⟨hfull, -⟩
    · exact .inl (outcome_of_ok hs)
    · exact absurd (.answer htakes hdefect hhead hframing hb fun hfits =>
        hfull ((Sink.takes_add_iff hroom).1 hfits)) hstays
  | some d =>
    have hflaw : ∀ flaw, d ≠ .malformed flaw := by
      rintro flaw rfl
      exact hsound (.malformed htakes hdefect)
    cases hending : c.client.reader.source.ending with
    | eof => exact absurd (.closed htakes hdefect hflaw hending) hstays
    | failed fault =>
      refine absurd (.failed htakes hdefect hflaw hending ?_) hstays
      rintro ⟨rfl, hkind⟩
      exact hsound (.unreadable htakes hdefect hending hkind)
    | silent =>
      refine .inr ⟨?_, hending, ?_⟩
      · rw [outcome_of_defect hbuffer hbackend.unlimited htakes hdefect, hending]
        cases d with
        | malformed flaw => exact absurd rfl (hflaw flaw)
        | openLine => rfl
        | shortData => rfl
      · rintro ⟨body, rest, hsends, hb⟩
        rw [Reader.defect?_of_delimits hb hsends] at hdefect
        cases hdefect

/-- **A backend that takes everything and answers in full is not to blame** for
what is recorded. -/
theorem outcome_of_faultless (hbuffer : 0 < limits.bufferBytes)
    (hbackend : c.backend.Faultless limits.maxHeaderBytes c.request) :
    c.outcome limits = .success ∨ c.outcome limits = .rejected ∨
      c.outcome limits = .failed .clientDisconnect ∨
      c.outcome limits = .failed .timeout ∧ c.client.HangsInBody c.framing := by
  by_cases hmalformed : c.SendsMalformed
  · exact .inr (.inl (outcome_of_sendsMalformed hbuffer hbackend.unlimited hmalformed))
  · by_cases hgone : c.Leaves limits
    · exact .inr (.inr (.inl (outcome_of_leaves hbuffer hbackend.unlimited hgone)))
    · exact (outcome_of_stays hbuffer hbackend hmalformed hgone).imp_right
        fun hhangs => .inr (.inr hhangs)

/-- The two ways of ending an exchange are told apart by what is recorded, and
nothing else is recorded so. -/
theorem outcome_iff (hbuffer : 0 < limits.bufferBytes)
    (hbackend : c.backend.Faultless limits.maxHeaderBytes c.request) :
    (c.outcome limits = .rejected ↔ c.SendsMalformed) ∧
      (c.outcome limits = .failed .clientDisconnect ↔ c.Leaves limits) := by
  have hmalformed := outcome_of_sendsMalformed (c := c) hbuffer hbackend.unlimited
  have hleaves := outcome_of_leaves (c := c) hbuffer hbackend.unlimited
  constructor
  · refine ⟨fun h => Classical.byContradiction fun hsound => ?_, hmalformed⟩
    by_cases hgone : c.Leaves limits
    · rw [hleaves hgone] at h
      cases h
    · rcases outcome_of_stays hbuffer hbackend hsound hgone with hs | ⟨hs, -⟩ <;>
        rw [hs] at h <;> cases h
  · refine ⟨fun h => Classical.byContradiction fun hstays => ?_, hleaves⟩
    by_cases hflawed : c.SendsMalformed
    · rw [hmalformed hflawed] at h
      cases h
    · rcases outcome_of_stays hbuffer hbackend hflawed hstays with hs | ⟨hs, -⟩ <;>
        rw [hs] at h <;> cases h

/-- Passes requests on to one backend, one after the other. -/
def forwardAll (limits : ForwardLimits) (id : Nat) :
    List Cycle → Fleet → Except UnknownBackend Fleet
  | [], fleet => .ok fleet
  | c :: cycles, fleet =>
    match c.exchange.forward limits id c.address
        (.connected c.backend) c.request c.framing c.client fleet with
    | .error e => .error e
    | .ok (_, fleet) => forwardAll limits id cycles fleet

/-- Every cycle is accounted in the health of its backend, and changes nothing
else in the pool. -/
theorem forwardAll_of_member (limits : ForwardLimits)
    (hm : fleet.pool.members[id]? = some m) (cycles : List Cycle) :
    ∃ g, forwardAll limits id cycles fleet = .ok g ∧
      g.pool = fleet.pool.withHealth id m
        (cycles.foldl (fun h c =>
          h.account fleet.pool.thresholds (c.outcome limits)) m.health) := by
  induction cycles generalizing fleet m with
  | nil => exact ⟨fleet, rfl, (Pool.withHealth_self hm).symm⟩
  | cons c cycles ih =>
    obtain ⟨f, g, rfl, hforward, hg⟩ :=
      Exchange.forward_of_member limits c.address
        (.connected c.backend) c.request c.framing c.client c.exchange hm
    obtain ⟨g', hg', hpool⟩ := ih (hg ▸ Pool.withHealth_getElem_self hm _)
    refine ⟨g', by rw [forwardAll, hforward]; exact hg', ?_⟩
    rw [hpool, hg]
    simp only [Pool.withHealth, List.set_set]
    rfl

/-- **Failures among rejections are counted in a row.** -/
theorem blamed_foldl {t : Thresholds} {kind : FailureKind} {k : Nat}
    {before after : Health}
    (hall : ∀ c ∈ cycles, c.outcome limits = .rejected ∨ c.outcome limits = .failed kind)
    (h : Health.Blamed t kind k before after) :
    Health.Blamed t kind (k + cycles.countP fun c => c.outcome limits = .failed kind) before
      (cycles.foldl (fun h c => h.account t (c.outcome limits)) after) := by
  induction cycles generalizing k after with
  | nil => exact h
  | cons c cycles ih =>
    have hmore := fun c hc => hall c (List.mem_cons_of_mem _ hc)
    rw [List.foldl_cons, List.countP_cons]
    rcases hall c List.mem_cons_self with hc | hc
    · rw [hc, Health.account, if_neg (by simp)]
      exact ih hmore h
    · rw [hc, Health.account, if_pos (by simp), Nat.add_comm _ 1, ← Nat.add_assoc]
      exact ih hmore h.fail

/-- **A client that is gone counts against its backend, and a malformed body
does not.** A backend that takes everything and answers in full has a rejection
recorded exactly of the clients whose body is malformed, and a disconnect
exactly of those that are gone before the exchange is over; any other has its
request answered, or it hangs. Clients that do the one or the other, one after
the other and `k` of them gone, count as `k` failures of the backend in a row,
and nothing else is left of them in the pool. -/
theorem forwardAll_of_clientEnds (hm : fleet.pool.members[id]? = some m)
    (hbuffer : 0 < limits.bufferBytes)
    (hfaultless : ∀ c ∈ cycles, c.backend.Faultless limits.maxHeaderBytes c.request)
    (hends : ∀ c ∈ cycles, c.SendsMalformed ∨ c.Leaves limits) :
    (∀ c : Cycle, c.backend.Faultless limits.maxHeaderBytes c.request →
        (c.outcome limits = .rejected ↔ c.SendsMalformed) ∧
        (c.outcome limits = .failed .clientDisconnect ↔ c.Leaves limits) ∧
        (¬ c.SendsMalformed → ¬ c.Leaves limits →
          c.outcome limits = .success ∨ c.outcome limits = .failed .timeout ∧
            c.client.HangsInBody c.framing)) ∧
      ∃ g h, forwardAll limits id cycles fleet = .ok g ∧
        g.pool = fleet.pool.withHealth id m h ∧
        Health.Blamed fleet.pool.thresholds .clientDisconnect
          (cycles.countP fun c => c.outcome limits = .failed .clientDisconnect)
          m.health h := by
  refine ⟨fun c hc => ⟨(outcome_iff hbuffer hc).1, (outcome_iff hbuffer hc).2,
    outcome_of_stays hbuffer hc⟩, ?_⟩
  obtain ⟨g, hforward, hpool⟩ := forwardAll_of_member limits hm cycles
  refine ⟨g, _, hforward, hpool, ?_⟩
  have hrecorded : ∀ c ∈ cycles, c.outcome limits = .rejected ∨
      c.outcome limits = .failed .clientDisconnect := by
    intro c hc
    have hiff := outcome_iff hbuffer (hfaultless c hc)
    exact (hends c hc).imp hiff.1.2 hiff.2.2
  have hblamed := blamed_foldl hrecorded
    (.refl fleet.pool.thresholds .clientDisconnect m.health)
  rwa [Nat.zero_add] at hblamed

/-- Three clients in a row: one is gone within its body, one sends a chunk
without a line end, and one has sent its body and is gone before the answer. -/
theorem forwardAll_of_clientEnds_twice :
    let backend : Peer :=
      { reader := ⟨[], ⟨[Bytes.ofText "HTTP/1.1 204 No Content\r\n\r\n"], .eof⟩⟩ }
    let gone : Cycle :=
      { client := { reader := ⟨[], ⟨[Bytes.ofText "5\r\nhe"], .eof⟩⟩ },
        backend := backend
        address := ⟨.loopback, 1, 0⟩
        request := ⟨"POST", "/", .http11, ⟨[⟨"Transfer-Encoding", "chunked"⟩]⟩⟩
        framing := .chunked
        exchange :=
          { id := "r", client := ⟨.loopback, 3, 0⟩, method := "POST", target := "/" } }
    let malformed : Cycle :=
      { gone with
        client :=
          { reader := ⟨Bytes.ofText "5\r\nhello", ⟨[Bytes.ofText "XX0\r\n\r\n"], .eof⟩⟩ } }
    let deaf : Cycle :=
      { gone with
        client :=
          { reader := ⟨Bytes.ofText "0\r\n\r\n", ⟨[], .silent⟩⟩
            sink := { room := some 9 } } }
    let member : Member := ⟨⟨"a", ⟨.loopback, 1, 0⟩, 1, none, by decide⟩, {}, 0⟩
    gone.Leaves {} ∧ malformed.SendsMalformed ∧ deaf.Leaves {} ∧
      ∃ g h, forwardAll {} 0 [gone, malformed, deaf]
        { pool := { members := [member] } } = .ok g ∧
        g.pool.members = [{ member with health := h }] ∧
        h.failures = 2 ∧ h.failureRun = 2 ∧ h.healthy = true ∧
        h.lastFailure = some .clientDisconnect := by
  intro backend gone malformed deaf member
  have hhead : finalHead? ({} : ForwardLimits).maxHeaderBytes backend.reader.remaining =
      some (⟨.http11, 204, "No Content", ⟨[]⟩⟩, []) := by
    decide +kernel
  have hempty : (⟨.http11, 204, "No Content", ⟨[]⟩⟩ :
      Response).framing gone.request.isHead = .ok .empty :=
    if_pos (by decide)
  have hfaultless :=
    Peer.faultless_of_empty (show backend.sink.room = none from rfl) hhead hempty
  have hgone : gone.Leaves {} :=
    .closed (fun _ h => by cases h) (show gone.client.reader.defect? .chunked =
      some .shortData by decide +kernel) (fun _ h => by cases h) rfl
  have hmalformed : malformed.SendsMalformed :=
    .malformed (fun _ h => by cases h)
      (show malformed.client.reader.defect? .chunked =
        some (.malformed .unendedChunk) by decide +kernel)
  have hdeaf : deaf.Leaves {} := by
    refine .answer ?_ (show deaf.client.reader.defect? .chunked = none by decide +kernel)
      (show finalHead? _ _ = some (_, [] ++ []) from hhead) hempty (.inl rfl)
        fun hfits => absurd (hfits 9 rfl) (by decide +kernel)
    rintro most -
    exact Nat.zero_le most
  have hall : ∀ c ∈ [gone, malformed, deaf],
      c.backend.Faultless ({} : ForwardLimits).maxHeaderBytes c.request :=
    List.forall_mem_cons.2 ⟨hfaultless, List.forall_mem_cons.2 ⟨hfaultless,
      List.forall_mem_singleton.2 hfaultless⟩⟩
  have hends : ∀ c ∈ [gone, malformed, deaf], c.SendsMalformed ∨ c.Leaves {} :=
    List.forall_mem_cons.2 ⟨.inr hgone,
      List.forall_mem_cons.2 ⟨.inl hmalformed, List.forall_mem_singleton.2 (.inr hdeaf)⟩⟩
  obtain ⟨hrecorded, g, h, hforward, hpool, hblamed⟩ := forwardAll_of_clientEnds
    (show ({ pool := { members := [member] } } : Fleet).pool.members[0]? =
      some member from rfl)
    (show 0 < ({} : ForwardLimits).bufferBytes by decide) hall hends
  -- the first and the last count
  have htwo : [gone, malformed, deaf].countP
      (fun c => c.outcome {} = .failed .clientDisconnect) = 2 := by
    have hfirst := (hrecorded gone hfaultless).2.1.2 hgone
    have hsecond := (hrecorded malformed hfaultless).1.2 hmalformed
    have hthird := (hrecorded deaf hfaultless).2.1.2 hdeaf
    simp [hfirst, hsecond, hthird]
  rw [htwo] at hblamed
  have hrun := hblamed.failureRun (by decide)
  refine ⟨hgone, hmalformed, hdeaf, g, h, hforward, congrArg Pool.members hpool,
    hblamed.failures, hrun, ?_, hblamed.lastFailure (by decide)⟩
  rw [hblamed.healthy (by decide), hrun]
  rfl

/-- A backend that takes everything and answers every request in full is
unhealthy after three clients that are gone within their bodies. -/
theorem forwardAll_gone :
    let backend : Peer :=
      { reader := ⟨[], ⟨[Bytes.ofText "HTTP/1.1 204 No Content\r\n\r\n"], .eof⟩⟩ }
    let gone : Cycle :=
      { client := {}, backend := backend, address := ⟨.loopback, 1, 0⟩
        request := ⟨"POST", "/", .http11, ⟨[⟨"Transfer-Encoding", "chunked"⟩]⟩⟩
        framing := .chunked
        exchange :=
          { id := "r", client := ⟨.loopback, 3, 0⟩, method := "POST", target := "/" } }
    let member : Member := ⟨⟨"a", ⟨.loopback, 1, 0⟩, 1, none, by decide⟩, {}, 0⟩
    gone.request.framing = .ok gone.framing ∧
      (∀ request, backend.Faultless ({} : ForwardLimits).maxHeaderBytes request) ∧
      gone.Leaves {} ∧
      ∃ g, forwardAll {} 0 [gone, gone, gone] { pool := { members := [member] } } = .ok g ∧
        g.pool.members.map (fun m =>
          (m.health.healthy, m.health.failureRun, m.health.failures)) =
            [(false, 3, 3)] := by
  intro backend gone member
  have hhead : finalHead? ({} : ForwardLimits).maxHeaderBytes backend.reader.remaining =
      some (⟨.http11, 204, "No Content", ⟨[]⟩⟩, []) := by
    decide +kernel
  have hfaultless : ∀ request,
      backend.Faultless ({} : ForwardLimits).maxHeaderBytes request := by
    intro request
    refine Peer.faultless_of_empty rfl hhead (if_pos ?_)
    rw [Response.hasNoBody, Bool.or_eq_true, Bool.or_eq_true]
    exact .inl (.inr rfl)
  have hgone : gone.Leaves {} :=
    .closed (fun _ h => by cases h) (show gone.client.reader.defect? .chunked =
      some .openLine by decide +kernel) (fun _ h => by cases h) rfl
  obtain ⟨g, hforward, hpool⟩ := forwardAll_of_member {}
    (show ({ pool := { members := [member] } } : Fleet).pool.members[0]? =
      some member from rfl) [gone, gone, gone]
  refine ⟨rfl, hfaultless, hgone, g, hforward, ?_⟩
  rw [hpool]
  decide +kernel

end Cycle

end Gateway
