import Gateway.Proofs.Sessions
import Gateway.Server.Startup
import Mathlib.Algebra.BigOperators.Group.List.Basic
import Mathlib.Algebra.GroupWithZero.Nat

/-!
# Two accounts of the same requests

What became of a request is written down twice, at different moments: in the
health of its backend, and in the metrics, once it is over. Both tell the same
story.

* `Metrics.total` is what a reader of the metrics asks for: the sum of all
  counters that have a name and some labels; `Exchange.total_measure` says what
  a record adds to it;
* the records that were closed are the measure of both accounts. `Serving.Kept`
  says what is still to be written of them at any moment, `Serving.kept_step`
  that a step keeps it so, and `Serving.kept_run` that any order of steps does;
* `Serving.run_reconciled`: where no request is on its way, the accounts agree.
-/

namespace Gateway

/-! ## Totals -/

/-- The series has the name and, among others, the labels. -/
def Series.answers (name : String) (labels : List (String × String))
    (s : Series) : Bool :=
  s.name == name && labels.all s.labels.contains

/-- The sum of what stands beside the series that have the name and the
labels. -/
def Series.sum (name : String) (labels : List (String × String))
    (entries : List (Series × Nat)) : Nat :=
  ((entries.filter fun entry => entry.1.answers name labels).map Prod.snd).sum

namespace Metrics

variable {name : String} {labels : List (String × String)}

/-- The sum of all counters that have the name and the labels. -/
def total (name : String) (labels : List (String × String))
    (m : Metrics) : Nat :=
  Series.sum name labels m.counters

/-- What is added to a counter is added to the sum. -/
theorem sum_put (s : Series) (n : Nat) (entries : List (Series × Nat)) :
    Series.sum name labels (put s (fun old => old.getD 0 + n) entries) =
      Series.sum name labels entries + if s.answers name labels then n else 0 := by
  induction entries with
  | nil => by_cases hs : s.answers name labels <;> simp [put, Series.sum, hs]
  | cons entry rest ih =>
    obtain ⟨t, old⟩ := entry
    rw [put]
    split
    · rename_i hts
      subst hts
      by_cases ht : t.answers name labels <;>
        simp [Series.sum, ht, Nat.add_right_comm]
    · by_cases ht : t.answers name labels
      · simpa [Series.sum, ht, Nat.add_assoc] using ih
      · simpa [Series.sum, ht] using ih

@[simp]
theorem answers_requests (backend outcome status : String) :
    (requests backend outcome status).answers name labels =
      ("proxy_requests_total" == name && labels.all [("backend", backend),
        ("outcome", outcome), ("status", status)].contains) :=
  rfl

@[simp]
theorem answers_durations (backend : String) :
    (durations backend).answers name labels =
      ("proxy_request_duration_seconds_count" == name &&
        labels.all [("backend", backend)].contains) :=
  rfl

@[simp]
theorem answers_requestBytes (backend : String) :
    (requestBytes backend).answers name labels = ("proxy_bytes_total" == name &&
      labels.all [("backend", backend), ("direction", "request")].contains) :=
  rfl

@[simp]
theorem answers_responseBytes (backend : String) :
    (responseBytes backend).answers name labels = ("proxy_bytes_total" == name &&
      labels.all [("backend", backend), ("direction", "response")].contains) :=
  rfl

@[simp]
theorem answers_noBackend :
    noBackend.answers name labels =
      ("proxy_no_backend_total" == name && labels.all [].contains) :=
  rfl

/-- **Adding to a counter adds to every total that it is part of.** -/
theorem total_add (s : Series) (n : Nat) (m : Metrics) :
    (m.add s n).total name labels =
      m.total name labels + if s.answers name labels then n else 0 :=
  sum_put s n m.counters

end Metrics

namespace Series

variable {name : String} {labels : List (String × String)}

@[simp]
theorem sum_nil : sum name labels [] = 0 :=
  rfl

@[simp]
theorem sum_cons (entry : Series × Nat) (rest : List (Series × Nat)) :
    sum name labels (entry :: rest) = (if entry.1.answers name labels then
      entry.2 else 0) + sum name labels rest := by
  by_cases h : entry.1.answers name labels <;> simp [sum, h]

end Series

namespace Exchange

variable {name : String} {labels : List (String × String)}

/-- What a record adds to counters. -/
def additions (x : Exchange) : List (Series × Nat) :=
  let ofRequest :=
    [(Metrics.requests x.backendName x.outcome.label x.statusLabel, 1),
      (Metrics.durations x.backendName, 1)]
  let ofBytes := match x.backend with
    | none => []
    | some name =>
      [(Metrics.requestBytes name, x.requestBytes),
        (Metrics.responseBytes name, x.responseBytes)]
  if x.outcome = .noBackend then (Metrics.noBackend, 1) :: (ofRequest ++ ofBytes)
  else ofRequest ++ ofBytes

/-- What a record adds to a total. -/
def share (name : String) (labels : List (String × String))
    (x : Exchange) : Nat :=
  Series.sum name labels x.additions

/-- Measuring a record adds this and no more. -/
theorem measure_eq (x : Exchange) (m : Metrics) :
    x.measure m =
      x.additions.foldl (fun m addition => m.add addition.1 addition.2) m := by
  rw [measure, additions]
  by_cases hout : x.outcome = .noBackend
  · rw [if_pos hout, if_pos hout, countBytes]
    cases x.backend <;> rfl
  · rw [if_neg hout, if_neg hout, countBytes]
    cases x.backend <;> rfl

/-- **A record adds its share to a total.** -/
theorem total_measure (x : Exchange) (m : Metrics) :
    (x.measure m).total name labels = m.total name labels + x.share name labels := by
  have key : ∀ (additions : List (Series × Nat)) (m : Metrics),
      (additions.foldl (fun m addition => m.add addition.1 addition.2) m).total name labels =
        m.total name labels + Series.sum name labels additions := by
    intro additions
    induction additions with
    | nil => exact fun m => rfl
    | cons addition additions ih =>
      intro m
      rw [List.foldl_cons, ih, Metrics.total_add, Nat.add_assoc, Series.sum_cons]
  rw [measure_eq, key, share]

theorem share_requests (x : Exchange) :
    x.share "proxy_requests_total" [] = 1 := by
  rw [share, additions]
  cases x.backend <;> split <;> simp

theorem share_outcome (x : Exchange) (backend outcome : String) :
    x.share "proxy_requests_total" [("backend", backend), ("outcome", outcome)] =
      if backend = x.backendName ∧ outcome = x.outcome.label then 1 else 0 := by
  rw [share, additions]
  cases x.backend <;> split <;> simp

theorem share_requestBytes (x : Exchange) (backend : String) :
    x.share "proxy_bytes_total" [("backend", backend), ("direction", "request")] =
      if some backend = x.backend then x.requestBytes else 0 := by
  rw [share, additions]
  cases x.backend <;> split <;> simp

theorem share_responseBytes (x : Exchange) (backend : String) :
    x.share "proxy_bytes_total" [("backend", backend), ("direction", "response")] =
      if some backend = x.backend then x.responseBytes else 0 := by
  rw [share, additions]
  cases x.backend <;> split <;> simp

end Exchange

/-! ## What is still to be written -/

/-- A count of outcomes of some sort in the health of a backend. -/
structure OutcomeTally where
  /-- The count. -/
  count : Health → Nat
  /-- The outcomes that are counted. -/
  sort : Outcome → Bool
  /-- An outcome of this sort is counted once, and no other is. -/
  count_account (t : Thresholds) (outcome : Outcome) (h : Health) :
    count (h.account t outcome) = count h + if sort outcome then 1 else 0

namespace OutcomeTally

/-- All successes. -/
def successes : OutcomeTally where
  count := Health.successes
  sort outcome := outcome == .success
  count_account t outcome h := by
    have haccounted := Health.accounted_account t outcome h
    cases outcome with
    | success => exact haccounted.1
    | failed kind => exact haccounted.2.1
    | _ => exact congrArg Health.successes haccounted

/-- All failures. -/
def failures : OutcomeTally where
  count := Health.failures
  sort outcome := outcome matches .failed _
  count_account t outcome h := by
    have haccounted := Health.accounted_account t outcome h
    cases outcome with
    | success => exact haccounted.2.1
    | failed kind => exact haccounted.1
    | _ => exact congrArg Health.failures haccounted

theorem sum_kinds (outcome : Outcome) :
    (FailureKind.all.map fun kind => if outcome = .failed kind then 1 else 0).sum =
      if failures.sort outcome then 1 else 0 := by
  cases outcome with
  | failed kind => cases kind <;> rfl
  | _ => rfl

end OutcomeTally

/-- The health of the backend of a number, if there is one. -/
def Pool.health? (id : Nat) (p : Pool) : Option Health :=
  p.members[id]?.map Member.health

/-- Where no backend's health changes, it is the same for every number. -/
theorem Server.Quiet.health_eq {s t : Server} (h : s.Quiet t) (id : Nat) :
    t.fleet.pool.health? id = s.fleet.pool.health? id := by
  have hstanding := congrArg (fun standings => (standings[id]?).map Prod.snd) h.members
  rw [List.getElem?_map, List.getElem?_map, Option.map_map,
    Option.map_map] at hstanding
  exact hstanding

/-- A closed record tells of the backend that the request was passed on to; or
of none, and then of none that has had a part in it. -/
def Routed (backends : List Backend) : Option Nat × Exchange → Prop
  | (none, x) =>
    x.backend = none ∧ (x.outcome = .rejected ∨ x.outcome = .noBackend)
  | (some id, x) => ∃ b, backends[id]? = some b ∧ x.backend = some b.name

namespace Session

variable {settings : ServerSettings} {s t : Server} {session next : Session}
  {name : String} {labels : List (String × String)}

/-- Whether a head was accepted whose record is not closed. -/
def unclosed : Session → Nat
  | .accepted _ _ _ | .assigned _ _ _ _ _ _ | .connected _ _ _ _ _ _ => 1
  | _ => 0

/-- Whether an outcome of some sort is still to be recorded for a backend. -/
def unrecorded (sort : Outcome → Bool) (id : Nat) : Session → Nat
  | .ended other f =>
    if some other = some id ∧ sort f.record.outcome then 1 else 0
  | _ => 0

/-- What is still to be added to a total. -/
def unmeasured (name : String) (labels : List (String × String)) : Session → Nat
  | .ended _ f => f.record.share name labels
  | .finishing x _ _ => x.share name labels
  | _ => 0

/-- What weighs nothing before a head is read and after a connection's end
weighs nothing where no request is on its way. -/
theorem weight_of_isIdle (weight : Session → Nat) (h : session.IsIdle)
    (hreading : ∀ client, weight (.reading client) = 0)
    (hclosed : ∀ client, weight (.closed client) = 0) :
    weight session = 0 := by
  cases session with
  | reading client => exact hreading client
  | closed client => exact hclosed client
  | _ => exact h.elim

namespace Advanced

/-- **A head is accepted once and its record closed once.** -/
theorem unclosed_add (h : Advanced settings s session next t) :
    (session.recordsOf next).length + next.unclosed =
      session.unclosed + (session.headsOf settings).length := by
  cases h with
  | left hheads => rw [hheads]; rfl
  | opened hheads => rw [hheads]; rfl
  | measured hidle =>
    rw [weight_of_isIdle unclosed hidle (fun _ => rfl) fun _ => rfl]
    rfl
  | _ => rfl

/-- **A record that is closed tells of its backend.** -/
theorem routed (h : Advanced settings s session next t)
    (hplaced : session.Placed s.fleet.pool.backends) :
    ∀ r ∈ session.recordsOf next, Routed s.fleet.pool.backends r := by
  cases h with
  | unserved hbackend hout =>
    intro r hr
    obtain rfl := List.mem_singleton.1 hr
    exact ⟨hbackend.trans hplaced, hout⟩
  | exchanged hbackend =>
    intro r hr
    obtain rfl := List.mem_singleton.1 hr
    obtain ⟨b, hb, hx⟩ := hplaced
    exact ⟨b, hb, hbackend.trans hx⟩
  | _ => exact fun r hr => absurd hr List.not_mem_nil

/-- **An outcome is still to be recorded for a backend until it is.** -/
theorem unrecorded_add (h : Advanced settings s session next t)
    (tally : OutcomeTally) (id : Nat) {after : Health}
    (hafter : t.fleet.pool.health? id = some after) :
    ∃ before, s.fleet.pool.health? id = some before ∧
      tally.count after + next.unrecorded tally.sort id =
        tally.count before + session.unrecorded tally.sort id +
          ((session.recordsOf next).map fun r =>
          if r.1 = some id ∧ tally.sort r.2.outcome then 1 else 0).sum := by
  have hsame : s.Quiet t → s.fleet.pool.health? id = some after := fun hquiet =>
    (hquiet.health_eq id).symm.trans hafter
  cases h with
  | left => exact ⟨after, hafter, rfl⟩
  | opened _ _ hquiet => exact ⟨after, hsame hquiet, rfl⟩
  | unserved _ _ hquiet =>
    exact ⟨after, hsame hquiet, by simp [recordsOf, unrecorded]⟩
  | picked _ hquiet => exact ⟨after, hsame hquiet, rfl⟩
  | began hquiet => exact ⟨after, hsame hquiet, rfl⟩
  | exchanged _ _ hquiet =>
    exact ⟨after, hsame hquiet, by simp [recordsOf, unrecorded]⟩
  | @recorded _ other f m hm hpool =>
    by_cases hid : id = other
    · subst hid
      rw [Pool.health?, hpool, Pool.withHealth_getElem_self hm] at hafter
      cases hafter
      refine ⟨m.health, by rw [Pool.health?, hm]; rfl, ?_⟩
      simp [tally.count_account, recordsOf, unrecorded]
    · rw [Pool.health?, hpool, Pool.withHealth_getElem_ne _ hid] at hafter
      exact ⟨after, hafter, by simp [recordsOf, unrecorded, Ne.symm hid]⟩
  | measured hidle =>
    refine ⟨after, hafter, ?_⟩
    rw [weight_of_isIdle (unrecorded tally.sort id) hidle (fun _ => rfl) fun _ => rfl]
    rfl
  | rested => exact ⟨after, hafter, rfl⟩

/-- **A closed record is still to be measured until it is.** -/
theorem unmeasured_add (h : Advanced settings s session next t) (name : String)
    (labels : List (String × String)) :
    t.fleet.metrics.total name labels + next.unmeasured name labels =
      s.fleet.metrics.total name labels + session.unmeasured name labels +
        ((session.recordsOf next).map fun r => r.2.share name labels).sum := by
  have htotal : ∀ {t : Server}, t.fleet.metrics.counters = s.fleet.metrics.counters →
      t.fleet.metrics.total name labels = s.fleet.metrics.total name labels :=
    congrArg (Series.sum name labels)
  cases h with
  | left => rfl
  | opened _ _ hquiet => rw [htotal hquiet.counters]; rfl
  | unserved _ _ hquiet =>
    rw [htotal hquiet.counters]; simp [recordsOf, unmeasured]
  | picked _ hquiet => rw [htotal hquiet.counters]; rfl
  | began hquiet => rw [htotal hquiet.counters]; rfl
  | exchanged _ _ hquiet =>
    rw [htotal hquiet.counters]; simp [recordsOf, unmeasured]
  | recorded _ _ hcounters => rw [htotal hcounters]; rfl
  | @measured x client next again hidle =>
    have hmeasured : (s.finish x).fleet.metrics.total name labels =
        s.fleet.metrics.total name labels + x.share name labels :=
      x.total_measure s.fleet.metrics
    rw [weight_of_isIdle (unmeasured name labels) hidle (fun _ => rfl)
      fun _ => rfl, hmeasured]
    rfl
  | rested => rfl

end Advanced

end Session

/-- What is reported of new backends is shown by gauges, and no counter. -/
theorem Config.counters_reportAll (p : Pool) : (reportAll p).counters = [] := by
  have hset : ∀ (backends : List Backend) (m : Metrics),
      (backends.foldl (fun m b => m.set (Metrics.health b.name) 1) m).counters =
        m.counters := by
    intro backends
    induction backends with
    | nil => exact fun m => rfl
    | cons b backends ih => exact fun m => ih _
  exact hset p.backends {}

namespace Serving

variable {settings : ServerSettings} {w : Serving} {i : Nat}

/-- The sum of what the connections weigh. -/
def pending (weight : Session → Nat) (w : Serving) : Nat :=
  (w.sessions.map fun client => weight client.2).sum

/-- The sum of what the closed records weigh. -/
def due (weight : Option Nat × Exchange → Nat) (w : Serving) : Nat :=
  (w.records.map weight).sum

/-- Every connection has a record that names the backend that was picked. -/
def Placed (w : Serving) : Prop :=
  ∀ client ∈ w.sessions, client.2.Placed w.server.fleet.pool.backends

/-- What one step does: nothing, or one connection goes on, and no other
does. -/
inductive Stepped (settings : ServerSettings) (w t : Serving) : Prop where
  /-- There is no such connection. -/
  | idle : t = w → Stepped settings w t
  /-- A connection goes on. -/
  | went {session next : Session} : session.Placed w.server.fleet.pool.backends →
      session.Advanced settings w.server next t.server →
      t.heads = w.heads ++ session.headsOf settings →
      t.records = w.records ++ session.recordsOf next →
      (∀ weight, t.pending weight + weight session = w.pending weight + weight next) →
      (∀ client ∈ t.sessions, client ∈ w.sessions ∨ client.2 = next) →
      Stepped settings w t

/-- One of some numbers changes, and so does their sum. -/
theorem sum_set_add {a : Nat} {ns : List Nat} {i : Nat} (h : ns[i]? = some a)
    (b : Nat) :
    (ns.set i b).sum + a = ns.sum + b := by
  induction ns generalizing i with
  | nil => cases h
  | cons n ns ih =>
    cases i with
    | zero =>
      cases h
      rw [List.set_cons_zero, List.sum_cons, List.sum_cons, Nat.add_right_comm,
        Nat.add_comm b, Nat.add_right_comm]
    | succ i =>
      rw [List.set_cons_succ, List.sum_cons, List.sum_cons, Nat.add_assoc, ih h,
        Nat.add_assoc]

/-- **A step is one of one connection.** -/
theorem stepped_step (settings : ServerSettings) (i : Nat) (h : w.Placed) :
    Stepped settings w (w.step settings i) := by
  cases hi : w.sessions[i]? with
  | none => exact .idle (by rw [step, hi])
  | some client =>
    obtain ⟨address, session⟩ := client
    have hplaced := h _ (List.mem_of_getElem? hi)
    have hadvanced := Session.advanced_advance settings address hplaced
    have hstep : w.step settings i =
        { server := (session.advance settings address w.server).2
          sessions := w.sessions.set i (address,
            (session.advance settings address w.server).1)
          heads := w.heads ++ session.headsOf settings
          records := w.records ++ session.recordsOf
            (session.advance settings address w.server).1 } := by
      rw [step, hi]
    rw [hstep]
    refine .went hplaced hadvanced rfl rfl (fun weight => ?_) fun client hclient => ?_
    · rw [pending, pending, List.map_set]
      exact sum_set_add (by rw [List.getElem?_map, hi]; rfl) _
    · rcases List.mem_or_eq_of_mem_set hclient with hclient | rfl
      · exact .inl hclient
      · exact .inr rfl

/-- Both accounts, and how far they are: what is in them and what is still to be
written is what is due. -/
structure Kept (backends : List Backend) (w : Serving) : Prop where
  /-- The backends are the same. -/
  backends_eq : w.server.fleet.pool.backends = backends
  /-- Every connection has a record of its backend. -/
  placed : w.Placed
  /-- So has every closed record. -/
  routed : ∀ r ∈ w.records, Routed backends r
  /-- Every head has a record that is closed or will be. -/
  heads : w.records.length + w.pending Session.unclosed = w.heads.length
  /-- Every closed record is in the health of its backend or will be. -/
  health : ∀ (tally : OutcomeTally) (id : Nat) (h : Health),
    w.server.fleet.pool.health? id = some h →
    tally.count h + w.pending (Session.unrecorded tally.sort id) =
      tally.count {} + w.due fun r =>
        if r.1 = some id ∧ tally.sort r.2.outcome then 1 else 0
  /-- Every closed record is in the metrics or will be. -/
  metrics : ∀ name labels, w.server.fleet.metrics.total name labels +
    w.pending (Session.unmeasured name labels) = w.due fun r => r.2.share name labels

/-- **A step keeps both accounts.** -/
theorem kept_step {backends : List Backend} (i : Nat) (h : w.Kept backends) :
    (w.step settings i).Kept backends := by
  cases stepped_step settings i h.placed with
  | idle hidle => rwa [hidle]
  | @went session next hplaced hadvanced hheads hrecords hpending hsessions =>
    have hbackends := hadvanced.backends_eq
    have hdue : ∀ weight, (w.step settings i).due weight =
        w.due weight + ((session.recordsOf next).map weight).sum := by
      intro weight
      rw [due, hrecords, List.map_append, List.sum_append, due]
    constructor
    case backends_eq => exact hbackends.trans h.backends_eq
    case placed =>
      intro client hclient
      rw [hbackends]
      rcases hsessions client hclient with hold | hnext
      · exact h.placed client hold
      · rw [hnext]
        exact hadvanced.placed hplaced
    case routed =>
      intro r hr
      rw [hrecords, List.mem_append] at hr
      rcases hr with hold | hnew
      · exact h.routed r hold
      · exact h.backends_eq ▸ hadvanced.routed hplaced r hnew
    case heads =>
      have hadd := hadvanced.unclosed_add
      have hkept := h.heads
      have hmoved := hpending Session.unclosed
      rw [hheads, hrecords, List.length_append, List.length_append]
      omega
    case health =>
      intro tally id after hafter
      obtain ⟨before, hbefore, hadd⟩ := hadvanced.unrecorded_add tally id hafter
      have hkept := h.health tally id before hbefore
      have hmoved := hpending (Session.unrecorded tally.sort id)
      rw [hdue]
      omega
    case metrics =>
      intro name labels
      have hadd := hadvanced.unmeasured_add name labels
      have hkept := h.metrics name labels
      have hmoved := hpending (Session.unmeasured name labels)
      rw [hdue]
      omega

/-- **Any order of steps keeps both accounts.** -/
theorem kept_run {backends : List Backend} (order : List Nat)
    (h : w.Kept backends) :
    (run settings order w).Kept backends := by
  induction order generalizing w with
  | nil => exact h
  | cons i order ih => exact ih (kept_step i h)

theorem pending_of_idle (weight : Session → Nat)
    (h : ∀ client ∈ w.sessions, client.2.IsIdle)
    (hreading : ∀ client, weight (.reading client) = 0)
    (hclosed : ∀ client, weight (.closed client) = 0) :
    w.pending weight = 0 := by
  rw [pending, List.sum_eq_zero_iff_forall_eq_nat]
  intro n hn
  obtain ⟨⟨address, session⟩, hclient, rfl⟩ := List.mem_map.1 hn
  exact Session.weight_of_isIdle weight (h _ hclient) hreading hclosed

/-- A server that has just started has nothing in its accounts, and nothing is
due. -/
theorem kept_arrive (backends : List Backend) (t : Thresholds)
    (answers : List (List Dialed)) (clients : List (SocketAddress × Peer)) :
    let pool := Pool.ofBackends backends t
    (arrive clients
      { fleet := ⟨pool, Config.reportAll pool⟩, answers := answers }).Kept backends := by
  intro pool
  have hidle : ∀ client ∈
      (arrive clients
        { fleet := ⟨pool, Config.reportAll pool⟩, answers := answers }).sessions,
      client.2.IsIdle := by
    intro client hclient
    obtain ⟨_, -, rfl⟩ := List.mem_map.1 hclient
    trivial
  constructor
  case backends_eq =>
    change (backends.map _).map _ = _
    rw [List.map_map]
    exact List.map_id _
  case placed =>
    intro client hclient
    obtain ⟨_, -, rfl⟩ := List.mem_map.1 hclient
    trivial
  case routed => exact fun r hr => absurd hr List.not_mem_nil
  case heads =>
    rw [pending_of_idle Session.unclosed hidle (fun _ => rfl) fun _ => rfl]
    rfl
  case health =>
    intro tally id h hh
    rw [pending_of_idle (Session.unrecorded tally.sort id) hidle
      (fun _ => rfl) fun _ => rfl]
    rw [Pool.health?, Option.map_eq_some_iff] at hh
    obtain ⟨m, hm, rfl⟩ := hh
    obtain ⟨b, -, rfl⟩ := Pool.member_of_ofBackends hm
    rfl
  case metrics =>
    intro name labels
    rw [pending_of_idle (Session.unmeasured name labels) hidle
      (fun _ => rfl) fun _ => rfl]
    change Series.sum name labels (Config.reportAll pool).counters + 0 = 0
    rw [Config.counters_reportAll]
    rfl

/-! ## When no request is on its way -/

/-- The records of the requests that were passed on to a backend. -/
def routedTo (id : Nat) (w : Serving) : List Exchange :=
  (w.records.filter fun r => r.1 = some id).map Prod.snd

/-- **The accounts agree.** What the metrics say about a backend is what its
health says and what its records say; and every head that was accepted has one
record, which was measured once. -/
structure Reconciled (w : Serving) : Prop where
  /-- The successes of a backend are the requests that the metrics count as its
  successes. -/
  successes : ∀ (id : Nat) (m : Member), w.server.fleet.pool.members[id]? = some m →
    m.health.successes = w.server.fleet.metrics.total "proxy_requests_total"
      [("backend", m.backend.name), ("outcome", Outcome.success.label)]
  /-- Its failures are the requests that the metrics count as its failures, of
  all kinds. -/
  failures : ∀ (id : Nat) (m : Member), w.server.fleet.pool.members[id]? = some m →
    m.health.failures = (FailureKind.all.map fun kind =>
      w.server.fleet.metrics.total "proxy_requests_total"
        [("backend", m.backend.name), ("outcome", kind.label)]).sum
  /-- The bytes that the metrics count for it are those of the bodies of its
  requests. -/
  requestBytes : ∀ (id : Nat) (m : Member), w.server.fleet.pool.members[id]? = some m →
    w.server.fleet.metrics.total "proxy_bytes_total"
      [("backend", m.backend.name), ("direction", "request")] =
        ((w.routedTo id).map Exchange.requestBytes).sum
  /-- So are those of the bodies of its responses. -/
  responseBytes : ∀ (id : Nat) (m : Member),
    w.server.fleet.pool.members[id]? = some m →
    w.server.fleet.metrics.total "proxy_bytes_total"
      [("backend", m.backend.name), ("direction", "response")] =
        ((w.routedTo id).map Exchange.responseBytes).sum
  /-- The metrics count the heads that were accepted. -/
  requests : w.server.fleet.metrics.total "proxy_requests_total" [] = w.heads.length
  /-- Each of them has one record. -/
  records : w.records.length = w.heads.length

theorem due_routedTo (id : Nat) (f : Exchange → Nat) (w : Serving) :
    (w.due fun r => if r.1 = some id then f r.2 else 0) =
      ((w.routedTo id).map f).sum := by
  rw [due, routedTo]
  induction w.records with
  | nil => rfl
  | cons r records ih => by_cases hr : r.1 = some id <;> simp [hr, ih]

theorem sum_due {α : Type} (weight : α → Option Nat × Exchange → Nat)
    (reasons : List α) (w : Serving) :
    (reasons.map fun reason => w.due (weight reason)).sum =
      w.due fun r => (reasons.map fun reason => weight reason r).sum := by
  induction reasons with
  | nil => exact (List.sum_map_zero).symm
  | cons reason reasons ih =>
    rw [List.map_cons, List.sum_cons, ih]
    simp only [due, List.map_cons, List.sum_cons, List.sum_map_add]

end Serving

theorem Outcome.label_inj {o other : Outcome} :
    o.label = other.label ↔ o = other := by
  refine ⟨fun h => ?_, congrArg label⟩
  have hword := ofLabel?_label o
  rw [h, ofLabel?_label] at hword
  exact (Option.some.inj hword).symm

namespace Routed

variable {backends : List Backend} {id : Nat} {b : Backend}
  {r : Option Nat × Exchange}

/-- Where no two backends have one name, a record names the backend that the
request was passed on to. -/
theorem backend_iff (hr : Routed backends r)
    (hnames : (backends.map Backend.name).Nodup) (hb : backends[id]? = some b) :
    some b.name = r.2.backend ↔ r.1 = some id := by
  obtain ⟨_ | other, x⟩ := r
  · rw [hr.1]
    exact ⟨nofun, nofun⟩
  · obtain ⟨c, hc, hx⟩ := hr
    dsimp only at hx ⊢
    rw [hx, Option.some_inj, Option.some_inj]
    constructor
    · intro hname
      have hlt := (List.getElem?_eq_some_iff.1 hc).1
      refine (List.getElem?_inj (by rwa [List.length_map]) hnames).1 ?_
      rw [List.getElem?_map, List.getElem?_map, hb, hc]
      exact congrArg some hname.symm
    · rintro rfl
      rw [Option.some.inj (hb.symm.trans hc)]

/-- Then a record with an outcome that a backend has a part in counts for one
backend and outcome. -/
theorem share_outcome (hr : Routed backends r)
    (hnames : (backends.map Backend.name).Nodup) (hb : backends[id]? = some b)
    (outcome : Outcome) (hrejected : outcome ≠ .rejected)
    (hserved : outcome ≠ .noBackend) :
    r.2.share "proxy_requests_total" [("backend", b.name), ("outcome", outcome.label)] =
      if r.1 = some id ∧ r.2.outcome = outcome then 1 else 0 := by
  have hiff := hr.backend_iff hnames hb
  simp only [Exchange.share_outcome, Outcome.label_inj]
  obtain ⟨_ | other, x⟩ := r
  · rw [if_neg, if_neg nofun]
    rintro ⟨-, rfl⟩
    exact hr.2.elim hrejected hserved
  · obtain ⟨c, -, hx⟩ := hr
    dsimp only at hx hiff ⊢
    rw [hx, Option.some_inj] at hiff
    simp only [Exchange.backendName, hx, Option.getD_some, hiff, eq_comm]

end Routed

namespace Serving

variable {backends : List Backend} {w : Serving} {id : Nat} {b : Backend}

theorem due_congr {weight other : Option Nat × Exchange → Nat}
    (h : ∀ r ∈ w.records, weight r = other r) :
    w.due weight = w.due other :=
  congrArg List.sum (List.map_congr_left h)

/-- **Where no request is on its way, the accounts agree.** -/
theorem Kept.reconciled (h : w.Kept backends)
    (hnames : (backends.map Backend.name).Nodup)
    (hidle : ∀ client ∈ w.sessions, client.2.IsIdle) : w.Reconciled := by
  have hbackend : ∀ {id : Nat} {m : Member},
      w.server.fleet.pool.members[id]? = some m →
      backends[id]? = some m.backend := by
    intro id m hm
    rw [← h.backends_eq, Pool.backends, List.getElem?_map, hm]
    rfl
  have htotal : ∀ name labels,
      w.server.fleet.metrics.total name labels =
        w.due fun r => r.2.share name labels := by
    intro name labels
    have hnone := pending_of_idle (Session.unmeasured name labels) hidle
      (fun _ => rfl) fun _ => rfl
    simpa only [hnone, Nat.add_zero] using h.metrics name labels
  have hhealth : ∀ (tally : OutcomeTally) {id : Nat} {m : Member},
      w.server.fleet.pool.members[id]? = some m →
      tally.count m.health =
        tally.count {} + w.due fun r =>
          if r.1 = some id ∧ tally.sort r.2.outcome then 1 else 0 := by
    intro tally id m hm
    have hnone := pending_of_idle (Session.unrecorded tally.sort id) hidle
      (fun _ => rfl) fun _ => rfl
    simpa only [hnone, Nat.add_zero] using
      h.health tally id m.health (by rw [Pool.health?, hm]; rfl)
  have hrecords : w.records.length = w.heads.length := by
    have hnone := pending_of_idle Session.unclosed hidle (fun _ => rfl) fun _ => rfl
    simpa only [hnone, Nat.add_zero] using h.heads
  constructor
  case successes =>
    intro id m hm
    rw [htotal]
    refine ((hhealth .successes hm).trans (Nat.zero_add _)).trans
      (due_congr fun r hr => ?_)
    rw [(h.routed r hr).share_outcome hnames (hbackend hm) .success (by simp) (by simp)]
    simp [OutcomeTally.successes]
  case failures =>
    intro id m hm
    simp only [htotal]
    rw [sum_due]
    refine ((hhealth .failures hm).trans (Nat.zero_add _)).trans
      (due_congr fun r hr => ?_)
    have hkind : ∀ kind : FailureKind, r.2.share "proxy_requests_total"
        [("backend", m.backend.name), ("outcome", kind.label)] =
          if r.1 = some id ∧ r.2.outcome = .failed kind then 1 else 0 := fun kind =>
      (h.routed r hr).share_outcome hnames (hbackend hm) (.failed kind)
        (by simp) (by simp)
    simp only [hkind]
    by_cases hid : r.1 = some id
    · simp only [hid, true_and, OutcomeTally.sum_kinds]
    · simp [hid]
  case requestBytes =>
    intro id m hm
    rw [htotal, ← due_routedTo]
    refine due_congr fun r hr => ?_
    rw [Exchange.share_requestBytes]
    simp only [(h.routed r hr).backend_iff hnames (hbackend hm)]
  case responseBytes =>
    intro id m hm
    rw [htotal, ← due_routedTo]
    refine due_congr fun r hr => ?_
    rw [Exchange.share_responseBytes]
    simp only [(h.routed r hr).backend_iff hnames (hbackend hm)]
  case requests =>
    rw [htotal, ← hrecords]
    simp only [Exchange.share_requests]
    simp [due]
  case records => exact hrecords

/-- **The registry and the metrics agree**, whatever clients there are, whatever
the backends answer and in whatever order things happen: when no request is on
its way, a backend's health counts what the metrics count, the metrics count the
bytes of the requests that were passed on to it, and every head that was
accepted is counted once. Serving the clients one after the other is one such
order, at whose end none is on its way. -/
theorem run_reconciled (settings : ServerSettings) {backends : List Backend}
    (hnames : (backends.map Backend.name).Nodup) (t : Thresholds)
    (answers : List (List Dialed)) (clients : List (SocketAddress × Peer)) :
    let pool := Pool.ofBackends backends t
    let server : Server :=
      { fleet := ⟨pool, Config.reportAll pool⟩, answers := answers }
    (∀ order, (∀ client ∈ (run settings order (arrive clients server)).sessions,
      client.2.IsIdle) →
        (run settings order (arrive clients server)).Reconciled) ∧
      ∃ order, (run settings order (arrive clients server)).server =
        (server.serveAll settings clients).2 ∧
        (run settings order (arrive clients server)).sessions.map Prod.snd =
          (server.serveAll settings clients).1.map .closed ∧
        (run settings order (arrive clients server)).Reconciled := by
  intro pool server
  have hkept : ∀ order,
      (run settings order (arrive clients server)).Kept backends := fun order =>
    kept_run order (kept_arrive backends t answers clients)
  refine ⟨fun order hidle => (hkept order).reconciled hnames hidle, ?_⟩
  obtain ⟨order, hserver, hclosed⟩ := exists_run_serveAll settings clients server
  refine ⟨order, hserver, hclosed,
    (hkept order).reconciled hnames fun client hclient => ?_⟩
  have hmem := List.mem_map_of_mem (f := Prod.snd) hclient
  rw [hclosed] at hmem
  obtain ⟨_, -, heq⟩ := List.mem_map.1 hmem
  exact heq ▸ trivial

/-- Two clients at the same time, of which one backend answers the first and the
other leaves the second without an answer: both heads are counted, as a success
and as a failure. -/
theorem run_reconciled_interleaved :
    let backends : List Backend :=
      [⟨"a", ⟨.loopback, 1, 0⟩, 1, none, by decide⟩,
        ⟨"b", ⟨.loopback, 2, 0⟩, 1, none, by decide⟩]
    let answer := "HTTP/1.1 200 OK\r\nContent-Length: 2\r\n\r\nok"
    let answers : List (List Dialed) :=
      [[.connected { reader := ⟨[], ⟨[Bytes.ofText answer], .eof⟩⟩ }], []]
    let client : Peer :=
      { reader := ⟨[], ⟨[Bytes.ofText "GET / HTTP/1.1\r\nHost: a\r\n\r\n"], .eof⟩⟩ }
    let server : Server :=
      { fleet := ⟨.ofBackends backends {},
          Config.reportAll (.ofBackends backends {})⟩, answers := answers }
    let w := run { requestId := toString } [0, 1, 0, 1, 1, 0, 0, 1, 0, 1, 1,
      0, 1, 0, 0, 1]
      (arrive [(⟨.loopback, 3, 0⟩, client), (⟨.loopback, 4, 0⟩, client)] server)
    (backends.map Backend.name).Nodup ∧
      (∀ client ∈ w.sessions, client.2.IsIdle) ∧ w.heads.length = 2 ∧
      (w.server.fleet.pool.members.map fun m =>
        (m.health.successes, m.health.failures)) = [(1, 0), (0, 1)] ∧
      w.Reconciled := by
  intro backends answer answers client server w
  have hnames : (backends.map Backend.name).Nodup := by decide
  have hrun : (∀ client ∈ w.sessions, client.2.IsIdle) ∧ w.heads.length = 2 ∧
      (w.server.fleet.pool.members.map fun m =>
        (m.health.successes, m.health.failures)) = [(1, 0), (0, 1)] := by
    decide +kernel
  obtain ⟨hidle, hheads, htallies⟩ := hrun
  exact ⟨hnames, hidle, hheads, htallies, (run_reconciled _ hnames {} answers _).1 _ hidle⟩

end Serving

end Gateway
