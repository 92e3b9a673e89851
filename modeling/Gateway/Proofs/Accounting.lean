import Gateway.Exchange.Forward

/-!
# Accounts of forwarded exchanges

Whatever becomes of an exchange, by whichever of its exits, the fleet is left as
it was but for one record of the backend's health.

* `Health.Accounted` says what one outcome does to the health of a backend, and
  `Health.account` does it;
* `Fleet.endConnection_beginConnection`: the connection that is counted at the
  start is taken back;
* `Fleet.recordOutcome_spec`: an outcome is recorded once, in the health of one
  member;
* `Exchange.forward_accounted`: both of a whole exchange.
-/

namespace Gateway

/-! ## Health -/

/-- What the outcome of an exchange does to the health of its backend: a success
and a failure are counted once, in their own counter, and any other outcome says
nothing about the backend. -/
def Health.Accounted (outcome : Outcome) (before after : Health) : Prop :=
  match outcome with
  | .success =>
    after.successes = before.successes + 1 ∧ after.failures = before.failures ∧
      after.lastFailure = before.lastFailure
  | .failed kind =>
    after.failures = before.failures + 1 ∧ after.successes = before.successes ∧
      after.lastFailure = some kind
  | .pending | .noBackend | .rejected => after = before

namespace Health

/-- The health of a backend after an exchange with an outcome. -/
def account (t : Thresholds) (outcome : Outcome) (h : Health) : Health :=
  match outcome with
  | .success => (h.succeed t).2
  | .failed kind => (h.fail t kind).2
  | .pending | .noBackend | .rejected => h

/-- **An outcome is counted once**, as what it is. -/
theorem accounted_account (t : Thresholds) (outcome : Outcome) (h : Health) :
    h.Accounted outcome (h.account t outcome) := by
  cases outcome with
  | success =>
    rw [account, succeed]
    split <;> exact ⟨rfl, rfl, rfl⟩
  | failed kind =>
    rw [account, fail]
    split <;> exact ⟨rfl, rfl, rfl⟩
  | pending => rfl
  | noBackend => rfl
  | rejected => rfl

/-- A failure makes a backend unhealthy that was not, if the run of failures is
long enough then. -/
theorem healthy_fail_eq (t : Thresholds) (kind : FailureKind) (h : Health) :
    (h.fail t kind).2.healthy =
      (h.healthy && decide ((h.fail t kind).2.failureRun < t.unhealthy)) := by
  rw [(runs_fail t kind h).2, Health.fail]
  split
  · rename_i hlong
    rw [Bool.and_eq_true, decide_eq_true_eq] at hlong
    rw [decide_eq_false (show ¬ extend h.failureRun < t.unhealthy
      from Nat.not_lt.2 hlong.2), Bool.and_false]
  · rename_i hshort
    cases hhealthy : h.healthy with
    | false => exact hhealthy
    | true =>
      rw [hhealthy, Bool.true_and, decide_eq_true_eq, Nat.not_le] at hshort
      rw [decide_eq_true (show extend h.failureRun < t.unhealthy from hshort)]
      exact hhealthy

/-- A success makes a backend healthy that was not, if the run of successes is
long enough then. -/
theorem healthy_succeed_eq (t : Thresholds) (h : Health) :
    (h.succeed t).2.healthy =
      (h.healthy || decide (t.healthy ≤ (h.succeed t).2.successRun)) := by
  rw [(runs_succeed t h).2, Health.succeed]
  split
  · rename_i hlong
    rw [Bool.and_eq_true, decide_eq_true_eq] at hlong
    rw [decide_eq_true (show t.healthy ≤ extend h.successRun from hlong.2),
      Bool.or_true]
  · rename_i hshort
    cases hhealthy : h.healthy with
    | true => exact hhealthy
    | false =>
      rw [hhealthy, Bool.not_false, Bool.true_and, decide_eq_true_eq] at hshort
      rw [decide_eq_false (show ¬ t.healthy ≤ extend h.successRun from hshort)]
      exact hhealthy

end Health

/-! ## Pools -/

namespace Pool

variable {id : Nat} {p : Pool} {m : Member}

theorem update_of_member {α : Type} (f : Member → α × Member)
    (hm : p.members[id]? = some m) :
    p.update id f = .ok ((f m).1, { p with members := p.members.set id (f m).2 }) := by
  rw [update, hm]

/-- The pool in which one member has another health. -/
def withHealth (p : Pool) (id : Nat) (m : Member) (h : Health) : Pool :=
  { p with members := p.members.set id { m with health := h } }

theorem withHealth_self (hm : p.members[id]? = some m) :
    p.withHealth id m m.health = p := by
  obtain ⟨hlt, rfl⟩ := List.getElem?_eq_some_iff.1 hm
  rw [withHealth, List.set_getElem_self]

theorem withHealth_getElem_self (hm : p.members[id]? = some m) (h : Health) :
    (p.withHealth id m h).members[id]? = some { m with health := h } := by
  have hlt := (List.getElem?_eq_some_iff.1 hm).1
  simp [withHealth, hlt]

theorem withHealth_getElem_ne {other : Nat} (h : Health) (hne : other ≠ id) :
    (p.withHealth id m h).members[other]? = p.members[other]? := by
  simp [withHealth, Ne.symm hne]

theorem map_members_set {α : Type} {f : Member → α} {n : Member}
    (hm : p.members[id]? = some m) (hf : f n = f m) :
    (p.members.set id n).map f = p.members.map f := by
  obtain ⟨hlt, rfl⟩ := List.getElem?_eq_some_iff.1 hm
  rw [List.map_set, hf, ← List.getElem_map f (h := by simpa using hlt),
    List.set_getElem_self]

theorem map_members_withHealth {α : Type} {f : Member → α}
    (hf : ∀ m h, f { m with health := h } = f m) (hm : p.members[id]? = some m)
    (h : Health) : (p.withHealth id m h).members.map f = p.members.map f :=
  map_members_set hm (hf m h)

theorem updateHealth_of_member
    (f : Thresholds → Health → Option Transition × Health)
    (hm : p.members[id]? = some m) :
    p.updateHealth id f = .ok ((f p.thresholds m.health).1,
      p.withHealth id m (f p.thresholds m.health).2) :=
  update_of_member _ hm

/-- A connection that begins and ends leaves the pool as it was. -/
theorem endConnection_beginConnection (hm : p.members[id]? = some m) :
    ∃ q, p.beginConnection id = .ok (m.active + 1, q) ∧
      q.endConnection id = .ok (some m.active, p) := by
  refine ⟨_, update_of_member _ hm, ?_⟩
  obtain ⟨hlt, rfl⟩ := List.getElem?_eq_some_iff.1 hm
  rw [endConnection, update_of_member _ (List.getElem?_set_self hlt)]
  simp only [List.set_set]
  exact congrArg (fun q => Except.ok (some _, q)) (withHealth_self hm)

end Pool

/-! ## Fleets -/

namespace Fleet

variable {id : Nat} {f : Fleet} {m : Member}

/-- A connection that begins and ends leaves the pool of a fleet as it was. -/
theorem endConnection_beginConnection (hm : f.pool.members[id]? = some m) :
    ∃ begun ended, f.beginConnection id = .ok (m.active + 1, begun) ∧
      begun.endConnection id = .ok ended ∧
      ended.pool = f.pool := by
  obtain ⟨q, hbegin, hend⟩ := Pool.endConnection_beginConnection hm
  have hbegun : ∃ metrics, f.beginConnection id = .ok (m.active + 1, ⟨q, metrics⟩) :=
    ⟨_, by rw [beginConnection, hbegin]⟩
  obtain ⟨metrics, hbegun⟩ := hbegun
  have hended : ∃ ended, Fleet.endConnection id ⟨q, metrics⟩ = .ok ended ∧
      ended.pool = f.pool :=
    ⟨_, by rw [endConnection, hend], by rfl⟩
  obtain ⟨ended, hended, hpool⟩ := hended
  exact ⟨_, ended, hbegun, hended, hpool⟩

/-- **An outcome is recorded once**, in the health of its backend. -/
theorem recordOutcome_spec (hm : f.pool.members[id]? = some m)
    (outcome : Outcome) :
    ∃ t g, f.recordOutcome id outcome = .ok (t, g) ∧
      g.pool = f.pool.withHealth id m (m.health.account f.pool.thresholds outcome) := by
  cases outcome with
  | success =>
    have h := Pool.updateHealth_of_member (fun t => Health.succeed t) hm
    exact ⟨_, _,
      by rw [recordOutcome, recordSuccess, record, Pool.recordSuccess, h], by rfl⟩
  | failed kind =>
    have h := Pool.updateHealth_of_member (fun t => Health.fail t kind) hm
    exact ⟨_, _,
      by rw [recordOutcome, recordFailure, record, Pool.recordFailure, h], by rfl⟩
  | pending => exact ⟨none, f, rfl, (Pool.withHealth_self hm).symm⟩
  | noBackend => exact ⟨none, f, rfl, (Pool.withHealth_self hm).symm⟩
  | rejected => exact ⟨none, f, rfl, (Pool.withHealth_self hm).symm⟩

end Fleet

/-! ## Exchanges -/

namespace Exchange

variable (limits : ForwardLimits) (address : SocketAddress) (dialed : Dialed)
  (request : Request) (framing : Framing) (client : Peer) (x : Exchange)
  {id : Nat} {fleet : Fleet} {m : Member}

theorem keepAlive_attempt :
    (attempt limits address dialed request framing client x).2.keepAlive = false := by
  unfold attempt
  split
  · rfl
  · rfl
  · split <;> rfl

/-- A failure is settled with its outcome, and changes nothing about the backend
nor whether the client's connection goes on. -/
theorem outcome_settle (e : ExchangeError) (f : Forwarded) :
    (settle e f).record.outcome = e.outcome ∧ (settle e f).keepAlive = f.keepAlive ∧
      (settle e f).backend = f.backend := by
  unfold settle
  split
  · exact ⟨rfl, rfl, rfl⟩
  · exact ⟨rfl, rfl, rfl⟩

/-- **A record is closed** with a success, a failure or a rejection. -/
theorem outcome_conclude (a : Except ExchangeError Bool × Forwarded) :
    (conclude a).record.outcome = .success ∨ (conclude a).record.outcome = .rejected ∨
      ∃ kind, (conclude a).record.outcome = .failed kind := by
  obtain ⟨⟨e⟩ | ⟨reuse⟩, f⟩ := a
  · rw [conclude, (outcome_settle e f).1]
    exact .inr e.outcome_cases
  · exact .inl rfl

theorem outcome_of_keepAlive {a : Except ExchangeError Bool × Forwarded}
    (ha : a.2.keepAlive = false) (h : (conclude a).keepAlive = true) :
    (conclude a).record.outcome = .success := by
  obtain ⟨⟨e⟩ | ⟨reuse⟩, f⟩ := a
  · rw [conclude, (outcome_settle e f).2.1, ha] at h
    cases h
  · rfl

/-- A backend that is there is passed the request, and its health alone is
changed, by the outcome. -/
theorem forward_of_member (hm : fleet.pool.members[id]? = some m) :
    ∃ f g, conclude (attempt limits address dialed request framing client x) = f ∧
      x.forward limits id address dialed request framing client fleet = .ok (f, g) ∧
      g.pool = fleet.pool.withHealth id m
        (m.health.account fleet.pool.thresholds f.record.outcome) := by
  obtain ⟨begun, ended, hbegin, hend, hpool⟩ :=
    Fleet.endConnection_beginConnection hm
  -- the outcome is recorded in the pool that the end of the connection has put
  -- back
  rw [← hpool] at hm ⊢
  obtain ⟨t, g, hrecord, hg⟩ := Fleet.recordOutcome_spec hm
    (conclude (attempt limits address dialed request framing client x)).record.outcome
  refine ⟨_, g, rfl, ?_, hg⟩
  simp only [forward, hbegin, hend, hrecord]

/-- **Every exchange is accounted once.** Whatever comes of the connection and
whatever either side does on it, the exchange ends with a success, a failure or
a rejection, which is recorded once in the health of its backend. Nothing else
is left of it in the pool: every member has the connections it had, every other
member is as it was, and so is the cursor. The client's connection goes on after
a success only. -/
theorem forward_accounted (hm : fleet.pool.members[id]? = some m) :
    ∃ f g h, x.forward limits id address dialed request framing client fleet =
      .ok (f, g) ∧
      (f.record.outcome = .success ∨ f.record.outcome = .rejected ∨
        ∃ kind, f.record.outcome = .failed kind) ∧
      g.pool.members[id]? = some { m with health := h } ∧
      m.health.Accounted f.record.outcome h ∧
      (∀ other, other ≠ id → g.pool.members[other]? = fleet.pool.members[other]?) ∧
      g.pool.members.map (·.active) = fleet.pool.members.map (·.active) ∧
      g.pool.cursor = fleet.pool.cursor ∧
      (f.keepAlive = true → f.record.outcome = .success) := by
  obtain ⟨f, g, rfl, hforward, hg⟩ :=
    forward_of_member limits address dialed request framing client x hm
  refine ⟨_, g, _, hforward, outcome_conclude _, ?_,
    Health.accounted_account fleet.pool.thresholds _ _, ?_, ?_, ?_,
    outcome_of_keepAlive (keepAlive_attempt _ _ _ _ _ _ _)⟩
  · rw [hg, Pool.withHealth_getElem_self hm]
  · intro other hne
    rw [hg, Pool.withHealth_getElem_ne _ hne]
  · rw [hg, Pool.map_members_withHealth (fun _ _ => rfl) hm]
  · rw [hg]
    rfl

/-- A connection that is not answered is a failure of the second of two
backends, which has two connections and has failed once before. -/
theorem forward_accounted_unanswered :
    let first : Member := ⟨⟨"a", ⟨.loopback, 1, 0⟩, 1, none, by decide⟩, {}, 5⟩
    let second : Member :=
      ⟨⟨"b", ⟨.loopback, 2, 0⟩, 1, none, by decide⟩, { failures := 1 }, 2⟩
    let exchange : Exchange :=
      { id := "r", client := ⟨.loopback, 3, 0⟩, method := "GET", target := "/" }
    ∃ f g h, exchange.forward {} 1 ⟨.loopback, 2, 0⟩ .unanswered
      ⟨"GET", "/", .http11, ⟨[]⟩⟩ .empty {}
        { pool := { members := [first, second], cursor := 7 } } = .ok (f, g) ∧
      f.record.outcome = .failed .connectTimeout ∧
      second.health.Accounted f.record.outcome h ∧
      g.pool.members[1]? = some { second with health := h } ∧
      g.pool.members[0]? = some first ∧
      g.pool.members.map (·.active) = [5, 2] ∧ g.pool.cursor = 7 := by
  intro first second exchange
  obtain ⟨f, g, h, hforward, -, hmember, haccounted, hothers, hactive, hcursor, -⟩ :=
    forward_accounted {} ⟨.loopback, 2, 0⟩ .unanswered
      ⟨"GET", "/", .http11, ⟨[]⟩⟩ .empty {} exchange
        (show ({ pool := { members := [first, second], cursor := 7 } } :
        Fleet).pool.members[1]? = some second from rfl)
  have houtcome : f.record.outcome = .failed .connectTimeout := by
    cases hforward
    rfl
  exact ⟨f, g, h, hforward, houtcome, haccounted, hmember,
    hothers 0 (by decide), hactive, hcursor⟩

end Exchange

end Gateway
