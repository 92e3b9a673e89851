import Gateway.Proofs.Operations

/-!
# Requests on their way

A request has a backend picked for it, later its connection begins, and later
still it ends. Room is looked at when the backend is picked and taken when the
connection begins, and other requests may take their steps in between. So a
capacity is kept but for requests that overlap there: each one more may take one
connection more.

* `Traffic` is any number of requests on their way, and a list of `Move`s any
  order of their steps;
* `Traffic.peak` is how many stood between the two steps at one time;
* `Traffic.active_run_le`: by so many, less one, a capacity can be exceeded;
  `Traffic.active_run_of_two` is the least case of it;
* `Traffic.active_run_of_room`: that many it may be, for any number of requests.
-/

namespace Gateway

/-- Where a request stands. -/
inductive Stage where
  /-- No backend is picked for it yet. -/
  | arriving
  /-- A backend is picked, and its connection has not begun. -/
  | assigned (id : Nat)
  /-- Its connection, which has a slot, has begun. -/
  | connected (slot : Nat)
  /-- Its connection has ended, or there was no backend for it. -/
  | over
  deriving DecidableEq, Repr

namespace Stage

/-- The operation that a request needs next. -/
def operation? : Stage → Option Operation
  | .arriving => some .select
  | .assigned id => some (.begin id)
  | .connected slot => some (.drop slot)
  | .over => none

/-- Where a request stands after an answer. -/
def after : Answer → Stage
  | .selected (.ok id) => .assigned id
  | .began slot _ => .connected slot
  | _ => .over

theorem operation?_eq_begin_iff {stage : Stage} {id : Nat} :
    stage.operation? = some (.begin id) ↔ stage = .assigned id := by
  cases stage <;> simp [operation?]

theorem selected_of_after {a : Answer} {id : Nat}
    (h : after a = .assigned id) : a = .selected (.ok id) := by
  unfold after at h
  split at h <;> cases h
  rfl

end Stage

/-- What can happen while requests are on their way. -/
inductive Move where
  /-- The request of a number takes its next step. -/
  | advance (request : Nat)
  /-- A signal of a backend comes in. -/
  | signal (id : Nat) (result : Option FailureKind)
  deriving DecidableEq, Repr

/-- Requests on their way to the backends of a ledger. -/
structure Traffic where
  /-- The ledger. -/
  ledger : Ledger
  /-- Where each request stands. -/
  stages : List Stage
  deriving DecidableEq, Repr

namespace Traffic

/-- So many requests, for none of which a backend is picked yet. -/
def arrivals (requests : Nat) (l : Ledger) : Traffic :=
  ⟨l, List.replicate requests .arriving⟩

/-- One move. -/
def step (rules : Selection) (move : Move) (t : Traffic) : Traffic :=
  match move with
  | .advance request =>
    match t.stages[request]?.bind Stage.operation? with
    | some op =>
      ⟨(t.ledger.perform rules op).2,
        t.stages.set request (.after (t.ledger.perform rules op).1)⟩
    | none => t
  | .signal id result =>
    { t with ledger := (t.ledger.perform rules (.probe id result)).2 }

/-- Several moves, one after the other. -/
def run (rules : Selection) : List Move → Traffic → Traffic
  | [], t => t
  | move :: moves, t => run rules moves (t.step rules move)

/-- How many requests a backend is picked for whose connections have not
begun. -/
def waiting (id : Nat) (t : Traffic) : Nat :=
  t.stages.count (.assigned id)

/-- How many requests a backend was picked for, at one time, whose connections
had not begun. -/
def peak (rules : Selection) (id : Nat) : List Move → Traffic → Nat
  | [], t => t.waiting id
  | move :: moves, t =>
    max (t.waiting id) (peak rules id moves (t.step rules move))

/-- The connections that a backend has and those it is about to have are not too
many, if no more than `k` are about to begin at one time. -/
def Within (id most k : Nat) (t : Traffic) : Prop :=
  ∃ m, t.ledger.fleet.pool.members[id]? = some m ∧ m.backend.capacity = some most ∧
    m.active + t.waiting id ≤ most + (k - 1)

variable {rules : Selection} {id most k : Nat} {t : Traffic} {moves : List Move}

/-- A backend that is selected has room, and only a selection says so. -/
theorem select_of_selected {l : Ledger} {op : Operation} {m : Member}
    (hm : l.fleet.pool.members[id]? = some m)
    (hcapacity : m.backend.capacity = some most)
    (h : (l.perform rules op).1 = .selected (.ok id)) :
    op = .select ∧ m.active < most := by
  by_cases hop : op = .select
  · subst hop
    rw [Ledger.perform_select] at h
    by_cases heligible : l.fleet.pool.eligible rules.failOpen = []
    · rw [Pool.select_of_ineligible heligible] at h
      cases h
    · obtain ⟨c, hc, hmember, hselect⟩ := Pool.select_of_eligible heligible
      rw [hselect] at h
      cases h
      obtain rfl := Option.some.inj (hmember.symm.trans hm)
      obtain ⟨-, hroom, -⟩ := Pool.mem_eligible_iff.1 hc
      rw [Member.hasCapacity, hcapacity] at hroom
      exact ⟨rfl, of_decide_eq_true hroom⟩
  · have hpicked := Ledger.picked?_perform rules hop l
    rw [h] at hpicked
    cases hpicked

/-- A request takes its next step, if it is not over. -/
theorem advance_cases (rules : Selection) (request : Nat) (t : Traffic) :
    t.step rules (.advance request) = t ∨
      ∃ stage op, t.stages[request]? = some stage ∧ stage.operation? = some op ∧
      t.step rules (.advance request) =
        ⟨(t.ledger.perform rules op).2,
          t.stages.set request (.after (t.ledger.perform rules op).1)⟩ := by
  rw [step]
  cases hstage : t.stages[request]? with
  | none => exact .inl rfl
  | some stage =>
    cases hop : stage.operation? with
    | none =>
      rw [Option.bind_some, hop]
      exact .inl rfl
    | some op =>
      rw [Option.bind_some, hop]
      exact .inr ⟨stage, op, rfl, hop, rfl⟩

/-- A request that moves on counts no more where it stood, but where it stands
now. -/
theorem waiting_set (id : Nat) {request : Nat} {stage : Stage}
    (h : t.stages[request]? = some stage) (next : Stage) (l : Ledger) :
    waiting id ⟨l, t.stages.set request next⟩ + (if stage = .assigned id then 1 else 0) =
      t.waiting id + if next = .assigned id then 1 else 0 := by
  obtain ⟨hlt, rfl⟩ := List.getElem?_eq_some_iff.1 h
  simp only [waiting, List.count_set hlt, beq_iff_eq]
  have hpos : t.stages[request] = .assigned id → 0 < t.stages.count (.assigned id) :=
    fun heq => List.count_pos_iff.2 (heq ▸ List.getElem_mem hlt)
  split
  · rename_i heq
    have := hpos heq
    omega
  · omega

/-- **One move keeps a backend within its bound.** A connection that begins was
waited for before, and a selection makes one more wait only while the backend
has room. -/
theorem within_step (move : Move) (h : t.Within id most k)
    (hk : (t.step rules move).waiting id ≤ k) :
    (t.step rules move).Within id most k := by
  obtain ⟨m, hm, hcapacity, hbound⟩ := h
  cases move with
  | signal other result =>
    obtain ⟨n, hn, hbackend, hactive⟩ :=
      (Ledger.performed_perform rules (.probe other result) t.ledger).active_le hm
    rw [if_neg nofun] at hactive
    exact ⟨n, hn, hbackend ▸ hcapacity,
      Nat.le_trans (Nat.add_le_add_right hactive _) hbound⟩
  | advance request =>
    rcases advance_cases rules request t with hsame | ⟨stage, op, hstage, hop, hstep⟩
    · rw [hsame]
      exact ⟨m, hm, hcapacity, hbound⟩
    · rw [hstep] at hk ⊢
      obtain ⟨n, hn, hbackend, hactive⟩ :=
        (Ledger.performed_perform rules op t.ledger).active_le hm
      -- so the request that makes connections more is one that waits no longer
      have hbegin : op = .begin id ↔ stage = .assigned id := by
        rw [← Stage.operation?_eq_begin_iff, hop, Option.some.injEq]
      simp only [hbegin] at hactive
      have hwaiting := waiting_set id hstage
        (.after (t.ledger.perform rules op).1) (t.ledger.perform rules op).2
      refine ⟨n, hn, hbackend ▸ hcapacity, ?_⟩
      by_cases hnext : Stage.after (t.ledger.perform rules op).1 = .assigned id
      · obtain ⟨hselect, hroom⟩ :=
          select_of_selected hm hcapacity (Stage.selected_of_after hnext)
        rw [if_pos hnext] at hwaiting
        rw [if_neg fun h => by cases hselect.symm.trans (hbegin.2 h)] at hactive
        omega
      · rw [if_neg hnext] at hwaiting
        omega

theorem waiting_le_peak (moves : List Move) (t : Traffic) :
    t.waiting id ≤ peak rules id moves t := by
  cases moves with
  | nil => exact Nat.le_refl _
  | cons => exact Nat.le_max_left _ _

/-- A whole run keeps a backend within the bound of its peak. -/
theorem within_run (h : t.Within id most k) (hk : peak rules id moves t ≤ k) :
    (run rules moves t).Within id most k := by
  induction moves generalizing t with
  | nil => exact h
  | cons move moves ih =>
    rw [peak] at hk
    have hnext := Nat.le_trans (Nat.le_max_right _ _) hk
    exact ih (within_step move h (Nat.le_trans (waiting_le_peak moves _) hnext)) hnext

/-- **Capacity is kept but for overlapping requests.** Let any number of
requests arrive at a backend that is within its capacity, and let them take
their steps in any order, with signals in between. If at no time more than so
many of them have the backend picked and no connection begun yet, then the
backend never has more connections than its capacity and so many, less one:
never more than its capacity, if no two overlap there. -/
theorem active_run_le (rules : Selection) (l : Ledger) (requests : Nat)
    (moves : List Move) (id : Nat) {most : Nat} {m : Member}
    (hm : l.fleet.pool.members[id]? = some m)
    (hcapacity : m.backend.capacity = some most) (hactive : m.active ≤ most) :
    ∃ n, (run rules moves (arrivals requests l)).ledger.fleet.pool.members[id]? = some n ∧
      n.backend.capacity = some most ∧
      n.active ≤ most + (peak rules id moves (arrivals requests l) - 1) := by
  have hnone : (arrivals requests l).waiting id = 0 :=
    List.count_eq_zero.2 fun h => nomatch List.eq_of_mem_replicate h
  have hstart : (arrivals requests l).Within id most
      (peak rules id moves (arrivals requests l)) := by
    refine ⟨m, hm, hcapacity, ?_⟩
    rw [hnone]
    exact Nat.le_add_right_of_le hactive
  obtain ⟨n, hn, hkept, hbound⟩ := within_run hstart (Nat.le_refl _)
  exact ⟨n, hn, hkept, Nat.le_of_add_right_le hbound⟩

/-- A backend with room for two gets three requests, one of which comes in only
when the connection of another has ended. A probe of the backend fails in
between. -/
theorem active_run_le_overlapping :
    let backend : Backend :=
      { name := "a", address := ⟨.loopback, 1, 0⟩, capacity := some 2 }
    let l : Ledger := { fleet := { pool := { members := [⟨backend, {}, 0⟩] } } }
    let moves : List Move :=
      [.advance 0, .advance 1, .signal 0 (some .probeTimeout), .advance 1,
        .advance 0, .advance 1, .advance 2, .advance 2]
    peak {} 0 moves (arrivals 3 l) = 2 ∧
      ∃ n, (run {} moves (arrivals 3 l)).ledger.fleet.pool.members[0]? = some n ∧
        n.backend.capacity = some 2 ∧ n.active ≤ 2 + 1 := by
  intro backend l moves
  have hpeak : peak {} 0 moves (arrivals 3 l) = 2 := by decide +kernel
  obtain ⟨n, hn, hcapacity, hactive⟩ :=
    active_run_le {} l 3 moves 0 (m := ⟨backend, {}, 0⟩) rfl rfl (Nat.zero_le _)
  rw [hpeak] at hactive
  exact ⟨hpeak, n, hn, hcapacity, hactive⟩

/-- A backend with room for one connection has two, because it is picked for a
second request before the connection of the first has begun. -/
theorem active_run_of_two :
    let backend : Backend :=
      { name := "a", address := ⟨.loopback, 1, 0⟩, capacity := some 1 }
    let l : Ledger := { fleet := { pool := { members := [⟨backend, {}, 0⟩] } } }
    let moves : List Move := [.advance 0, .advance 1, .advance 0, .advance 1]
    (run {} moves (arrivals 2 l)).ledger.fleet.pool.members.map
      (fun m => (m.backend.capacity, m.active)) = [(some 1, 2)] := by
  decide +kernel

/-! ## Requests that all look first -/

theorem run_append (rules : Selection) (moves more : List Move) (t : Traffic) :
    run rules (moves ++ more) t = run rules more (run rules moves t) := by
  induction moves generalizing t with
  | nil => rfl
  | cons move moves ih => exact ih _

theorem step_first {stage : Stage} {op : Operation}
    (hop : stage.operation? = some op) (l : Ledger) (front : List Stage)
    (n : Nat) :
    step rules (.advance front.length) ⟨l, front ++ List.replicate (n + 1) stage⟩ =
      ⟨(l.perform rules op).2, front ++ [.after (l.perform rules op).1] ++
        List.replicate n stage⟩ := by
  rw [List.replicate_succ, step]
  dsimp only
  rw [List.getElem?_append_right (Nat.le_refl _), Nat.sub_self,
    List.getElem?_cons_zero, Option.bind_some, hop]
  simp

variable {l : Ledger} {m : Member}

/-- A healthy backend with room is selected if it is the only one. -/
theorem selected_of_only (rules : Selection) (hm : l.fleet.pool.members = [m])
    (hhealthy : m.health.healthy = true) (hroom : m.hasCapacity = true) :
    ∃ g : Ledger, l.perform rules .select = (.selected (.ok 0), g) ∧
      g.fleet.pool.members = [m] := by
  have hmem : (⟨0, m⟩ : Candidate) ∈ l.fleet.pool.eligible rules.failOpen :=
    Pool.mem_eligible_iff.2 ⟨by rw [hm]; rfl, hroom, .inl hhealthy⟩
  obtain ⟨c, -, hmember, hselect⟩ := Pool.select_of_eligible (List.ne_nil_of_mem hmem)
  -- no other number is a member's
  have hfirst : c.id = 0 := by
    have hlt := (List.getElem?_eq_some_iff.1 hmember).1
    rw [hm, List.length_singleton] at hlt
    omega
  rw [Ledger.perform_select, hselect, hfirst]
  exact ⟨_, rfl, hm⟩

/-- It is picked for all requests that come before a connection begins. -/
theorem run_selects (rules : Selection) (hm : l.fleet.pool.members = [m])
    (hhealthy : m.health.healthy = true) (hroom : m.hasCapacity = true)
    (front : List Stage) (n : Nat) :
    ∃ g : Ledger, g.fleet.pool.members = [m] ∧
      run rules ((List.range' front.length n).map .advance) ⟨l,
        front ++ List.replicate n .arriving⟩ =
          ⟨g, front ++ List.replicate n (.assigned 0)⟩ := by
  induction n generalizing l front with
  | zero => exact ⟨l, hm, rfl⟩
  | succ n ih =>
    obtain ⟨k, hselect, hk⟩ := selected_of_only rules hm hhealthy hroom
    obtain ⟨g, hg, hrun⟩ := ih hk (front ++ [.assigned 0])
    refine ⟨g, hg, ?_⟩
    rw [List.range'_succ, List.map_cons, run, step_first rfl, hselect]
    rw [List.length_append] at hrun
    exact hrun.trans (by rw [List.append_assoc]; rfl)

/-- Their connections all begin. -/
theorem run_begins (rules : Selection) (hm : l.fleet.pool.members = [m])
    (front : List Stage) (n : Nat) :
    (run rules ((List.range' front.length n).map .advance)
      ⟨l, front ++ List.replicate n (.assigned 0)⟩).ledger.fleet.pool.members =
        [{ m with active := m.active + n }] := by
  induction n generalizing l m front with
  | zero => exact hm
  | succ n ih =>
    obtain ⟨g, hbegin, hpool⟩ := Ledger.perform_begin rules
      (show l.fleet.pool.members[0]? = some m by rw [hm]; rfl)
    have hg : g.pool.members = [{ m with active := m.active + 1 }] := by
      rw [hpool, Pool.withActive, hm]
      rfl
    rw [List.range'_succ, List.map_cons, run, step_first rfl, hbegin]
    have hrun := ih (l := ⟨g, l.slots ++ [some 0]⟩) hg
      (front ++ [.connected l.slots.length])
    rw [List.length_append, Nat.add_assoc, Nat.add_comm 1] at hrun
    exact hrun

/-- **Room for one is room for all who look before a connection begins**: where
room for one is left, the bound is reached. -/
theorem active_run_of_room (rules : Selection) (hm : l.fleet.pool.members = [m])
    (hhealthy : m.health.healthy = true) (hroom : m.hasCapacity = true)
    (requests : Nat) :
    ∃ moves, (run rules moves (arrivals requests l)).ledger.fleet.pool.members =
      [{ m with active := m.active + requests }] := by
  obtain ⟨g, hg, hrun⟩ := run_selects rules hm hhealthy hroom [] requests
  refine ⟨(List.range' 0 requests).map .advance ++ (List.range' 0 requests).map .advance, ?_⟩
  have hlooked : run rules ((List.range' 0 requests).map .advance)
      (arrivals requests l) = ⟨g, List.replicate requests (.assigned 0)⟩ := hrun
  rw [run_append, hlooked]
  exact run_begins rules hg [] requests

end Traffic

end Gateway
