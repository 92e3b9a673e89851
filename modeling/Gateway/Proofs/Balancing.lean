import Gateway.Proofs.FailingOpen
import Gateway.Proofs.Rotation

/-!
# Balancing

A policy by connections picks a backend with the fewest, and equals one after
the other. Where connections only begin, each to the backend that was just
picked, the pool stays level: no backend is more than one connection ahead of
another, unless the other is full.

* `Policy.mem_leastLoaded_iff`: which candidates have the fewest connections;
* `Fleet.leastBusy` are the backends that may be picked, and
  `Fleet.wheel_eq_leastBusy` says that they are the wheel;
* `Pool.Level` is what stays of a pool that fills, and `Pool.Level.withActive`
  the step that keeps it;
* `Ledger.Filled` says how a pool fills, and `Ledger.Filled.level` that it stays
  level;
* `Ledger.selections_balance`: who is picked, how equals take turns, and what
  becomes of an idle pool.
-/

namespace Gateway

/-- **A candidate has the fewest connections** if no other has fewer. -/
theorem Policy.mem_leastLoaded_iff {cs : List Candidate} {c : Candidate} :
    c ∈ leastLoaded cs ↔
      c ∈ cs ∧ ∀ other ∈ cs, c.member.active ≤ other.member.active := by
  rw [leastLoaded]
  cases hleast : (cs.map fun c => c.member.active).min? with
  | none =>
    rw [List.min?_eq_none_iff, List.map_eq_nil_iff] at hleast
    simp [hleast]
  | some least =>
    obtain ⟨hmem, hle⟩ := List.min?_eq_some_iff.1 hleast
    rw [List.forall_mem_map] at hle
    obtain ⟨idlest, hidlest, rfl⟩ := List.mem_map.1 hmem
    rw [List.mem_filter, beq_iff_eq]
    refine and_congr_right fun hc =>
      ⟨fun heq other hother => heq ▸ hle other hother, fun h => ?_⟩
    exact Nat.le_antisymm (h idlest hidlest) (hle c hc)

/-! ## The least busy backends -/

namespace Fleet

variable {failOpen : Bool} {f : Fleet} {id : Nat}

/-- The eligible backends with the fewest connections, in their order. -/
def leastBusy (failOpen : Bool) (f : Fleet) : List Nat :=
  (f.pool.eligibleIds failOpen).filter fun id =>
    ∀ other ∈ f.pool.eligibleIds failOpen, Ledger.activeOf id f ≤
      Ledger.activeOf other f

theorem activeOf_of_eligible {c : Candidate} (h : c ∈ f.pool.eligible failOpen) :
    Ledger.activeOf c.id f = c.member.active := by
  rw [Ledger.activeOf, Pool.member_of_eligible h]

theorem pairwise_leastBusy (failOpen : Bool) (f : Fleet) :
    (f.leastBusy failOpen).Pairwise (· < ·) :=
  (f.pool.pairwise_eligibleIds failOpen).filter _

/-- **The least busy backends take turns** under a policy by connections. -/
theorem wheel_eq_leastBusy (failOpen : Bool) (f : Fleet) :
    Policy.wheel .leastConnections (f.pool.eligible failOpen) =
      f.leastBusy failOpen := by
  have hsorted : (Policy.wheel .leastConnections
      (f.pool.eligible failOpen)).Pairwise (· < ·) := by
    refine (f.pool.pairwise_eligibleIds failOpen).sublist (List.Sublist.map _ ?_)
    rw [Policy.leastLoaded]
    split
    · exact List.nil_sublist _
    · exact List.filter_sublist
  refine hsorted.eq_of_mem_iff (pairwise_leastBusy failOpen f) fun id => ?_
  rw [Policy.wheel, leastBusy, Pool.eligibleIds, List.mem_map, List.mem_filter,
    List.mem_map, decide_eq_true_iff, List.forall_mem_map]
  constructor
  · rintro ⟨c, hc, rfl⟩
    obtain ⟨hc, hleast⟩ := Policy.mem_leastLoaded_iff.1 hc
    refine ⟨⟨c, hc, rfl⟩, fun other hother => ?_⟩
    rw [activeOf_of_eligible hc, activeOf_of_eligible hother]
    exact hleast other hother
  · rintro ⟨⟨c, hc, rfl⟩, hleast⟩
    refine ⟨c, Policy.mem_leastLoaded_iff.2 ⟨hc, fun other hother => ?_⟩, rfl⟩
    rw [← activeOf_of_eligible hc, ← activeOf_of_eligible hother]
    exact hleast other hother

theorem leastBusy_congr {g : Fleet}
    (hids : g.pool.eligibleIds failOpen = f.pool.eligibleIds failOpen)
    (hactive : ∀ id, Ledger.activeOf id g = Ledger.activeOf id f) :
    g.leastBusy failOpen = f.leastBusy failOpen := by
  simp only [leastBusy, hids, hactive]

end Fleet

/-! ## Pools that fill -/

namespace Pool

variable {p : Pool} {failOpen : Bool} {c : Candidate}

/-- The connections of a pool are spread evenly: every backend is healthy, none
has more connections than it may have, and none is more than one connection
ahead of another that is not full. -/
structure Level (p : Pool) : Prop where
  /-- Every backend is healthy. -/
  healthy : ∀ m ∈ p.members, m.health.healthy = true
  /-- No backend has more connections than it may have. -/
  within : ∀ m ∈ p.members, ∀ most, m.backend.capacity = some most → m.active ≤ most
  /-- No backend is more than one connection ahead of another, unless that is
  full. -/
  even : ∀ m ∈ p.members, ∀ n ∈ p.members, m.active ≤ n.active + 1 ∨
    n.backend.capacity = some n.active

theorem level_of_idle
    (h : ∀ m ∈ p.members, m.health.healthy = true ∧ m.active = 0) :
    p.Level where
  healthy m hm := (h m hm).1
  within m hm most _ := by
    rw [(h m hm).2]
    exact Nat.zero_le most
  even m hm n hn := by
    rw [(h m hm).2]
    exact .inl (Nat.zero_le _)

/-- Who has the fewest connections of the eligible has no more than any backend
of a level pool that is not full. -/
theorem Level.le_of_least (h : p.Level)
    (hleast : ∀ other ∈ p.eligible failOpen, c.member.active ≤ other.member.active)
    {n : Member} (hn : n ∈ p.members) :
    c.member.active ≤ n.active ∨ n.backend.capacity = some n.active := by
  cases hroom : n.hasCapacity with
  | true =>
    obtain ⟨id, hid⟩ := List.mem_iff_getElem?.1 hn
    exact .inl (hleast ⟨id, n⟩ (mem_eligible_iff.2 ⟨hid, hroom, .inl (h.healthy n hn)⟩))
  | false =>
    obtain ⟨most, hmost, hfull⟩ := Member.hasCapacity_eq_false_iff.1 hroom
    rw [hmost, Nat.le_antisymm (h.within n hn most hmost) hfull]
    exact .inr rfl

/-- **A connection to a backend with the fewest leaves a pool level.** -/
theorem Level.withActive (h : p.Level) (hc : c ∈ p.eligible failOpen)
    (hleast : ∀ other ∈ p.eligible failOpen, c.member.active ≤ other.member.active) :
    (p.withActive c.id c.member (c.member.active + 1)).Level := by
  obtain ⟨hmember, hroom, -⟩ := mem_eligible_iff.1 hc
  have hmem : c.member ∈ p.members := List.mem_of_getElem? hmember
  have hnotFull : ¬ c.member.IsFull := by
    rw [← Member.hasCapacity_eq_false_iff, hroom]
    decide
  have hcases : ∀ m ∈ (p.withActive c.id c.member (c.member.active + 1)).members,
      m ∈ p.members ∨ m = { c.member with active := c.member.active + 1 } :=
    fun m hm => List.mem_or_eq_of_mem_set hm
  refine ⟨fun m hm => ?_, fun m hm most hmost => ?_, fun m hm n hn => ?_⟩
  · obtain hm | rfl := hcases m hm
    · exact h.healthy m hm
    · exact h.healthy c.member hmem
  · obtain hm | rfl := hcases m hm
    · exact h.within m hm most hmost
    · exact Nat.lt_of_not_le fun hle => hnotFull ⟨most, hmost, hle⟩
  · obtain hm | rfl := hcases m hm <;> obtain hn | rfl := hcases n hn
    · exact h.even m hm n hn
    · -- the connection is one more that the other backend is ahead of
      obtain hle | hfull := h.even m hm c.member hmem
      · exact .inl (Nat.le_succ_of_le hle)
      · exact absurd ⟨_, hfull, Nat.le_refl _⟩ hnotFull
    · obtain hle | hfull := h.le_of_least hleast hn
      · exact .inl (Nat.succ_le_succ hle)
      · exact .inr hfull
    · exact .inl (Nat.le_succ _)

end Pool

/-! ## Histories -/

namespace Ledger

variable {rules : Selection} {l k : Ledger} {ops : List Operation} {id : Nat}

/-- Whatever happens between selections leaves the cursor, the set of eligible
backends and all connections alone. -/
def Calm (rules : Selection) : List Operation → Ledger → Prop
  | [], _ => True
  | op :: ops, l =>
    (op ≠ .select →
      (l.perform rules op).2.fleet.pool.cursor = l.fleet.pool.cursor ∧
      (∀ id, id ∈ (l.perform rules op).2.fleet.pool.eligibleIds rules.failOpen ↔
        id ∈ l.fleet.pool.eligibleIds rules.failOpen) ∧
      ∀ id, activeOf id (l.perform rules op).2.fleet = activeOf id l.fleet) ∧
    Calm rules ops (l.perform rules op).2

/-- A calm history leaves the wheel of a policy by connections alone. -/
theorem Calm.unturned (hpolicy : rules.policy = .leastConnections)
    (hcalm : Calm rules ops l) :
    Unturned rules ops l := by
  induction ops generalizing l with
  | nil => trivial
  | cons op ops ih =>
    obtain ⟨hother, hcalm⟩ := hcalm
    refine ⟨fun hop => ?_, ih hcalm⟩
    obtain ⟨hcursor, hids, hactive⟩ := hother hop
    rw [hpolicy, Fleet.wheel_eq_leastBusy, Fleet.wheel_eq_leastBusy]
    exact ⟨hcursor, Fleet.leastBusy_congr
      ((Pool.pairwise_eligibleIds _ _).eq_of_mem_iff
        (Pool.pairwise_eligibleIds _ _) hids) hactive⟩

/-- **A selection by connections gives an eligible backend with the fewest.** -/
theorem least_of_selected (hpolicy : rules.policy = .leastConnections)
    (h : (l.perform rules .select).1 = .selected (.ok id)) :
    ∃ c ∈ l.fleet.pool.eligible rules.failOpen, c.id = id ∧
      ∀ other ∈ l.fleet.pool.eligible rules.failOpen, c.member.active ≤
        other.member.active := by
  rw [perform_select] at h
  by_cases hnil : l.fleet.pool.eligible rules.failOpen = []
  · rw [Pool.select_of_ineligible hnil] at h
    cases h
  · obtain ⟨c, hc, hrotate⟩ :=
      Policy.rotate_of_ne_nil (Policy.leastLoaded_spec hnil).1 l.fleet.pool
    rw [Pool.select, hpolicy, Policy.pick, hrotate] at h
    cases h
    obtain ⟨hmem, hleast⟩ := Policy.mem_leastLoaded_iff.1 hc
    exact ⟨c, hmem, rfl, hleast⟩

theorem members_select (rules : Selection) (l : Ledger) :
    (l.perform rules .select).2.fleet.pool.members = l.fleet.pool.members := by
  rw [perform_select]
  dsimp only
  rw [(l.fleet.pool.select_eq_wheel rules).2]
  split <;> rfl

/-- What becomes of a ledger whose connections only begin: a backend is picked,
and the connection to it begins. -/
inductive Filled (rules : Selection) (l : Ledger) : Ledger → Prop where
  /-- Nothing has happened yet. -/
  | start : Filled rules l l
  /-- A backend is picked, or none can be. -/
  | select {k : Ledger} : Filled rules l k →
      Filled rules l (k.perform rules .select).2
  /-- A backend is picked, and the connection to it begins. -/
  | connect {k : Ledger} {id : Nat} : Filled rules l k →
      (k.perform rules .select).1 = .selected (.ok id) →
      Filled rules l ((k.perform rules .select).2.perform rules (.begin id)).2

theorem Filled.backends_eq (h : Filled rules l k) :
    k.fleet.pool.backends = l.fleet.pool.backends := by
  induction h with
  | start => rfl
  | select _ ih => exact (performed_perform rules _ _).backends_eq.trans ih
  | connect _ _ ih =>
    exact (performed_perform rules _ _).backends_eq.trans
      ((performed_perform rules _ _).backends_eq.trans ih)

/-- **A level pool stays level as it fills.** -/
theorem Filled.level (hpolicy : rules.policy = .leastConnections)
    (hlevel : l.fleet.pool.Level)
    (h : Filled rules l k) : k.fleet.pool.Level := by
  have hsame : ∀ {p q : Pool}, q.members = p.members → p.Level → q.Level := by
    rintro p q hmembers ⟨hhealthy, hwithin, heven⟩
    exact ⟨hmembers ▸ hhealthy, hmembers ▸ hwithin, hmembers ▸ heven⟩
  induction h with
  | start => exact hlevel
  | select _ ih => exact hsame (members_select rules _) ih
  | @connect k id _ hpicked ih =>
    obtain ⟨c, hc, rfl, hleast⟩ := least_of_selected hpolicy hpicked
    have hmember : (k.perform rules .select).2.fleet.pool.members[c.id]? =
        some c.member := by
      rw [members_select]
      exact Pool.member_of_eligible hc
    obtain ⟨g, hbegin, hpool⟩ := perform_begin rules hmember
    rw [hbegin]
    refine hsame ?_ (ih.withActive hc hleast)
    rw [hpool, Pool.withActive, Pool.withActive, members_select]

/-- **A policy by connections picks a backend with the fewest, and so keeps the
pool level.** Where a backend is eligible, one is picked, and whichever it is,
no eligible one has fewer connections. In a history that leaves the cursor, the
set of eligible backends and all connections to its selections, let these be as
many as there are least busy backends, and let the cursor not start again: each
of the least busy backends is then picked once, and no other. Let now all
backends be healthy and idle, and connections only begin, each to the backend
just picked. Then whatever the cursor and the limits are, no backend ever has
more connections than it may have, and none is more than one connection ahead of
another, unless that has as many as it may have. -/
theorem selections_balance (hpolicy : rules.policy = .leastConnections)
    (l : Ledger) :
    let ids := l.fleet.pool.eligibleIds rules.failOpen
    let least := l.fleet.leastBusy rules.failOpen
    ((ids ≠ [] → ∃ id, (l.perform rules .select).1 = .selected (.ok id)) ∧
      ∀ id, (l.perform rules .select).1 = .selected (.ok id) →
        id ∈ ids ∧ ∀ other ∈ ids, activeOf id l.fleet ≤ activeOf other l.fleet) ∧
    (∀ ops, Calm rules ops l → ops.count .select = least.length →
      l.fleet.pool.cursor.toNat + least.length ≤ 2 ^ 64 →
      ∃ picks : List Nat, picked (run rules ops l).1 = picks.map some ∧
        picks.Nodup ∧ ∀ id, id ∈ picks ↔ id ∈ least) ∧
    ((∀ m ∈ l.fleet.pool.members, m.health.healthy = true ∧ m.active = 0) →
      ∀ k, Filled rules l k →
        k.fleet.pool.backends = l.fleet.pool.backends ∧
        ∀ (i j : Nat) (m n : Member), k.fleet.pool.members[i]? = some m →
          k.fleet.pool.members[j]? = some n →
          (m.active ≤ n.active + 1 ∨ n.backend.capacity = some n.active) ∧
          ∀ most, m.backend.capacity = some most → m.active ≤ most) := by
  intro ids least
  refine ⟨⟨fun hne => ?_, fun id hid => ?_⟩, fun ops hcalm hcount hcursor => ?_,
    fun hidle k hfilled => ?_⟩
  · obtain ⟨c, -, -, hselect⟩ : ∃ c ∈ _, _ ∧ l.fleet.pool.select rules = _ :=
      Pool.select_of_eligible fun hnil => hne (List.map_eq_nil_iff.2 hnil)
    exact ⟨c.id, by rw [perform_select, hselect]⟩
  · obtain ⟨c, hc, rfl, hleast⟩ := least_of_selected hpolicy hid
    refine ⟨List.mem_map_of_mem hc, List.forall_mem_map.2 fun other hother => ?_⟩
    rw [Fleet.activeOf_of_eligible hc, Fleet.activeOf_of_eligible hother]
    exact hleast other hother
  · have hpicked := picked_run_of_unturned (hcalm.unturned hpolicy)
    rw [hpolicy, Fleet.wheel_eq_leastBusy, hcount] at hpicked
    refine ⟨least.rotate l.fleet.pool.cursor.toNat,
      hpicked.trans (Policy.spin_length hcursor), ?_, fun id => ?_⟩
    · exact List.nodup_rotate.2
        ((l.fleet.pairwise_leastBusy rules.failOpen).imp Nat.ne_of_lt)
    · exact List.mem_rotate
  · have hlevel := hfilled.level hpolicy (Pool.level_of_idle hidle)
    refine ⟨hfilled.backends_eq, fun i j m n hm hn => ⟨?_, ?_⟩⟩
    · exact hlevel.even m (List.mem_of_getElem? hm) n (List.mem_of_getElem? hn)
    · exact hlevel.within m (List.mem_of_getElem? hm)

/-- Two of three backends are tied, and the cursor gives out its last two
numbers. A slot that is not there is dropped between the selections. Without
connections, the first backend is full after one, and six connections leave the
second two ahead of it. -/
theorem selections_balance_full :
    let backend (name : String) (capacity : Option Nat) : Backend :=
      .ofWeight name ⟨.loopback, 1, 0⟩ 1 capacity
    let pool (first second third : Nat) : Pool :=
      { members := [⟨backend "a" (some 1), {}, first⟩,
          ⟨backend "b" none, {}, second⟩, ⟨backend "c" (some 2), {}, third⟩]
        cursor := 18446744073709551614 }
    let rules : Selection := { policy := .leastConnections }
    let tied : Ledger := { fleet := { pool := pool 0 1 0 } }
    let idle : Ledger := { fleet := { pool := pool 0 0 0 } }
    let ops : List Operation := [.select, .drop 5, .select]
    let connect (l : Ledger) (id : Nat) : Ledger :=
      ((l.perform rules .select).2.perform rules (.begin id)).2
    let full : Ledger := [2, 1, 0, 2, 1, 1].foldl connect idle
    (Calm rules ops tied ∧ tied.fleet.pool.cursor.toNat + 2 = 2 ^ 64 ∧
      ∃ picks : List Nat, picked (run rules ops tied).1 =
        picks.map some ∧ picks.Nodup ∧
        ∀ id, id ∈ picks ↔ id ∈ [0, 2]) ∧
      Filled rules idle full ∧ full.fleet.pool.members.map (·.active) = [1, 3, 2] ∧
      ∀ (i j : Nat) (m n : Member), full.fleet.pool.members[i]? = some m →
        full.fleet.pool.members[j]? = some n →
        (m.active ≤ n.active + 1 ∨ n.backend.capacity = some n.active) ∧
        ∀ most, m.backend.capacity = some most → m.active ≤ most := by
  intro backend pool rules tied idle ops connect full
  have hdrop : ((tied.perform rules .select).2.perform rules (.drop 5)).2 =
      (tied.perform rules .select).2 := by
    decide +kernel
  have hcalm : Calm rules ops tied := by
    refine ⟨fun h => absurd rfl h, fun _ => ?_, fun h => absurd rfl h, trivial⟩
    rw [hdrop]
    exact ⟨rfl, fun _ => Iff.rfl, fun _ => rfl⟩
  have hleast : tied.fleet.leastBusy rules.failOpen = [0, 2] := by decide +kernel
  have hconnect : ∀ {l : Ledger} (id : Nat), Filled rules idle l →
      (l.perform rules .select).1.picked? = some (some id) →
        Filled rules idle (connect l id) := by
    intro l id hl hpicked
    refine hl.connect ?_
    rw [perform_select] at hpicked ⊢
    cases hselect : (l.fleet.pool.select rules).1 with
    | ok other =>
      rw [hselect] at hpicked
      cases hpicked
      rfl
    | error e =>
      rw [hselect] at hpicked
      cases hpicked
  have hfilled : Filled rules idle full :=
    hconnect 1 (hconnect 1 (hconnect 2
      (hconnect 0 (hconnect 1 (hconnect 2 .start (by decide +kernel))
        (by decide +kernel)) (by decide +kernel)) (by decide +kernel))
        (by decide +kernel)) (by decide +kernel)
  obtain ⟨-, hties, -⟩ := @selections_balance rules rfl tied
  obtain ⟨-, -, hfills⟩ := @selections_balance rules rfl idle
  rw [hleast] at hties
  exact ⟨⟨hcalm, by decide +kernel, hties ops hcalm rfl (by decide +kernel)⟩,
    hfilled, by decide +kernel, (hfills (by decide +kernel) full hfilled).2⟩

end Ledger

end Gateway
