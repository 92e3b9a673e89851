import Mathlib.Algebra.Group.Nat.Defs
import Mathlib.Data.List.Rotate
import Mathlib.Data.List.Sort
import Gateway.Proofs.Operations

/-!
# Rotation

Under a policy that takes turns the eligible backends stand on a wheel, in their
order, each as often in a row as it has turns. The cursor says where the wheel
stands, each selection moves it by one, and as long as nothing else moves it or
changes who is eligible, as many selections as the wheel is long go round it
once.

* `Policy.wheel` is the wheel, and `Policy.pick_eq_wheel` says that a policy
  picks by it;
* `Ledger.picked_run_of_unturned`: the selections of a history read the wheel on
  from the cursor;
* `Ledger.selections_rotate`: so each backend has its share of them exactly.
-/

namespace Gateway

/-! ## Wheels -/

namespace Policy

variable {cs : List Candidate}

/-- The candidates that take turns, in their order, each as often in a row as it
has turns. -/
def wheel (policy : Policy) (cs : List Candidate) : List Nat :=
  match policy with
  | .roundRobin => cs.map (·.id)
  | .weightedRoundRobin =>
    cs.flatMap fun c => List.replicate c.member.backend.weight c.id
  | .leastConnections => (leastLoaded cs).map (·.id)

/-- By weight the wheel is as long as all weights together. -/
theorem length_wheel_weighted (cs : List Candidate) :
    (wheel .weightedRoundRobin cs).length = totalWeight cs := by
  induction cs with
  | nil => rfl
  | cons c rest ih =>
    rw [wheel] at ih ⊢
    rw [List.flatMap_cons, List.length_append, List.length_replicate, ih]
    rfl

/-- A turn falls into the share of the candidate at which the wheel stands
then. -/
theorem shareOf_eq_wheel (cs : List Candidate) (turn : Nat) :
    (shareOf cs turn).map (·.id) = (wheel .weightedRoundRobin cs)[turn]? := by
  induction cs generalizing turn with
  | nil => rfl
  | cons c rest ih =>
    rw [wheel] at ih ⊢
    rw [shareOf, List.flatMap_cons, List.getElem?_append, List.length_replicate]
    split
    · rename_i hlt
      rw [List.getElem?_replicate, if_pos hlt]
      rfl
    · exact ih _

theorem mem_of_mem_wheel_weighted {id : Nat}
    (h : id ∈ wheel .weightedRoundRobin cs) : id ∈ cs.map (·.id) := by
  obtain ⟨c, hc, hid⟩ := List.mem_flatMap.1 h
  rw [List.eq_of_mem_replicate hid]
  exact List.mem_map_of_mem hc

/-- **By weight each candidate is on the wheel as often as its weight says.** -/
theorem count_wheel_weighted {c : Candidate} (hc : c ∈ cs)
    (hids : (cs.map (·.id)).Nodup) :
    (wheel .weightedRoundRobin cs).count c.id = c.member.backend.weight := by
  induction cs with
  | nil => cases hc
  | cons first rest ih =>
    rw [List.map_cons, List.nodup_cons] at hids
    have hcons : (wheel .weightedRoundRobin (first :: rest)).count c.id =
        (List.replicate first.member.backend.weight first.id).count c.id +
          (wheel .weightedRoundRobin rest).count c.id := by
      rw [wheel, List.flatMap_cons, List.count_append, wheel]
    rw [hcons]
    rcases List.mem_cons.1 hc with rfl | hc
    · rw [List.count_replicate_self, List.count_eq_zero.2 fun h =>
        hids.1 (mem_of_mem_wheel_weighted h), Nat.add_zero]
    · have hne : first.id ≠ c.id := fun h => hids.1 (h ▸ List.mem_map_of_mem hc)
      rw [List.count_replicate, if_neg (by simpa using hne),
        Nat.zero_add, ih hc hids.2]

theorem shareOf_isSome {turn : Nat} (h : turn < totalWeight cs) :
    (shareOf cs turn).isSome = true := by
  rw [← Option.isSome_map, shareOf_eq_wheel,
    List.getElem?_eq_getElem (by rwa [length_wheel_weighted])]
  rfl

theorem rotate_eq (h : cs ≠ []) (p : Pool) :
    rotate cs p = ((cs.map (·.id))[p.cursor.toNat % (cs.map (·.id)).length]?,
      p.advance) := by
  rw [rotate, if_neg h, Pool.turn_eq (List.length_pos_iff.2 h),
    List.getElem?_map, List.length_map]

/-- **A policy picks where the wheel stands**, and moves it. -/
theorem pick_eq_wheel (policy : Policy) (h : cs ≠ []) (p : Pool) :
    policy.pick cs p = ((policy.wheel cs)[p.cursor.toNat %
      (policy.wheel cs).length]?, p.advance) := by
  cases policy with
  | roundRobin => exact rotate_eq h p
  | weightedRoundRobin =>
    have hlt := Nat.mod_lt p.cursor.toNat (totalWeight_pos h)
    obtain ⟨c, hc⟩ := Option.isSome_iff_exists.1 (shareOf_isSome hlt)
    rw [pick, if_neg h, Pool.turn_eq (totalWeight_pos h), length_wheel_weighted,
      ← shareOf_eq_wheel]
    dsimp only
    rw [hc]
    rfl
  | leastConnections => exact rotate_eq (leastLoaded_spec h).1 p

/-- What comes round in some turns from a cursor on; nothing where the wheel is
empty. -/
def spin (wheel : List Nat) :
    (cursor : UInt64) → (turns : Nat) → List (Option Nat)
  | _, 0 => []
  | cursor, turns + 1 =>
    wheel[cursor.toNat % wheel.length]? :: spin wheel (cursor + 1) turns

variable {wheel : List Nat} {cursor : UInt64} {turns : Nat}

theorem spin_nil (cursor other : UInt64) (turns : Nat) :
    spin [] cursor turns = spin [] other turns := by
  induction turns generalizing cursor other with
  | zero => rfl
  | succ turns ih =>
    rw [spin, spin, ih (cursor + 1) (other + 1)]
    rfl

/-- As long as the cursor does not start again, the turns are those of the
numbers from it on. -/
theorem spin_eq_range' (h : cursor.toNat + turns ≤ UInt64.size) :
    spin wheel cursor turns = (List.range' cursor.toNat turns).map fun turn =>
      wheel[turn % wheel.length]? := by
  induction turns generalizing cursor with
  | zero => rfl
  | succ turns ih =>
    rw [spin, List.range'_succ, List.map_cons]
    congr 1
    cases turns with
    | zero => rfl
    | succ turns =>
      have hnext : (cursor + 1).toNat = cursor.toNat + 1 := by
        rw [UInt64.toNat_add, UInt64.toNat_one, Nat.mod_eq_of_lt]
        rw [UInt64.size] at h
        omega
      rw [ih (by rw [hnext]; omega), hnext]

/-- **Once round the wheel**, from wherever it stands. -/
theorem spin_length (h : cursor.toNat + wheel.length ≤ UInt64.size) :
    spin wheel cursor wheel.length = (wheel.rotate cursor.toNat).map some := by
  rw [spin_eq_range' h]
  refine List.ext_getElem (by simp) fun i hi _ => ?_
  rw [List.length_map, List.length_range'] at hi
  rw [List.getElem_map, List.getElem_map, List.getElem_range',
    List.getElem_rotate, Nat.one_mul, Nat.add_comm i, List.getElem?_eq_getElem]

end Policy

/-! ## Eligible backends -/

namespace Pool

variable {p q : Pool} {rules : Selection} {failOpen : Bool}

/-- The numbers of the eligible backends, in their order. -/
def eligibleIds (failOpen : Bool) (p : Pool) : List Nat :=
  (p.eligible failOpen).map (·.id)

theorem pairwise_eligibleIds (failOpen : Bool) (p : Pool) :
    (p.eligibleIds failOpen).Pairwise (· < ·) := by
  have hall : p.candidates.Pairwise fun a b => a.id < b.id := by
    rw [← List.pairwise_map (f := Candidate.id), ids_candidates]
    exact List.pairwise_lt_range
  rw [eligibleIds, List.pairwise_map, eligible]
  split <;> exact hall.filter _

/-- The weight of the backend of a number. -/
def weightOf (p : Pool) (id : Nat) : Nat :=
  (p.backends[id]?.map (·.weight)).getD 0

/-- The wheel of the eligible backends depends on their numbers and the
backends, unless connections matter. -/
theorem wheel_congr {policy : Policy} (hpolicy : policy ≠ .leastConnections)
    (hbackends : q.backends = p.backends)
    (hids : q.eligibleIds failOpen = p.eligibleIds failOpen) :
    policy.wheel (q.eligible failOpen) = policy.wheel (p.eligible failOpen) := by
  have hweighted : ∀ p : Pool, Policy.wheel .weightedRoundRobin (p.eligible failOpen) =
      (p.eligibleIds failOpen).flatMap fun id => List.replicate (p.weightOf id) id := by
    intro p
    rw [Policy.wheel, eligibleIds, List.flatMap_map]
    refine List.flatMap_congr fun c hc => ?_
    rw [weightOf, backends, List.getElem?_map, member_of_eligible hc]
    rfl
  cases policy with
  | roundRobin => exact hids
  | weightedRoundRobin => simp only [hweighted, hids, weightOf, hbackends]
  | leastConnections => exact absurd rfl hpolicy

/-- A selection is a pick among the eligible backends. -/
theorem select_eq_pick (rules : Selection) (p : Pool) :
    (p.select rules).1.toOption = (rules.policy.pick (p.eligible rules.failOpen) p).1 ∧
      (p.select rules).2 = (rules.policy.pick (p.eligible rules.failOpen) p).2 := by
  rw [select]
  split
  · rename_i hpick
    rw [hpick]
    exact ⟨rfl, rfl⟩
  · rename_i hpick
    rw [hpick]
    exact ⟨rfl, rfl⟩

/-- **A pool selects where the wheel of its eligible backends stands**, and
moves it if there are any. -/
theorem select_eq_wheel (rules : Selection) (p : Pool) :
    (p.select rules).1.toOption =
      (rules.policy.wheel (p.eligible rules.failOpen))[p.cursor.toNat %
        (rules.policy.wheel (p.eligible rules.failOpen)).length]? ∧
      (p.select rules).2 = if p.eligible rules.failOpen = [] then p
        else p.advance := by
  obtain ⟨hpicked, hpool⟩ := select_eq_pick rules p
  rw [hpicked, hpool]
  by_cases h : p.eligible rules.failOpen = []
  · rw [h, Policy.pick_nil, if_pos rfl]
    exact ⟨by cases rules.policy <;> rfl, rfl⟩
  · rw [Policy.pick_eq_wheel rules.policy h, if_neg h]
    exact ⟨rfl, rfl⟩

end Pool

/-! ## Histories -/

namespace Ledger

variable {rules : Selection} {l : Ledger} {ops : List Operation}

/-- What the selections of a history picked, in their order. -/
def picked (answers : List Answer) : List (Option Nat) :=
  answers.filterMap Answer.picked?

/-- Whatever happens between selections leaves the cursor and the set of
eligible backends alone. -/
def Steady (rules : Selection) : List Operation → Ledger → Prop
  | [], _ => True
  | op :: ops, l =>
    (op ≠ .select →
      (l.perform rules op).2.fleet.pool.cursor = l.fleet.pool.cursor ∧
      ∀ id, id ∈ (l.perform rules op).2.fleet.pool.eligibleIds rules.failOpen ↔
        id ∈ l.fleet.pool.eligibleIds rules.failOpen) ∧
    Steady rules ops (l.perform rules op).2

theorem picked_run_cons (rules : Selection) (op : Operation)
    (ops : List Operation) (l : Ledger) :
    picked (run rules (op :: ops) l).1 =
      ((l.perform rules op).1.picked?).toList ++
        picked (run rules ops (l.perform rules op).2).1 := by
  rw [run, picked, List.filterMap_cons]
  cases (l.perform rules op).1.picked? <;> rfl

/-- Whatever happens between selections leaves the cursor and the wheel
alone. -/
def Unturned (rules : Selection) : List Operation → Ledger → Prop
  | [], _ => True
  | op :: ops, l =>
    (op ≠ .select →
      (l.perform rules op).2.fleet.pool.cursor = l.fleet.pool.cursor ∧
      rules.policy.wheel ((l.perform rules op).2.fleet.pool.eligible rules.failOpen) =
        rules.policy.wheel (l.fleet.pool.eligible rules.failOpen)) ∧
    Unturned rules ops (l.perform rules op).2

/-- **Selections turn the wheel** on from the cursor, if nothing else does. -/
theorem picked_run_of_unturned (hunturned : Unturned rules ops l) :
    picked (run rules ops l).1 =
      Policy.spin (rules.policy.wheel (l.fleet.pool.eligible rules.failOpen))
        l.fleet.pool.cursor (ops.count .select) := by
  induction ops generalizing l with
  | nil => rfl
  | cons op ops ih =>
    obtain ⟨hother, hunturned⟩ := hunturned
    rw [picked_run_cons, ih hunturned]
    by_cases hop : op = .select
    · subst hop
      obtain ⟨hpicked, hpool⟩ := l.fleet.pool.select_eq_wheel rules
      rw [perform_select, List.count_cons_self, Policy.spin, ← hpicked]
      dsimp only [Answer.picked?, Option.toList_some, List.singleton_append]
      rw [hpool]
      split
      · rename_i hnone
        -- without an eligible backend the cursor stays, but then it does not
        -- matter
        have hwheel : rules.policy.wheel [] = [] := by cases rules.policy <;> rfl
        rw [hnone, hwheel, Policy.spin_nil]
      · rfl
    · obtain ⟨hcursor, hwheel⟩ := hother hop
      rw [picked?_perform rules hop l, hwheel, hcursor, List.count_cons_of_ne hop]
      rfl

/-- A steady history leaves the wheel alone, unless connections matter. -/
theorem Steady.unturned (hpolicy : rules.policy ≠ .leastConnections)
    (hsteady : Steady rules ops l) :
    Unturned rules ops l := by
  induction ops generalizing l with
  | nil => trivial
  | cons op ops ih =>
    obtain ⟨hother, hsteady⟩ := hsteady
    refine ⟨fun hop => ?_, ih hsteady⟩
    obtain ⟨hcursor, hids⟩ := hother hop
    exact ⟨hcursor, Pool.wheel_congr hpolicy (performed_perform rules op l).backends_eq
      ((Pool.pairwise_eligibleIds _ _).eq_of_mem_iff (Pool.pairwise_eligibleIds _ _) hids)⟩

/-- **The selections of a steady history turn the wheel** on from the cursor. -/
theorem picked_run (hpolicy : rules.policy ≠ .leastConnections)
    (hsteady : Steady rules ops l) :
    picked (run rules ops l).1 =
      Policy.spin (rules.policy.wheel (l.fleet.pool.eligible rules.failOpen))
        l.fleet.pool.cursor (ops.count .select) :=
  picked_run_of_unturned (hsteady.unturned hpolicy)

/-- **Rotation is fair from any cursor.** In a history that leaves the cursor
and the set of eligible backends to its selections, let these be as many as
there are eligible backends, or by weight as all their weights come to, and let
the cursor not start again. One after the other, each eligible backend is then
picked once, in their order from where the cursor stands; by weight each is
picked exactly as often as its weight says, and no other one is. No turn by
weight falls outside every share. -/
theorem selections_rotate (rules : Selection) (hsteady : Steady rules ops l) :
    let eligible := l.fleet.pool.eligible rules.failOpen
    let ids := l.fleet.pool.eligibleIds rules.failOpen
    let cursor := l.fleet.pool.cursor.toNat
    ids.Pairwise (· < ·) ∧
      (rules.policy = .roundRobin → ops.count .select = eligible.length →
        cursor + eligible.length ≤ 2 ^ 64 →
        ∃ picks : List Nat, picked (run rules ops l).1 = picks.map some ∧
          picks = ids.rotate cursor ∧ picks.Nodup ∧
          ∀ id, id ∈ picks ↔ id ∈ ids) ∧
      (rules.policy = .weightedRoundRobin →
        ops.count .select = Policy.totalWeight eligible →
        cursor + Policy.totalWeight eligible ≤ 2 ^ 64 →
        ∃ picks : List Nat, picked (run rules ops l).1 = picks.map some ∧
          (∀ c ∈ eligible, picks.count c.id = c.member.backend.weight) ∧
          ∀ id ∈ picks, id ∈ ids) ∧
      ∀ (p : Pool) (cs : List Candidate), cs ≠ [] →
        (Policy.shareOf cs (p.turn (Policy.totalWeight cs)).1).isSome = true := by
  intro eligible ids cursor
  have hids : ids.Pairwise (· < ·) := l.fleet.pool.pairwise_eligibleIds rules.failOpen
  have hround : ∀ wheel, rules.policy.wheel eligible = wheel →
      rules.policy ≠ .leastConnections →
      ops.count .select = wheel.length → cursor + wheel.length ≤ 2 ^ 64 →
      picked (run rules ops l).1 = (wheel.rotate cursor).map some := by
    rintro wheel rfl hpolicy hcount hcursor
    rw [picked_run hpolicy hsteady, hcount]
    exact Policy.spin_length hcursor
  refine ⟨hids, fun hpolicy hcount hcursor => ?_,
    fun hpolicy hcount hcursor => ?_, fun p cs h => ?_⟩
  · have hlength : ids.length = eligible.length := List.length_map _
    refine ⟨ids.rotate cursor, ?_, rfl,
      List.nodup_rotate.2 (hids.imp Nat.ne_of_lt), fun id => List.mem_rotate⟩
    exact hround ids (by rw [hpolicy]; rfl) (by rw [hpolicy]; decide)
      (hlength ▸ hcount) (hlength ▸ hcursor)
  · rw [← Policy.length_wheel_weighted] at hcount hcursor
    refine ⟨_, hround _ (by rw [hpolicy]) (by rw [hpolicy]; decide) hcount
      hcursor, fun c hc => ?_, fun id hid => ?_⟩
    · rw [(List.rotate_perm _ _).count_eq,
        Policy.count_wheel_weighted hc (hids.imp Nat.ne_of_lt)]
    · exact Policy.mem_of_mem_wheel_weighted (List.mem_rotate.1 hid)
  · rw [Pool.turn_eq (Policy.totalWeight_pos h)]
    exact Policy.shareOf_isSome (Nat.mod_lt _ (Policy.totalWeight_pos h))

/-- Three selections by weight, up to the last number of the cursor, among
backends of the weights 2, 5 and 1 of which the second is unhealthy. A
connection that begins and a failure that is the first come between them. -/
theorem selections_rotate_last :
    let backend (name : String) (weight : Nat) : Backend :=
      .ofWeight name ⟨.loopback, 1, 0⟩ weight none
    let pool : Pool :=
      { members := [⟨backend "a" 2, {}, 0⟩,
          ⟨backend "b" 5, { healthy := false }, 0⟩, ⟨backend "c" 1, {}, 0⟩]
        cursor := 18446744073709551613 }
    let rules : Selection := { policy := .weightedRoundRobin }
    let ops : List Operation :=
      [.select, .begin 0, .select, .failure 2 .timeout, .select]
    Steady rules ops { fleet := { pool := pool } } ∧ pool.cursor.toNat + 3 = 2 ^ 64 ∧
      ∃ picks : List Nat, picked (run rules ops { fleet := { pool := pool } }).1 =
        picks.map some ∧
        picks.count 0 = 2 ∧ picks.count 2 = 1 ∧ ∀ id ∈ picks, id ∈ [0, 2] := by
  intro backend pool rules ops
  have hsame : ∀ {xs ys : List Nat}, xs = ys → ∀ id, id ∈ xs ↔ id ∈ ys := by
    rintro xs ys rfl id
    exact Iff.rfl
  have hsteady : Steady rules ops { fleet := { pool := pool } } :=
    ⟨fun h => absurd rfl h, fun _ =>
      ⟨by decide +kernel, hsame (by decide +kernel)⟩, fun h => absurd rfl h,
      fun _ => ⟨by decide +kernel, hsame (by decide +kernel)⟩,
      fun h => absurd rfl h, trivial⟩
  obtain ⟨-, -, hweighted, -⟩ := selections_rotate rules hsteady
  obtain ⟨picks, hpicks, hcount, hids⟩ :=
    hweighted rfl (by decide +kernel) (by decide +kernel)
  refine ⟨hsteady, by decide +kernel, picks, hpicks, ?_, ?_, hids⟩
  · exact hcount ⟨0, ⟨backend "a" 2, {}, 0⟩⟩ (by decide +kernel)
  · exact hcount ⟨2, ⟨backend "c" 1, {}, 0⟩⟩ (by decide +kernel)

end Ledger

end Gateway
