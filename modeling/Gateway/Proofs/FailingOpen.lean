import Gateway.Pool.Operation
import Gateway.Proofs.Choosing

/-!
# Failing open

A pool that fails open gives a request to an unhealthy backend where no backend
is healthy. One healthy backend is enough to keep it from that, even one that is
full: then a request is refused beside unhealthy backends with room.

* `Member.hasCapacity_eq_false_iff`: which backends are full;
* `Pool.eligible_eq_nil_iff`: where no backend is eligible;
* `Fleet.exists_refusal_iff`: when a pool that fails open refuses a request;
* `Ledger.refusal_beside_room`: a history that leads to a refusal beside a
  backend with room.
-/

namespace Gateway

/-- A backend is full if it has as many connections as it may have, or more. -/
def Member.IsFull (m : Member) : Prop :=
  ∃ most, m.backend.capacity = some most ∧ most ≤ m.active

/-- **A backend has no room exactly if it is full.** One without a limit never
is. -/
theorem Member.hasCapacity_eq_false_iff {m : Member} :
    m.hasCapacity = false ↔ m.IsFull := by
  rw [hasCapacity, IsFull]
  cases m.backend.capacity with
  | none => simp
  | some most => simp

/-- **No backend is eligible** exactly if those that may be picked are full: the
healthy ones, and all of them where the pool fails open and none is healthy. -/
theorem Pool.eligible_eq_nil_iff {failOpen : Bool} {p : Pool} :
    p.eligible failOpen = [] ↔
      ∀ m ∈ p.members,
        (m.health.healthy = true ∨ failOpen = true ∧
          ∀ m ∈ p.members, m.health.healthy = false) → m.IsFull := by
  constructor
  · intro h m hm hmay
    exact Member.hasCapacity_eq_false_iff.1 (not_hasCapacity_of_ineligible h hm hmay)
  · intro h
    refine List.eq_nil_iff_forall_not_mem.2 fun c hc => ?_
    obtain ⟨hmember, hroom, hmay⟩ := mem_eligible_iff.1 hc
    have hfull :=
      Member.hasCapacity_eq_false_iff.2 (h _ (List.mem_of_getElem? hmember) hmay)
    rw [hroom] at hfull
    cases hfull

namespace Fleet

/-- A request is refused exactly if no backend is eligible. -/
theorem exists_refusal_iff_eligible {rules : Selection} {f : Fleet} :
    (∃ e, (f.select rules).1 = .error e) ↔ f.pool.eligible rules.failOpen = [] := by
  constructor
  · rintro ⟨e, he⟩
    refine Decidable.byContradiction fun hne => ?_
    obtain ⟨c, -, -, hselect⟩ := Pool.select_of_eligible hne
    rw [select, hselect] at he
    cases he
  · intro h
    exact ⟨_, by rw [select, Pool.select_of_ineligible h]⟩

/-- **A pool that fails open refuses a request** exactly if every backend is
full, or some backend is healthy and every healthy one is full. -/
theorem exists_refusal_iff {rules : Selection} (hopen : rules.failOpen = true)
    (f : Fleet) :
    (∃ e, (f.select rules).1 = .error e) ↔
      (∀ m ∈ f.pool.members, m.IsFull) ∨
        (∃ m ∈ f.pool.members, m.health.healthy = true) ∧
          ∀ m ∈ f.pool.members, m.health.healthy = true → m.IsFull := by
  rw [exists_refusal_iff_eligible, Pool.eligible_eq_nil_iff]
  by_cases hany : ∃ m ∈ f.pool.members, m.health.healthy = true
  · -- a healthy backend keeps the pool from failing open
    have hnot : ¬ ∀ m ∈ f.pool.members, m.health.healthy = false := by
      obtain ⟨m, hm, hhealthy⟩ := hany
      intro hnone
      rw [hnone m hm] at hhealthy
      cases hhealthy
    simp only [hnot, and_false, or_false, hany, true_and]
    exact ⟨.inr, fun h => h.elim (fun hall m hm _ => hall m hm) id⟩
  · have hnone : ∀ m ∈ f.pool.members, m.health.healthy = false := by
      simpa using hany
    simp only [hany, false_and, or_false]
    exact ⟨fun h m hm => h m hm (.inr ⟨hopen, hnone⟩), fun h m hm _ => h m hm⟩

/-- Where no backend is healthy, one with room takes the request. -/
theorem exists_refusal_iff_unhealthy :
    let ailing : Health := { healthy := false }
    let f : Fleet :=
      { pool := { members := [⟨⟨"a", ⟨.loopback, 1, 0⟩, 1, some 2, by decide⟩, ailing, 2⟩,
      ⟨⟨"b", ⟨.loopback, 2, 0⟩, 1, some 2, by decide⟩, ailing, 1⟩] } }
    ¬ ∃ e, (f.select { policy := .leastConnections, failOpen := true }).1 =
      .error e := by
  intro ailing f
  rw [exists_refusal_iff rfl]
  simp [f, ailing, Member.IsFull]

end Fleet

/-- A healthy backend that is full keeps an unhealthy one without a limit from
the request. -/
theorem Ledger.refusal_beside_room :
    let backends : List Backend :=
      [⟨"a", ⟨.loopback, 1, 0⟩, 1, some 1, by decide⟩,
        ⟨"b", ⟨.loopback, 2, 0⟩, 1, none, by decide⟩]
    let rules : Selection := { failOpen := true }
    let l := (run rules [.failure 1 .timeout, .failure 1 .timeout,
      .failure 1 .timeout, .begin 0]
      ⟨{ pool := .ofBackends backends {} }, []⟩).2
    (l.fleet.select rules).1 = .error ⟨2, 1⟩ ∧ ¬ ∀ m ∈ l.fleet.pool.members,
      m.IsFull := by
  intro backends rules l
  refine ⟨rfl, fun hfull => ?_⟩
  have hmember : l.fleet.pool.members[1]?.map (fun m => m.backend.capacity) =
      some none := by decide +kernel
  obtain ⟨m, hm, hcapacity⟩ := Option.map_eq_some_iff.1 hmember
  obtain ⟨most, hmost, -⟩ := hfull m (List.mem_of_getElem? hm)
  rw [hcapacity] at hmost
  cases hmost

end Gateway
