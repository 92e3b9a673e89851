import Gateway.Proofs.Operations

/-!
# What an operation does to the backend it names

An operation names at most one backend, by its number or by a slot, and does
nothing to any other. What it does to that one, and what it answers, depends on
the backend alone.

* `Operation.backend?` says which backend an operation names, and
  `Operation.effect` what it does to it;
* `Ledger.perform_of_backend`: an operation does no more than this effect, and
  opens or closes one slot;
* `Ledger.perform_of_no_backend` and `Ledger.perform_of_unknown_backend`:
  without a backend there is no effect.
-/

namespace Gateway

/-- What is answered, but for the number of the slot. -/
def Answer.unnumbered : Answer → Answer
  | .began _ active => .began 0 active
  | answer => answer

/-- The health of a member changes, and the answer says how. -/
def Member.told (m : Member)
    (change : Option Transition × Health) : Answer × Member :=
  (.transition change.1, { m with health := change.2 })

namespace Operation

/-- The backend that an operation names. A slot names the one that it belongs
to. -/
def backend? (slots : List (Option Nat)) : Operation → Option Nat
  | .success id | .failure id _ | .probe id _ | .outcome id _ | .begin id | .finish id =>
    some id
  | .drop slot => slots[slot]?.join
  | .turn _ | .select => none

/-- What an operation does to the backend that it names, and what it answers but
for the number of a slot. -/
def effect (t : Thresholds) (m : Member) : Operation → Answer × Member
  | .success _ | .outcome _ .success => m.told (m.health.succeed t)
  | .failure _ kind | .outcome _ (.failed kind) => m.told (m.health.fail t kind)
  | .probe _ result => m.told (m.health.probe t result)
  | .begin _ => (.began 0 (m.active + 1), { m with active := m.active + 1 })
  | .drop _ =>
    (.dropped (some (m.active - 1)), { m with active := m.active - 1 })
  | .finish _ => (.finished (m.active - 1), { m with active := m.active - 1 })
  | .outcome _ _ | .turn _ | .select => (.transition none, m)

/-- The slots when the operation is done. -/
def slots (held : List (Option Nat)) : Operation → List (Option Nat)
  | .begin id => held ++ [some id]
  | .drop slot => held.set slot none
  | _ => held

end Operation

/-- The pool with another member in the place of a number. -/
def Pool.put (id : Nat) (m : Member) (p : Pool) : Pool :=
  { p with members := p.members.set id m }

namespace Pool

variable {p : Pool} {id other : Nat} {m n : Member}

theorem put_getElem_self (hm : p.members[id]? = some m) (n : Member) :
    (p.put id n).members[id]? = some n := by
  have hlt := (List.getElem?_eq_some_iff.1 hm).1
  simp [put, hlt]

theorem put_getElem_ne (n : Member) (hne : other ≠ id) :
    (p.put id n).members[other]? = p.members[other]? := by
  simp [put, Ne.symm hne]

theorem put_comm (p : Pool) (m n : Member) (hne : id ≠ other) :
    (p.put id m).put other n = (p.put other n).put id m := by
  simp only [put, List.set_comm _ _ hne]

theorem put_self (hm : p.members[id]? = some m) : p.put id m = p :=
  withHealth_self hm

end Pool

namespace Ledger

variable {op : Operation} {l : Ledger} {id : Nat} {m : Member}

/-- What an operation does where its effect on a backend is known. -/
structure Does (l : Ledger) (op : Operation) (id : Nat)
    (effect : Answer × Member) (result : Answer × Ledger) :
    Prop where
  /-- It answers so. -/
  answer : result.1.unnumbered = effect.1
  /-- It changes the backend so, and no other. -/
  pool : result.2.fleet.pool = l.fleet.pool.put id effect.2
  /-- It opens or closes its slot. -/
  slots : result.2.slots = op.slots l.slots

theorem does_record (change : Thresholds → Health → Option Transition × Health)
    (hop : op.slots l.slots = l.slots) (hm : l.fleet.pool.members[id]? = some m) :
    l.Does op id (m.told (change l.fleet.pool.thresholds m.health))
      (l.signal (l.fleet.record id (Pool.updateHealth id change))) := by
  obtain ⟨g, hg, hpool⟩ := Fleet.record_of_member change hm
  rw [hg]
  exact ⟨rfl, hpool, hop.symm⟩

/-- **An operation has its effect on the backend that it names**, and no
other. -/
theorem does_perform (rules : Selection) (hop : op.backend? l.slots = some id)
    (hm : l.fleet.pool.members[id]? = some m) :
    l.Does op id (op.effect l.fleet.pool.thresholds m) (l.perform rules op) := by
  cases op with
  | success => cases hop; exact does_record (fun t => Health.succeed t) rfl hm
  | failure _ kind =>
    cases hop; exact does_record (fun t => Health.fail t kind) rfl hm
  | probe _ result =>
    cases hop; exact does_record (fun t => Health.probe t result) rfl hm
  | outcome _ outcome =>
    cases hop
    cases outcome with
    | success => exact does_record (fun t => Health.succeed t) rfl hm
    | failed kind => exact does_record (fun t => Health.fail t kind) rfl hm
    | _ => exact ⟨rfl, (Pool.put_self hm).symm, rfl⟩
  | begin =>
    cases hop
    obtain ⟨g, hg, hpool⟩ := perform_begin rules hm
    rw [hg]
    exact ⟨rfl, hpool, rfl⟩
  | drop slot =>
    obtain ⟨g, hg, hpool⟩ := Fleet.endConnection_of_member hm
    have hslot : l.slots[slot]? = some (some id) := Option.join_eq_some_iff.1 hop
    rw [perform, hslot]
    dsimp only
    rw [hg]
    exact ⟨by simp only [Answer.unnumbered, Operation.effect, activeOf, hpool,
                Pool.withActive_getElem_self hm],
      hpool, rfl⟩
  | finish =>
    cases hop
    obtain ⟨g, hg, hpool⟩ := Fleet.endConnection_of_member hm
    rw [perform, hg]
    exact ⟨by simp only [Answer.unnumbered, Operation.effect, activeOf, hpool,
                Pool.withActive_getElem_self hm],
      hpool, rfl⟩
  | turn => cases hop
  | select => cases hop

/-- **An operation of a backend that is not there changes nothing.** -/
theorem perform_of_unknown_backend (rules : Selection)
    (hop : op.backend? l.slots = some id)
    (hm : l.fleet.pool.members[id]? = none) : (l.perform rules op).2 = l := by
  have hrecord : ∀ change,
      (l.signal (l.fleet.record id (Pool.updateHealth id change))).2 = l := by
    intro change
    rw [Fleet.record_of_unknown change hm]
    rfl
  have hend : l.fleet.endConnection id = .error ⟨id, l.fleet.pool.size⟩ := by
    rw [Fleet.endConnection, Pool.endConnection, Pool.update, hm]
  cases op with
  | success => cases hop; exact hrecord fun t => Health.succeed t
  | failure _ kind => cases hop; exact hrecord fun t => Health.fail t kind
  | probe _ result => cases hop; exact hrecord fun t => Health.probe t result
  | outcome _ outcome =>
    cases hop
    cases outcome with
    | success => exact hrecord fun t => Health.succeed t
    | failed kind => exact hrecord fun t => Health.fail t kind
    | _ => rfl
  | begin =>
    cases hop
    rw [perform, Fleet.beginConnection, Pool.beginConnection, Pool.update, hm]
  | drop slot =>
    have hslot : l.slots[slot]? = some (some id) := Option.join_eq_some_iff.1 hop
    rw [perform, hslot]
    dsimp only
    rw [hend]
  | finish =>
    cases hop
    rw [perform, hend]
  | turn => cases hop
  | select => cases hop

theorem perform_of_closed {slot : Nat} (rules : Selection)
    (hslot : ∀ id, l.slots[slot]? ≠ some (some id)) :
    l.perform rules (.drop slot) = (.dropped none, l) := by
  rw [perform]
  split
  · rename_i id hopen
    exact absurd hopen (hslot id)
  · rfl

/-- An operation that names no backend changes none, and no slot. -/
theorem perform_of_no_backend (rules : Selection)
    (hop : op.backend? l.slots = none) :
    (l.perform rules op).2.fleet.pool.members = l.fleet.pool.members ∧
      (l.perform rules op).2.fleet.pool.thresholds = l.fleet.pool.thresholds ∧
      (l.perform rules op).2.slots = l.slots := by
  cases op with
  | drop slot =>
    have hclosed : ∀ id, l.slots[slot]? ≠ some (some id) := fun id h => by
      rw [Operation.backend?, h] at hop
      cases hop
    rw [perform_of_closed rules hclosed]
    exact ⟨rfl, rfl, rfl⟩
  | turn => exact ⟨rfl, rfl, rfl⟩
  | select =>
    have hperformed := performed_perform rules .select l
    refine ⟨?_, hperformed.thresholds_eq, rfl⟩
    generalize (l.perform rules .select).2.fleet.pool = q at hperformed ⊢
    cases hperformed with
    | signal _ hs => cases hs
    | selected => rfl
    | idle => rfl
  | _ => cases hop

theorem size_perform (rules : Selection) (op : Operation) (l : Ledger) :
    (l.perform rules op).2.fleet.pool.size = l.fleet.pool.size := by
  have hbackends := congrArg List.length (performed_perform rules op l).backends_eq
  simpa [Pool.backends, Pool.size] using hbackends

/-- What was measured does not matter to the pool. -/
theorem perform_congr (rules : Selection) (op : Operation) {k : Ledger}
    (hpool : k.fleet.pool = l.fleet.pool) (hslots : k.slots = l.slots) :
    (k.perform rules op).2.fleet.pool = (l.perform rules op).2.fleet.pool ∧
      (k.perform rules op).2.slots = (l.perform rules op).2.slots := by
  cases hop : op.backend? l.slots with
  | some id =>
    cases hm : l.fleet.pool.members[id]? with
    | some m =>
      have hl := does_perform rules hop hm
      have hk := does_perform rules (hslots ▸ hop) (hpool ▸ hm)
      rw [hk.pool, hk.slots, hl.pool, hl.slots, hpool, hslots]
      exact ⟨rfl, rfl⟩
    | none =>
      rw [perform_of_unknown_backend rules hop hm,
        perform_of_unknown_backend rules (hslots ▸ hop) (hpool ▸ hm)]
      exact ⟨hpool, hslots⟩
  | none =>
    cases op with
    | drop slot =>
      have hclosed : ∀ id, l.slots[slot]? ≠ some (some id) := fun id h => by
        rw [Operation.backend?, h] at hop
        cases hop
      rw [perform_of_closed rules hclosed, perform_of_closed rules (hslots ▸ hclosed)]
      exact ⟨hpool, hslots⟩
    | turn count =>
      exact ⟨congrArg (fun pool => (pool.turn count).2) hpool, hslots⟩
    | select =>
      exact ⟨congrArg (fun pool => (pool.select rules).2) hpool, hslots⟩
    | _ => cases hop

end Ledger

end Gateway
