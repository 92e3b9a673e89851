import Gateway.Proofs.Locality

/-!
# Connections and slots

A backend is said to have as many connections as it has open slots. That is so
as long as only slots end connections; an end without a slot takes a connection
away that a slot stands for, so then there may be fewer.

* `Ledger.Tally` says how an operation moves both numbers of a backend, and
  `Ledger.tally_perform` that it does;
* `Ledger.Balanced` is the invariant where only slots end connections, and
  `Ledger.Bounded` the one that is left where anything does;
* `Ledger.openSlots_dropAll`: when all slots are dropped, none is open;
* `Ledger.run_balanced`: what holds of every history of a new pool.
-/

namespace Gateway.Ledger

variable {rules : Selection} {op : Operation} {ops : List Operation}
  {l k : Ledger} {id : Nat} {m n : Member}

/-! ## One operation -/

/-- What an operation does to the connections and the open slots of a
backend. -/
inductive Tally (op : Operation) (id : Nat) :
    (active slots active' slots' : Nat) → Prop where
  /-- A connection begins with its slot. -/
  | began {active slots : Nat} : op = .begin id →
      Tally op id active slots (active + 1) (slots + 1)
  /-- A slot is dropped, and a connection ends with it, if there is one. -/
  | dropped {active slots : Nat} : Tally op id active (slots + 1) (active - 1) slots
  /-- A connection ends without a slot, if there is one. -/
  | finished {active slots : Nat} : op = .finish id →
      Tally op id active slots (active - 1) slots
  /-- Both stay. -/
  | kept {active slots : Nat} : Tally op id active slots active slots

/-- A slot that another backend begins or drops is none of this one. -/
theorem count_slots_of_ne {slots : List (Option Nat)} {other : Nat}
    (hop : op.backend? slots = some other) (hne : other ≠ id) :
    (op.slots slots).count (some id) = slots.count (some id) := by
  have hne' : some other ≠ some id := fun h => hne (Option.some.inj h)
  cases op with
  | begin =>
    cases hop
    rw [Operation.slots, List.count_append, List.count_singleton,
      if_neg (by simpa using hne), Nat.add_zero]
  | drop slot =>
    have hslot : slots[slot]? = some (some other) := Option.join_eq_some_iff.1 hop
    obtain ⟨hlt, hget⟩ := List.getElem?_eq_some_iff.1 hslot
    rw [Operation.slots, List.count_set hlt, hget]
    simp [hne]
  | _ => rfl

/-- **An operation moves both numbers together**, unless it ends a connection
that has no slot. -/
theorem tally_perform (rules : Selection) (op : Operation)
    (hm : l.fleet.pool.members[id]? = some m) :
    ∃ n, (l.perform rules op).2.fleet.pool.members[id]? = some n ∧
      Tally op id m.active (l.openSlots id) n.active
        ((l.perform rules op).2.openSlots id) := by
  cases hop : op.backend? l.slots with
  | none =>
    obtain ⟨hmembers, -, hslots⟩ := perform_of_no_backend rules hop
    rw [hmembers, openSlots, openSlots, hslots]
    exact ⟨m, hm, .kept⟩
  | some other =>
    cases hk : l.fleet.pool.members[other]? with
    | none =>
      rw [perform_of_unknown_backend rules hop hk]
      exact ⟨m, hm, .kept⟩
    | some k =>
      obtain ⟨-, hpool, hslots⟩ := does_perform rules hop hk
      rw [hpool, openSlots, openSlots, hslots]
      by_cases hother : other = id
      · subst hother
        cases hm.symm.trans hk
        refine ⟨_, Pool.put_getElem_self hm _, ?_⟩
        cases op with
        | begin =>
          cases hop
          rw [Operation.slots, List.count_append, List.count_singleton,
            if_pos (beq_self_eq_true _)]
          exact .began rfl
        | drop slot =>
          have hslot : l.slots[slot]? = some (some other) :=
            Option.join_eq_some_iff.1 hop
          obtain ⟨hlt, hget⟩ := List.getElem?_eq_some_iff.1 hslot
          obtain ⟨left, hleft⟩ := Nat.exists_eq_add_one.2
            (List.count_pos_iff.2 (List.mem_of_getElem? hslot))
          have hset : (l.slots.set slot none).count (some other) = left := by
            rw [List.count_set hlt, hget, hleft]
            simp
          rw [Operation.slots, hset, hleft]
          exact .dropped
        | finish =>
          cases hop
          exact .finished rfl
        | outcome _ outcome =>
          cases outcome <;> exact .kept
        | _ => exact .kept
      · rw [count_slots_of_ne hop hother]
        exact ⟨m, (Pool.put_getElem_ne _ (Ne.symm hother)).trans hm, .kept⟩

/-- Every open slot is one of a backend that is there. -/
def Known (l : Ledger) : Prop :=
  ∀ id, some id ∈ l.slots → id < l.fleet.pool.size

/-- A new slot is one of a backend that is there. -/
theorem known_perform (rules : Selection) (op : Operation) (hknown : l.Known) :
    (l.perform rules op).2.Known := by
  intro id hid
  rw [size_perform]
  cases hop : op.backend? l.slots with
  | none =>
    rw [(perform_of_no_backend rules hop).2.2] at hid
    exact hknown id hid
  | some other =>
    cases hk : l.fleet.pool.members[other]? with
    | none =>
      rw [perform_of_unknown_backend rules hop hk] at hid
      exact hknown id hid
    | some k =>
      rw [(does_perform rules hop hk).slots] at hid
      cases op with
      | begin =>
        cases hop
        rcases List.mem_append.1 hid with hid | hid
        · exact hknown id hid
        · cases List.mem_singleton.1 hid
          exact (List.getElem?_eq_some_iff.1 hk).1
      | drop slot =>
        rcases List.mem_or_eq_of_mem_set hid with hid | hid
        · exact hknown id hid
        · cases hid
      | _ => exact hknown id hid

/-! ## Histories -/

/-- What every operation preserves, a history preserves. -/
theorem run_preserves {P : Ledger → Prop}
    (hstep : ∀ op ∈ ops, ∀ k, P k → P (k.perform rules op).2) (h : P l) :
    P (run rules ops l).2 := by
  induction ops generalizing l with
  | nil => exact h
  | cons op ops ih =>
    exact ih (fun op' hop' => hstep op' (List.mem_cons_of_mem _ hop'))
      (hstep op List.mem_cons_self l h)

/-- The connections of every backend are in this relation to its open slots. -/
def Tallied (rel : Nat → Nat → Prop) (l : Ledger) : Prop :=
  ∀ id m, l.fleet.pool.members[id]? = some m → rel m.active (l.openSlots id)

/-- A relation that every move of both numbers keeps stays. -/
theorem tallied_perform {rel : Nat → Nat → Prop} (rules : Selection)
    (hstep : ∀ {id active slots active' slots'}, Tally op id active slots
      active' slots' → rel active slots → rel active' slots')
    (h : l.Tallied rel) : (l.perform rules op).2.Tallied rel := by
  intro id n hn
  have hlt : id < (l.perform rules op).2.fleet.pool.size :=
    (List.getElem?_eq_some_iff.1 hn).1
  rw [size_perform] at hlt
  have hm := List.getElem?_eq_getElem hlt
  obtain ⟨n', hn', htally⟩ := tally_perform rules op hm
  cases hn.symm.trans hn'
  exact hstep htally (h id _ hm)

/-- Where only slots end connections there are as many connections as open
slots. -/
theorem balanced_run (rules : Selection) (hops : ∀ id, .finish id ∉ ops)
    (h : l.Tallied (· = ·)) :
    (run rules ops l).2.Tallied (· = ·) := by
  apply run_preserves _ h
  intro op hop k hk
  apply tallied_perform rules _ hk
  intro id active slots active' slots' htally heq
  cases htally with
  | began => rw [heq]
  | dropped => rw [heq, Nat.add_sub_cancel]
  | finished hfinish => exact absurd (hfinish ▸ hop) (hops id)
  | kept => exact heq

/-- Whatever ends connections, there are at most as many as open slots. -/
theorem bounded_run (rules : Selection) (ops : List Operation)
    (h : l.Tallied (· ≤ ·)) :
    (run rules ops l).2.Tallied (· ≤ ·) := by
  apply run_preserves _ h
  intro op _ k hk
  apply tallied_perform rules _ hk
  intro id active slots active' slots' htally hle
  cases htally with
  | began => exact Nat.succ_le_succ hle
  | dropped => exact Nat.sub_le_of_le_add hle
  | finished => exact Nat.le_trans (Nat.sub_le active 1) hle
  | kept => exact hle

/-! ## All slots dropped -/

/-- A slot that is dropped is closed. -/
theorem slots_perform_drop (rules : Selection) (slot : Nat) (hknown : l.Known) :
    (l.perform rules (.drop slot)).2.slots = l.slots.set slot none := by
  cases hop : (Operation.drop slot).backend? l.slots with
  | none =>
    rw [(perform_of_no_backend rules hop).2.2]
    rcases hslot : l.slots[slot]? with _ | _ | id
    · exact (List.set_eq_of_length_le (List.getElem?_eq_none_iff.1 hslot)).symm
    · obtain ⟨hlt, hget⟩ := List.getElem?_eq_some_iff.1 hslot
      rw [← hget, List.set_getElem_self]
    · rw [Operation.backend?, hslot] at hop
      cases hop
  | some id =>
    have hslot : l.slots[slot]? = some (some id) := Option.join_eq_some_iff.1 hop
    have hlt := hknown id (List.mem_of_getElem? hslot)
    exact (does_perform rules hop (List.getElem?_eq_getElem hlt)).slots

/-- A slot that is open when some are dropped is none of them, and was open
before. -/
theorem getElem?_of_drops (rules : Selection) {dropped : List Nat} {slot : Nat}
    (hknown : l.Known)
    (h : (run rules (dropped.map .drop) l).2.slots[slot]? = some (some id)) :
    slot ∉ dropped ∧ l.slots[slot]? = some (some id) := by
  induction dropped generalizing l with
  | nil => exact ⟨List.not_mem_nil, h⟩
  | cons first dropped ih =>
    obtain ⟨hrest, hslot⟩ := ih (known_perform rules (.drop first) hknown) h
    rw [slots_perform_drop rules first hknown] at hslot
    have hne : first ≠ slot := by
      rintro rfl
      obtain ⟨hlt, hget⟩ := List.getElem?_eq_some_iff.1 hslot
      rw [List.getElem_set_self] at hget
      cases hget
    rw [List.getElem?_set_ne hne] at hslot
    exact ⟨List.not_mem_cons_of_ne_of_not_mem (Ne.symm hne) hrest, hslot⟩

/-- **When all slots are dropped, none is open.** -/
theorem openSlots_dropAll (rules : Selection) (id : Nat) (hknown : l.Known) :
    (l.dropAll rules).openSlots id = 0 := by
  apply List.count_eq_zero.2
  intro hmem
  obtain ⟨slot, hslot⟩ := List.mem_iff_getElem?.1 hmem
  obtain ⟨hnot, hbefore⟩ := getElem?_of_drops rules hknown hslot
  exact hnot (List.mem_range.2 (List.getElem?_eq_some_iff.1 hbefore).1)

/-! ## New pools -/

theorem endConnection_pool_cases {p : Pool} (hm : p.members[id]? = some m) :
    m.active = 0 ∧ p.endConnection id = .ok (none, p) ∨
      ∃ n, m.active = n + 1 ∧
        p.endConnection id = .ok (some n, p.withActive id m n) := by
  rw [Pool.endConnection, Pool.update_of_member _ hm]
  cases hactive : m.active with
  | zero =>
    exact .inl ⟨rfl, congrArg (fun q => Except.ok (none, q)) (Pool.put_self hm)⟩
  | succ n => exact .inr ⟨n, rfl, rfl⟩

/-- **A backend has as many connections as open slots**, as long as only slots
end connections. Then every slot that is dropped takes a connection away.
Whatever ends connections besides, a backend never has more than open slots, an
end takes away no connection that is not there, and none is left when all slots
are dropped. -/
theorem run_balanced (rules : Selection) (backends : List Backend)
    (t : Thresholds) (ops : List Operation) :
    let l := (run rules ops { fleet := { pool := .ofBackends backends t } }).2
    let pool := l.fleet.pool
    ((∀ id, .finish id ∉ ops) →
        (∀ id m, pool.members[id]? = some m → m.active = l.openSlots id) ∧
        ∀ (slot id : Nat), l.slots[slot]? = some (some id) →
          ∃ m n, pool.members[id]? = some m ∧ m.active = n + 1 ∧
            pool.endConnection id = .ok (some n, pool.withActive id m n)) ∧
      (∀ id m, pool.members[id]? = some m →
        m.active ≤ l.openSlots id ∧
        (m.active = 0 ∧ pool.endConnection id = .ok (none, pool) ∨
          ∃ n, m.active = n + 1 ∧
            pool.endConnection id = .ok (some n, pool.withActive id m n))) ∧
      (∀ id, (l.dropAll rules).openSlots id = 0) ∧
      ∀ m ∈ (l.dropAll rules).fleet.pool.members, m.active = 0 := by
  intro l pool
  have hnew : ∀ (id : Nat) (m : Member),
      (Pool.ofBackends backends t).members[id]? = some m → m.active = 0 := by
    intro id m hm
    obtain ⟨backend, -, rfl⟩ := Pool.member_of_ofBackends hm
    rfl
  have hknown : l.Known :=
    run_preserves (fun op _ k hk => known_perform rules op hk) fun id hid =>
      absurd hid List.not_mem_nil
  have hbounded : l.Tallied (· ≤ ·) :=
    bounded_run rules ops fun id m hm => Nat.le_of_eq (hnew id m hm)
  refine ⟨fun hops => ?_, fun id m hm => ⟨hbounded id m hm, endConnection_pool_cases hm⟩,
    fun id => openSlots_dropAll rules id hknown, fun m hmem => ?_⟩
  · have hbalanced : l.Tallied (· = ·) := balanced_run rules hops hnew
    refine ⟨hbalanced, fun slot id hslot => ?_⟩
    have hmem := List.mem_of_getElem? hslot
    have hm := List.getElem?_eq_getElem (hknown id hmem)
    rcases endConnection_pool_cases hm with ⟨hnone, -⟩ | ⟨n, hn, hend⟩
    · rw [hbalanced id _ hm] at hnone
      exact absurd hmem (List.count_eq_zero.1 hnone)
    · exact ⟨_, n, hm, hn, hend⟩
  · obtain ⟨id, hm⟩ := List.mem_iff_getElem?.1 hmem
    have hle : m.active ≤ (l.dropAll rules).openSlots id :=
      bounded_run rules _ hbounded id m hm
    rw [openSlots_dropAll rules id hknown] at hle
    exact Nat.le_zero.1 hle

/-- Two connections of one backend and one of another, with signals between,
where only a slot ends one: the slots that are left stand for a connection
each. -/
theorem run_balanced_three :
    let first : Backend := ⟨"a", ⟨.loopback, 1, 0⟩, 1, none, by decide⟩
    let second : Backend := ⟨"b", ⟨.loopback, 2, 0⟩, 1, none, by decide⟩
    let ops : List Operation :=
      [.begin 0, .begin 1, .failure 0 .timeout, .begin 0, .select, .drop 0,
        .probe 1 none, .drop 0, .begin 7]
    let l := (run {} ops { fleet := { pool := .ofBackends [first, second] {} } }).2
    (∀ id, .finish id ∉ ops) ∧ l.slots = [none, some 1, some 0] ∧
      (∀ id m, l.fleet.pool.members[id]? = some m → m.active = l.openSlots id) ∧
      ∃ m n, l.fleet.pool.members[0]? = some m ∧ m.active = n + 1 ∧
        l.fleet.pool.endConnection 0 = .ok (some n, l.fleet.pool.withActive 0 m n) := by
  intro first second ops l
  have hops : ∀ id, .finish id ∉ ops := fun id h => by simp [ops] at h
  obtain ⟨hbalanced, hend⟩ := (run_balanced {} [first, second] {} ops).1 hops
  exact ⟨hops, by decide, hbalanced, hend 2 0 (by decide)⟩

end Gateway.Ledger
