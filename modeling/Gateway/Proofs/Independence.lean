import Gateway.Proofs.Locality

/-!
# Backends apart from each other

What becomes of one backend in a history, and what is answered to the operations
that name it, is what becomes of it and is answered when only these operations
are done. A slot that belongs to the backend has another number then, since the
slots of the others are not there.

* `Operation.alone?` says what an operation is in the history of one backend,
  and `narrow` picks this history out of a whole one;
* `Ledger.Alone` relates the ledgers of both, `Ledger.alone_perform` is one step
  and `Ledger.alone_run` a history;
* `Ledger.perform_comm`: operations that name different backends can be done in
  either order;
* `Ledger.backends_independent` puts this together.
-/

namespace Gateway

variable {α : Type} {b : Nat}

/-! ## Slots of one backend -/

/-- The slots that belong to a backend, where the list of owners names the
backend of every slot. -/
def slotsOf (b : Nat) : (owners slots : List (Option Nat)) → List (Option Nat)
  | owner :: owners, slot :: slots =>
    if owner = some b then slot :: slotsOf b owners slots else slotsOf b owners slots
  | _, _ => []

/-- The number of a slot among those of its backend. -/
def renumber (b : Nat) (owners : List (Option Nat)) (slot : Nat) : Nat :=
  (owners.take slot).count (some b)

section slotsOf

variable {owners slots : List (Option Nat)} {slot : Nat}

/-- A slot is found under its new number. -/
theorem slotsOf_getElem? (hlength : slots.length = owners.length)
    (howner : owners[slot]? = some (some b)) :
    (slotsOf b owners slots)[renumber b owners slot]? = slots[slot]? := by
  induction owners generalizing slots slot with
  | nil => cases howner
  | cons owner owners ih =>
    obtain ⟨first, slots, rfl⟩ := List.exists_cons_of_length_eq_add_one hlength
    have hlength' := Nat.succ.inj hlength
    cases slot with
    | zero =>
      cases howner
      simp [slotsOf, renumber]
    | succ slot =>
      have hrest := ih hlength' howner
      by_cases hfirst : owner = some b
      · simpa [slotsOf, renumber, hfirst] using hrest
      · simpa [slotsOf, renumber, hfirst] using hrest

/-- A slot of the backend that is closed is closed under its new number. -/
theorem slotsOf_set (hlength : slots.length = owners.length)
    (howner : owners[slot]? = some (some b)) (state : Option Nat) :
    slotsOf b owners (slots.set slot state) =
      (slotsOf b owners slots).set (renumber b owners slot) state := by
  induction owners generalizing slots slot with
  | nil => cases howner
  | cons owner owners ih =>
    obtain ⟨first, slots, rfl⟩ := List.exists_cons_of_length_eq_add_one hlength
    have hlength' := Nat.succ.inj hlength
    cases slot with
    | zero =>
      cases howner
      simp [slotsOf, renumber]
    | succ slot =>
      have hrest := ih hlength' howner
      by_cases hfirst : owner = some b
      · simpa [slotsOf, renumber, hfirst] using hrest
      · simpa [slotsOf, renumber, hfirst] using hrest

/-- A slot of another backend is none of these. -/
theorem slotsOf_set_of_ne (hlength : slots.length = owners.length)
    (howner : owners[slot]? ≠ some (some b)) (state : Option Nat) :
    slotsOf b owners (slots.set slot state) = slotsOf b owners slots := by
  induction owners generalizing slots slot with
  | nil => rfl
  | cons owner owners ih =>
    obtain ⟨first, slots, rfl⟩ := List.exists_cons_of_length_eq_add_one hlength
    have hlength' := Nat.succ.inj hlength
    cases slot with
    | zero =>
      have hfirst : owner ≠ some b := fun h => howner (by rw [h]; rfl)
      simp [slotsOf, hfirst]
    | succ slot => simp [slotsOf, ih hlength' howner]

/-- A new slot stands behind the others. -/
theorem slotsOf_append (hlength : slots.length = owners.length)
    (owner state : Option Nat) :
    slotsOf b (owners ++ [owner]) (slots ++ [state]) =
      slotsOf b owners slots ++ if owner = some b then [state] else [] := by
  induction owners generalizing slots with
  | nil =>
    cases List.length_eq_zero_iff.1 hlength
    by_cases howner : owner = some b <;> simp [slotsOf, howner]
  | cons first owners ih =>
    obtain ⟨slot, slots, rfl⟩ := List.exists_cons_of_length_eq_add_one hlength
    have hrest := ih (Nat.succ.inj hlength)
    by_cases hfirst : first = some b <;> simp [slotsOf, hfirst, hrest]

end slotsOf

/-! ## Histories of one backend -/

namespace Operation

/-- The owners of the slots when the operation is done. -/
def owners (size : Nat) (held : List (Option Nat)) :
    Operation → List (Option Nat)
  | .begin id => if id < size then held ++ [some id] else held
  | _ => held

/-- The operation where only the slots of one backend are there. -/
def alone (b : Nat) (owners : List (Option Nat)) : Operation → Operation
  | .drop slot => .drop (renumber b owners slot)
  | op => op

end Operation

/-- The operations of a history that name a backend, each with what stands
beside it. A slot names the backend that it has ever belonged to. -/
def narrow (b size : Nat) :
    (owners : List (Option Nat)) → List (Operation × α) → List (Operation × α)
  | _, [] => []
  | owners, (op, a) :: rest =>
    if op.backend? owners = some b then (op.alone b owners, a) ::
      narrow b size (op.owners size owners) rest
    else narrow b size (op.owners size owners) rest

namespace Ledger

variable {op : Operation} {l k : Ledger} {owners : List (Option Nat)}
  {m : Member}

/-- The ledger with the slots of one backend only. -/
def only (b : Nat) (l : Ledger) : Ledger :=
  { l with slots := slotsOf b l.slots l.slots }

/-- Every slot has an owner, whose it is as long as it is open. -/
structure Owned (owners slots : List (Option Nat)) : Prop where
  /-- There is an owner for every slot. -/
  length : slots.length = owners.length
  /-- An open slot is its owner's. -/
  owner : ∀ {slot id : Nat}, slots[slot]? = some (some id) →
    owners[slot]? = some (some id)

/-- The ledger `k` of the history of one backend beside that of the whole. -/
structure Alone (b : Nat) (owners : List (Option Nat))
    (l k : Ledger) : Prop where
  /-- All slots have owners. -/
  owned : Owned owners l.slots
  /-- Health changes as it does there. -/
  thresholds : k.fleet.pool.thresholds = l.fleet.pool.thresholds
  /-- The backend is the same. -/
  member : k.fleet.pool.members[b]? = l.fleet.pool.members[b]?
  /-- So are its slots. -/
  slots : k.slots = slotsOf b owners l.slots

namespace Owned

variable {slots : List (Option Nat)} {id size : Nat}

theorem refl (slots : List (Option Nat)) : Owned slots slots :=
  ⟨rfl, id⟩

theorem backend? (h : Owned owners slots) (hop : op.backend? slots = some id) :
    op.backend? owners = some id := by
  cases op with
  | drop slot =>
    exact Option.join_eq_some_iff.2 (h.owner (Option.join_eq_some_iff.1 hop))
  | _ => exact hop

/-- A new slot is owned, and a slot that is closed is nobody's. -/
theorem step (h : Owned owners slots) (hop : op.backend? slots = some id)
    (hid : id < size) :
    Owned (op.owners size owners) (op.slots slots) := by
  cases op with
  | begin =>
    cases hop
    rw [Operation.owners, if_pos hid, Operation.slots]
    refine ⟨by simp [h.length], fun {slot other} hslot => ?_⟩
    rcases Nat.lt_or_ge slot slots.length with hlt | hge
    · rw [List.getElem?_append_left hlt] at hslot
      rw [List.getElem?_append_left (h.length ▸ hlt)]
      exact h.owner hslot
    · rw [List.getElem?_append_right hge] at hslot
      rwa [List.getElem?_append_right (h.length ▸ hge), ← h.length]
  | drop slot =>
    refine ⟨by simp [Operation.slots, Operation.owners, h.length],
      fun {other id'} hslot => ?_⟩
    rw [Operation.slots, List.getElem?_set] at hslot
    split at hslot
    · split at hslot <;> cases hslot
    · exact h.owner hslot
  | _ => exact h

/-- The slots of the backend that an operation names change as they do alone. -/
theorem slotsOf_step (h : Owned owners slots) (hop : op.backend? slots = some b)
    (hb : b < size) :
    slotsOf b (op.owners size owners) (op.slots slots) =
      (op.alone b owners).slots (slotsOf b owners slots) := by
  cases op with
  | begin =>
    cases hop
    rw [Operation.owners, if_pos hb, Operation.slots,
      slotsOf_append h.length, if_pos rfl]
    rfl
  | drop slot =>
    exact slotsOf_set h.length (h.owner (Option.join_eq_some_iff.1 hop)) none
  | _ => rfl

/-- The slots of other backends stay. -/
theorem slotsOf_step_of_ne (h : Owned owners slots)
    (hop : op.backend? slots = some id) (hne : id ≠ b) (hid : id < size) :
    slotsOf b (op.owners size owners) (op.slots slots) = slotsOf b owners slots := by
  have hne' : some id ≠ some b := fun h => hne (Option.some.inj h)
  cases op with
  | begin =>
    cases hop
    rw [Operation.owners, if_pos hid, Operation.slots, slotsOf_append h.length,
      if_neg hne', List.append_nil]
  | drop slot =>
    have howner := h.owner (Option.join_eq_some_iff.1 hop)
    exact slotsOf_set_of_ne h.length
      (fun h' => hne' (Option.some.inj (howner.symm.trans h'))) none
  | _ => rfl

end Owned

theorem owners_of_idle {size : Nat}
    (hop : ∀ id, op.backend? l.slots = some id → size ≤ id) :
    op.owners size owners = owners := by
  cases op with
  | begin id => exact if_neg (Nat.not_lt.2 (hop id rfl))
  | _ => rfl

/-- **An operation that does not name the backend is not done**, and nothing has
changed for the backend. -/
theorem alone_perform_of_ne (rules : Selection) (h : Alone b owners l k)
    (hop : op.backend? owners ≠ some b) :
    Alone b (op.owners l.fleet.pool.size owners) (l.perform rules op).2 k := by
  cases hnamed : op.backend? l.slots with
  | none =>
    obtain ⟨hmembers, hthresholds, hslots⟩ := perform_of_no_backend rules hnamed
    rw [owners_of_idle fun id hid => by cases hnamed.symm.trans hid]
    exact ⟨hslots ▸ h.owned, h.thresholds.trans hthresholds.symm,
      by rw [hmembers, h.member], by rw [hslots, h.slots]⟩
  | some id =>
    have hne : id ≠ b := fun heq => hop (heq ▸ h.owned.backend? hnamed)
    cases hm : l.fleet.pool.members[id]? with
    | none =>
      rw [perform_of_unknown_backend rules hnamed hm, owners_of_idle (l := l)]
      · exact h
      · intro id' hid'
        cases hnamed.symm.trans hid'
        exact List.getElem?_eq_none_iff.1 hm
    | some m =>
      have hid : id < l.fleet.pool.size := (List.getElem?_eq_some_iff.1 hm).1
      obtain ⟨-, hpool, hslots⟩ := does_perform rules hnamed hm
      refine ⟨hslots ▸ h.owned.step hnamed hid, ?_, ?_, ?_⟩
      · rw [hpool]
        exact h.thresholds
      · rw [hpool, Pool.put_getElem_ne _ (Ne.symm hne), h.member]
      · rw [hslots, h.owned.slotsOf_step_of_ne hnamed hne hid, h.slots]

theorem Alone.backend? (h : Alone b owners l k)
    (hop : op.backend? l.slots = some b) :
    (op.alone b owners).backend? k.slots = some b := by
  cases op with
  | drop slot =>
    have hslot := Option.join_eq_some_iff.1 hop
    rw [Operation.alone, Operation.backend?, h.slots,
      slotsOf_getElem? h.owned.length (h.owned.owner hslot), hslot]
    rfl
  | _ => exact hop

/-- **An operation that names the backend does the same to it alone**, and the
answer is the same. -/
theorem alone_perform (rules : Selection) (h : Alone b owners l k)
    (hm : l.fleet.pool.members[b]? = some m) (hop : op.backend? owners = some b) :
    Alone b (op.owners l.fleet.pool.size owners) (l.perform rules op).2
      (k.perform rules (op.alone b owners)).2 ∧
      (k.perform rules (op.alone b owners)).1.unnumbered =
        (l.perform rules op).1.unnumbered := by
  have heffect : ∀ t m, (op.alone b owners).effect t m = op.effect t m := by
    intro t m
    cases op <;> rfl
  cases hnamed : op.backend? l.slots with
  | some id =>
    obtain rfl : b = id := Option.some.inj (hop.symm.trans (h.owned.backend? hnamed))
    have hb : b < l.fleet.pool.size := (List.getElem?_eq_some_iff.1 hm).1
    have hk := h.member.trans hm
    obtain ⟨hanswer, hpool, hslots⟩ := does_perform rules hnamed hm
    obtain ⟨hanswer', hpool', hslots'⟩ := does_perform rules (h.backend? hnamed) hk
    rw [heffect, h.thresholds] at hanswer' hpool'
    refine ⟨⟨hslots ▸ h.owned.step hnamed hb, ?_, ?_, ?_⟩, hanswer'.trans hanswer.symm⟩
    · rw [hpool, hpool']
      exact h.thresholds
    · rw [hpool, hpool', Pool.put_getElem_self hm, Pool.put_getElem_self hk]
    · rw [hslots, hslots', h.slots, h.owned.slotsOf_step hnamed hb]
  | none =>
    -- the slot is closed, in the whole as alone
    cases op with
    | drop slot =>
      have howner : owners[slot]? = some (some b) := Option.join_eq_some_iff.1 hop
      have hclosed : ∀ id, l.slots[slot]? ≠ some (some id) := fun id h => by
        rw [Operation.backend?, h] at hnamed
        cases hnamed
      have hclosed' : ∀ id, k.slots[renumber b owners slot]? ≠ some (some id) := by
        rwa [h.slots, slotsOf_getElem? h.owned.length howner]
      rw [Operation.alone, perform_of_closed rules hclosed,
        perform_of_closed rules hclosed']
      exact ⟨h, rfl⟩
    | _ => cases hnamed.symm.trans hop

/-- **What becomes of a backend in a history, and what is answered about it, is
what becomes of it alone.** -/
theorem alone_run (rules : Selection) (ops : List Operation)
    (h : Alone b owners l k) (hb : b < l.fleet.pool.size) :
    let full := run rules ops l
    let kept := narrow b l.fleet.pool.size owners (ops.zip full.1)
    let alone := run rules (kept.map Prod.fst) k
    alone.2.fleet.pool.members[b]? = full.2.fleet.pool.members[b]? ∧
      alone.1.map Answer.unnumbered = kept.map fun kept => kept.2.unnumbered := by
  induction ops generalizing l k owners with
  | nil => exact ⟨h.member, rfl⟩
  | cons op ops ih =>
    have hsize := size_perform rules op l
    have hb' : b < (l.perform rules op).2.fleet.pool.size := by rwa [hsize]
    dsimp only [run, List.zip_cons_cons, narrow]
    split
    · rename_i hop
      obtain ⟨hnext, hanswer⟩ :=
        alone_perform rules h (List.getElem?_eq_getElem hb) hop
      have hrest := ih hnext hb'
      rw [hsize] at hrest
      exact ⟨hrest.1, List.cons_eq_cons.2 ⟨hanswer, hrest.2⟩⟩
    · rename_i hop
      have hrest := ih (alone_perform_of_ne rules h hop) hb'
      rwa [hsize] at hrest

/-! ## Operations in either order -/

variable {op₁ op₂ : Operation} {id₁ id₂ : Nat} {m₁ m₂ : Member}

/-- An operation names its backend when another has had its operation too. -/
theorem backend?_slots {slots : List (Option Nat)}
    (h₁ : op₁.backend? slots = some id₁) (h₂ : op₂.backend? slots = some id₂)
    (hne : id₁ ≠ id₂) : op₂.backend? (op₁.slots slots) = some id₂ := by
  cases op₂ with
  | drop slot₂ =>
    have hslot₂ := Option.join_eq_some_iff.1 h₂
    apply Option.join_eq_some_iff.2
    cases op₁ with
    | begin =>
      rw [Operation.slots,
        List.getElem?_append_left (List.getElem?_eq_some_iff.1 hslot₂).1, hslot₂]
    | drop slot₁ =>
      have hslot₁ := Option.join_eq_some_iff.1 h₁
      have hslots : slot₁ ≠ slot₂ := by
        rintro rfl
        cases hslot₁.symm.trans hslot₂
        exact hne rfl
      rw [Operation.slots, List.getElem?_set_ne hslots, hslot₂]
    | _ => exact hslot₂
  | _ => exact h₂

/-- The slots are the same, but two that begin have their numbers the other way
round. -/
theorem slots_comm {slots : List (Option Nat)}
    (h₁ : op₁.backend? slots = some id₁) (h₂ : op₂.backend? slots = some id₂)
    (hne : id₁ ≠ id₂) :
    (op₂.slots (op₁.slots slots)).Perm (op₁.slots (op₂.slots slots)) := by
  have hset : ∀ {slot id other : Nat}, slots[slot]? = some (some id) →
      (slots ++ [some other]).set slot none = slots.set slot none ++ [some other] :=
    fun hslot => List.set_append_left _ _ (List.getElem?_eq_some_iff.1 hslot).1
  cases op₁ with
  | begin =>
    cases op₂ with
    | begin =>
      simp only [Operation.slots, List.append_assoc]
      exact (List.Perm.swap _ _ []).append_left slots
    | drop =>
      simp only [Operation.slots, hset (Option.join_eq_some_iff.1 h₂)]
      exact .refl _
    | _ => exact .refl _
  | drop slot₁ =>
    cases op₂ with
    | begin =>
      simp only [Operation.slots, hset (Option.join_eq_some_iff.1 h₁)]
      exact .refl _
    | drop slot₂ =>
      have hslots : slot₁ ≠ slot₂ := by
        rintro rfl
        cases (Option.join_eq_some_iff.1 h₁).symm.trans (Option.join_eq_some_iff.1 h₂)
        exact hne rfl
      simp only [Operation.slots, List.set_comm _ _ hslots]
      exact .refl _
    | _ => exact .refl _
  | _ => cases op₂ <;> exact .refl _

/-- **Operations that name different backends can be done in either order.** -/
theorem perform_comm (rules : Selection) (h₁ : op₁.backend? l.slots = some id₁)
    (h₂ : op₂.backend? l.slots = some id₂) (hne : id₁ ≠ id₂)
    (hm₁ : l.fleet.pool.members[id₁]? = some m₁)
    (hm₂ : l.fleet.pool.members[id₂]? = some m₂) :
    let one := l.perform rules op₁
    let two := l.perform rules op₂
    let oneTwo := one.2.perform rules op₂
    let twoOne := two.2.perform rules op₁
    oneTwo.2.fleet.pool = twoOne.2.fleet.pool ∧ oneTwo.2.slots.Perm twoOne.2.slots ∧
      oneTwo.1.unnumbered = two.1.unnumbered ∧
      twoOne.1.unnumbered = one.1.unnumbered := by
  intro one two oneTwo twoOne
  obtain ⟨hanswer₁, hpool₁, hslots₁⟩ := does_perform rules h₁ hm₁
  obtain ⟨hanswer₂, hpool₂, hslots₂⟩ := does_perform rules h₂ hm₂
  obtain ⟨hanswer₁₂, hpool₁₂, hslots₁₂⟩ := does_perform (l := one.2) rules
    (hslots₁ ▸ backend?_slots h₁ h₂ hne)
      (by rw [hpool₁, Pool.put_getElem_ne _ (Ne.symm hne), hm₂])
  obtain ⟨hanswer₂₁, hpool₂₁, hslots₂₁⟩ := does_perform (l := two.2) rules
    (hslots₂ ▸ backend?_slots h₂ h₁ (Ne.symm hne))
      (by rw [hpool₂, Pool.put_getElem_ne _ hne, hm₁])
  refine ⟨?_, ?_, hanswer₁₂.trans ?_, hanswer₂₁.trans ?_⟩
  · rw [hpool₁₂, hpool₂₁, hpool₁, hpool₂]
    exact Pool.put_comm _ _ _ hne
  · rw [hslots₁₂, hslots₂₁, hslots₁, hslots₂]
    exact slots_comm h₁ h₂ hne
  · rw [hpool₁, hanswer₂]
    rfl
  · rw [hpool₂, hanswer₁]
    rfl

/-! ## Independence -/

theorem alone_only (b : Nat) (l : Ledger) : Alone b l.slots l (l.only b) :=
  ⟨.refl l.slots, rfl, rfl, rfl⟩

/-- **Backends do not depend on each other.** After any history a backend is as
it is when only the operations that name it are done, and these are answered
alike, but for the numbers of slots. Operations that name different backends can
be done in either order: the pool is the same, and so are the answers. An
operation that names no backend there is changes nothing. -/
theorem backends_independent (rules : Selection) (l : Ledger) :
    (∀ b < l.fleet.pool.size, ∀ ops : List Operation,
        let full := run rules ops l
        let kept := narrow b l.fleet.pool.size l.slots (ops.zip full.1)
        let alone := run rules (kept.map Prod.fst) (l.only b)
        alone.2.fleet.pool.members[b]? = full.2.fleet.pool.members[b]? ∧
        alone.1.map Answer.unnumbered = kept.map fun kept => kept.2.unnumbered) ∧
      (∀ op₁ op₂ id₁ id₂, op₁.backend? l.slots = some id₁ →
        op₂.backend? l.slots = some id₂ → id₁ ≠ id₂ →
        id₁ < l.fleet.pool.size → id₂ < l.fleet.pool.size →
        let one := l.perform rules op₁
        let two := l.perform rules op₂
        let oneTwo := one.2.perform rules op₂
        let twoOne := two.2.perform rules op₁
        oneTwo.2.fleet.pool = twoOne.2.fleet.pool ∧
        oneTwo.2.slots.Perm twoOne.2.slots ∧
        oneTwo.1.unnumbered = two.1.unnumbered ∧
        twoOne.1.unnumbered = one.1.unnumbered) ∧
      ∀ op id, op.backend? l.slots = some id → l.fleet.pool.size ≤ id →
        (l.perform rules op).2 = l := by
  refine ⟨fun b hb ops => alone_run rules ops (alone_only b l) hb, ?_, ?_⟩
  · intro op₁ op₂ id₁ id₂ h₁ h₂ hne hid₁ hid₂
    exact perform_comm rules h₁ h₂ hne (List.getElem?_eq_getElem hid₁)
      (List.getElem?_eq_getElem hid₂)
  · intro op id hop hid
    exact perform_of_unknown_backend rules hop (List.getElem?_eq_none_iff.2 hid)

/-- The second of two backends beside the first and a third that is not there:
its only slot is the second of both, is dropped twice, and is the first of its
own. -/
theorem backends_independent_second :
    let first : Backend := ⟨"a", ⟨.loopback, 1, 0⟩, 1, none, by decide⟩
    let second : Backend := ⟨"b", ⟨.loopback, 2, 0⟩, 1, none, by decide⟩
    let l : Ledger := { fleet := { pool := .ofBackends [first, second] {} } }
    let ops : List Operation :=
      [.begin 0, .failure 1 .timeout, .begin 2, .begin 1, .drop 0, .select,
        .drop 1, .success 0, .drop 1, .begin 1]
    let alone : List Operation :=
      [.failure 1 .timeout, .begin 1, .drop 0, .drop 0, .begin 1]
    (narrow 1 2 l.slots (ops.zip (run {} ops l).1)).map Prod.fst = alone ∧
      (run {} alone (l.only 1)).2.fleet.pool.members[1]? =
        (run {} ops l).2.fleet.pool.members[1]? := by
  intro first second l ops alone
  have hkept : (narrow 1 2 l.slots (ops.zip (run {} ops l).1)).map Prod.fst =
      alone := by decide
  refine ⟨hkept, ?_⟩
  rw [← hkept]
  exact ((backends_independent {} l).1 1 (by decide) ops).1

end Ledger

end Gateway
