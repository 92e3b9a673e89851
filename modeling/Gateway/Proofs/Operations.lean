import Gateway.Pool.Operation
import Gateway.Proofs.Accounting
import Gateway.Proofs.Choosing

/-!
# What operations do to a pool

Whatever happens to a pool, one member's health takes a signal, one member has a
connection more or less, or a turn is given out; all else stays. What is proved
of histories of operations is proved from this.

* `Operation.signal?` says which operations are signals, and
  `Ledger.perform_of_signal` what becomes of one;
* `Pool.Performed` says what an operation does to a pool, with one constructor
  for each way, and `Ledger.performed_perform` that it does no more;
* `Pool.Performed.health_cases` and `Pool.Performed.active_le` read off what it
  does to the backend of a number.
-/

namespace Gateway

/-- What the health of a backend is told. -/
inductive Signal where
  /-- A request or a probe succeeded. -/
  | success
  /-- It failed. -/
  | failure (kind : FailureKind)
  deriving DecidableEq, Repr

namespace Health

/-- Takes a signal. -/
def take (t : Thresholds) (signal : Signal) (h : Health) :
    Option Transition × Health :=
  match signal with
  | .success => h.succeed t
  | .failure kind => h.fail t kind

/-- Remembers how the last probe ended. -/
def stamp (probed : Option Bool) (h : Health) : Health :=
  { h with lastProbe := probed }

end Health

/-- The backend that an operation is a signal of, with the signal. Only outcomes
that say something about the backend are signals. -/
def Operation.signal? : Operation → Option (Nat × Signal)
  | .success id => some (id, .success)
  | .failure id kind => some (id, .failure kind)
  | .probe id none => some (id, .success)
  | .probe id (some kind) => some (id, .failure kind)
  | .outcome id .success => some (id, .success)
  | .outcome id (.failed kind) => some (id, .failure kind)
  | _ => none

/-- What a selection picked, if the answer is one; nothing where no backend
could take the request. -/
def Answer.picked? : Answer → Option (Option Nat)
  | .selected result => some result.toOption
  | _ => none

/-! ## Members -/

namespace Pool

variable {id other : Nat} {p q : Pool} {m : Member} {n : Nat} {op : Operation}

theorem member_of_ofBackends {backends : List Backend} {t : Thresholds}
    (hm : (ofBackends backends t).members[id]? = some m) :
    ∃ b, backends[id]? = some b ∧ { backend := b } = m := by
  rwa [ofBackends, List.getElem?_map, Option.map_eq_some_iff] at hm

theorem backends_ofBackends (backends : List Backend) (t : Thresholds) :
    (ofBackends backends t).backends = backends := by
  simp [Pool.backends, ofBackends, Function.comp_def]

/-- The pool in which one member has another number of connections. -/
def withActive (p : Pool) (id : Nat) (m : Member) (n : Nat) : Pool :=
  { p with members := p.members.set id { m with active := n } }

theorem withActive_getElem_self (hm : p.members[id]? = some m) (n : Nat) :
    (p.withActive id m n).members[id]? = some { m with active := n } := by
  have hlt := (List.getElem?_eq_some_iff.1 hm).1
  simp [withActive, hlt]

theorem withActive_getElem_ne (n : Nat) (hne : other ≠ id) :
    (p.withActive id m n).members[other]? = p.members[other]? := by
  simp [withActive, Ne.symm hne]

theorem withActive_getElem {k : Member} (hk : p.members[other]? = some k)
    (hm : p.members[id]? = some m) (n : Nat) :
    (id = other ∧ m = k ∧ (p.withActive other k n).members[id]? = some { m with
      active := n }) ∨
      (id ≠ other ∧ (p.withActive other k n).members[id]? = some m) := by
  by_cases hother : id = other
  · subst hother
    obtain rfl := Option.some.inj (hm.symm.trans hk)
    exact .inl ⟨rfl, rfl, withActive_getElem_self hm n⟩
  · exact .inr ⟨hother, (withActive_getElem_ne n hother).trans hm⟩

theorem beginConnection_of_member (hm : p.members[id]? = some m) :
    p.beginConnection id = .ok (m.active + 1, p.withActive id m (m.active + 1)) :=
  update_of_member _ hm

theorem endConnection_of_member (hm : p.members[id]? = some m) :
    ∃ left, p.endConnection id = .ok (left, p.withActive id m (m.active - 1)) := by
  rw [endConnection, update_of_member _ hm]
  obtain ⟨backend, health, active⟩ := m
  cases active with
  | zero => exact ⟨none, rfl⟩
  | succ n => exact ⟨some n, rfl⟩

end Pool

/-! ## Fleets -/

namespace Fleet

variable {id : Nat} {f : Fleet} {m : Member}

theorem record_of_member
    (change : Thresholds → Health → Option Transition × Health)
    (hm : f.pool.members[id]? = some m) :
    ∃ g, f.record id (Pool.updateHealth id change) =
      .ok ((change f.pool.thresholds m.health).1, g) ∧
      g.pool = f.pool.withHealth id m (change f.pool.thresholds m.health).2 :=
  ⟨_, by rw [record, Pool.updateHealth_of_member change hm], rfl⟩

theorem record_of_unknown
    (change : Thresholds → Health → Option Transition × Health)
    (hm : f.pool.members[id]? = none) :
    f.record id (Pool.updateHealth id change) = .error ⟨id, f.pool.size⟩ := by
  rw [record, Pool.updateHealth, Pool.update, hm]

theorem beginConnection_of_member (hm : f.pool.members[id]? = some m) :
    ∃ g, f.beginConnection id = .ok (m.active + 1, g) ∧
      g.pool = f.pool.withActive id m (m.active + 1) :=
  ⟨_, by rw [beginConnection, Pool.beginConnection_of_member hm], rfl⟩

theorem endConnection_of_member (hm : f.pool.members[id]? = some m) :
    ∃ g, f.endConnection id = .ok g ∧
      g.pool = f.pool.withActive id m (m.active - 1) := by
  obtain ⟨left, hleft⟩ := Pool.endConnection_of_member hm
  rw [endConnection, hleft]
  cases left with
  | none => exact ⟨_, rfl, rfl⟩
  | some n => exact ⟨_, rfl, rfl⟩

theorem endConnection_cases (id : Nat) (f : Fleet) :
    (∃ m g, f.pool.members[id]? = some m ∧ f.endConnection id = .ok g ∧
      g.pool = f.pool.withActive id m (m.active - 1)) ∨
        ∃ e, f.endConnection id = .error e := by
  cases hm : f.pool.members[id]? with
  | some m =>
    obtain ⟨g, hg, hpool⟩ := endConnection_of_member hm
    exact .inl ⟨m, g, rfl, hg, hpool⟩
  | none =>
    exact .inr ⟨_, by rw [endConnection, Pool.endConnection, Pool.update, hm]⟩

end Fleet

/-! ## Operations -/

/-- What an operation does to a pool. -/
inductive Pool.Performed (p : Pool) : Operation → Pool → Prop where
  /-- A backend takes a signal; that of a probe is remembered. -/
  | signal {op : Operation} {id : Nat} {s : Signal} {m : Member} (probed : Option Bool) :
      op.signal? = some (id, s) → p.members[id]? = some m →
      Performed p op (p.withHealth id m ((m.health.stamp probed).take p.thresholds s).2)
  /-- A connection begins. -/
  | began {id : Nat} {m : Member} : p.members[id]? = some m →
      Performed p (.begin id) (p.withActive id m (m.active + 1))
  /-- The connection of a slot ends. -/
  | dropped {slot id : Nat} {m : Member} : p.members[id]? = some m →
      Performed p (.drop slot) (p.withActive id m (m.active - 1))
  /-- A connection without a slot ends. -/
  | finished {id : Nat} {m : Member} : p.members[id]? = some m →
      Performed p (.finish id) (p.withActive id m (m.active - 1))
  /-- A turn is given out. -/
  | turned {count : Nat} : Performed p (.turn count) p.advance
  /-- A backend is picked. -/
  | selected : Performed p .select p.advance
  /-- Nothing happens; if this is a signal, there is no such backend. -/
  | idle {op : Operation} : (∀ id s, op.signal? = some (id, s) →
      p.members[id]? = none) → Performed p op p

namespace Ledger

variable {rules : Selection} {op : Operation} {l : Ledger} {id : Nat}
  {m : Member} {s : Signal}

/-- Every signal is a record of one change of health: the signal is taken, and
if it is a probe it is remembered first. -/
theorem perform_eq_record (hs : op.signal? = some (id, s)) :
    ∃ change : Thresholds → Health → Option Transition × Health,
      (∀ t h, ∃ probed, change t h = (h.stamp probed).take t s) ∧
      ∀ rules (l : Ledger), l.perform rules op =
        l.signal (l.fleet.record id (Pool.updateHealth id change)) := by
  have succeed : ∀ t (h : Health), ∃ probed,
      h.succeed t = (h.stamp probed).take t .success :=
    fun t h => ⟨h.lastProbe, rfl⟩
  have fail : ∀ kind t (h : Health), ∃ probed,
      h.fail t kind = (h.stamp probed).take t (.failure kind) :=
    fun kind t h => ⟨h.lastProbe, rfl⟩
  cases op with
  | success =>
    cases hs
    exact ⟨fun t => Health.succeed t, succeed, fun _ _ => rfl⟩
  | failure _ kind =>
    cases hs
    exact ⟨fun t => Health.fail t kind, fail kind, fun _ _ => rfl⟩
  | probe _ result =>
    refine ⟨fun t => Health.probe t result, fun t h => ⟨some result.isNone, ?_⟩,
      fun _ _ => ?_⟩
    · cases result <;> cases hs <;> rfl
    · cases result <;> cases hs <;> rfl
  | outcome _ outcome =>
    cases outcome with
    | success =>
      cases hs
      exact ⟨fun t => Health.succeed t, succeed, fun _ _ => rfl⟩
    | failed kind =>
      cases hs
      exact ⟨fun t => Health.fail t kind, fail kind, fun _ _ => rfl⟩
    | _ => cases hs
  | _ => cases hs

/-- **A backend takes its signals**, by whichever operation they come, and the
answer is the change of its health. -/
theorem perform_of_signal (rules : Selection) (hs : op.signal? = some (id, s))
    (hm : l.fleet.pool.members[id]? = some m) :
    ∃ probed g, l.perform rules op =
        (.transition ((m.health.stamp probed).take l.fleet.pool.thresholds s).1,
          { l with fleet := g }) ∧
      g.pool = l.fleet.pool.withHealth id m
        ((m.health.stamp probed).take l.fleet.pool.thresholds s).2 := by
  obtain ⟨change, hchange, hperform⟩ := perform_eq_record hs
  obtain ⟨g, hg, hpool⟩ := Fleet.record_of_member change hm
  obtain ⟨probed, htake⟩ := hchange l.fleet.pool.thresholds m.health
  rw [htake] at hg hpool
  exact ⟨probed, g, by rw [hperform, hg]; rfl, hpool⟩

theorem perform_of_unknown (rules : Selection) (hs : op.signal? = some (id, s))
    (hm : l.fleet.pool.members[id]? = none) : (l.perform rules op).2 = l := by
  obtain ⟨change, -, hperform⟩ := perform_eq_record hs
  rw [hperform, Fleet.record_of_unknown change hm]
  rfl

/-- An outcome that says nothing about the backend changes nothing. -/
theorem perform_of_silent {outcome : Outcome} (rules : Selection) (l : Ledger)
    (hs : (Operation.outcome id outcome).signal? = none) :
    l.perform rules (.outcome id outcome) = (.transition none, l) := by
  cases outcome with
  | success => cases hs
  | failed kind => cases hs
  | _ => rfl

theorem perform_begin (rules : Selection)
    (hm : l.fleet.pool.members[id]? = some m) :
    ∃ g, l.perform rules (.begin id) =
      (.began l.slots.length (m.active + 1), ⟨g, l.slots ++ [some id]⟩) ∧
      g.pool = l.fleet.pool.withActive id m (m.active + 1) := by
  obtain ⟨g, hg, hpool⟩ := Fleet.beginConnection_of_member hm
  exact ⟨g, by rw [perform, hg], hpool⟩

theorem perform_select (rules : Selection) (l : Ledger) :
    l.perform rules .select =
      (.selected (l.fleet.pool.select rules).1,
        { l with fleet := { l.fleet with pool := (l.fleet.pool.select rules).2 } }) :=
  rfl

/-- Only a selection picks. -/
theorem picked?_perform (rules : Selection) {op : Operation} (h : op ≠ .select)
    (l : Ledger) :
    (l.perform rules op).1.picked? = none := by
  have hsignal : ∀ r, (l.signal r).1.picked? = none := by
    intro r
    cases r <;> rfl
  cases op with
  | success => exact hsignal _
  | failure => exact hsignal _
  | probe => exact hsignal _
  | outcome => exact hsignal _
  | begin =>
    rw [perform]
    split <;> rfl
  | drop =>
    rw [perform]
    split
    · split <;> rfl
    · rfl
  | finish =>
    rw [perform]
    split <;> rfl
  | turn => rfl
  | select => exact absurd rfl h

/-- **An operation does to a pool what it is for**, and no more. -/
theorem performed_perform (rules : Selection) (op : Operation) (l : Ledger) :
    l.fleet.pool.Performed op (l.perform rules op).2.fleet.pool := by
  cases hs : op.signal? with
  | some signal =>
    obtain ⟨id, s⟩ := signal
    cases hm : l.fleet.pool.members[id]? with
    | some m =>
      obtain ⟨probed, g, hperform, hpool⟩ := perform_of_signal rules hs hm
      rw [hperform]
      exact hpool ▸ .signal probed hs hm
    | none =>
      rw [perform_of_unknown rules hs hm]
      refine .idle fun id' s' h => ?_
      cases hs.symm.trans h
      exact hm
  | none =>
    have hidle : l.fleet.pool.Performed op l.fleet.pool :=
      .idle fun _ _ h => by cases hs.symm.trans h
    cases op with
    | begin id =>
      cases hm : l.fleet.pool.members[id]? with
      | some m =>
        obtain ⟨g, hperform, hpool⟩ := perform_begin rules hm
        rw [hperform]
        exact hpool ▸ .began hm
      | none =>
        have hunknown : l.fleet.beginConnection id =
            .error ⟨id, l.fleet.pool.size⟩ := by
          rw [Fleet.beginConnection, Pool.beginConnection, Pool.update, hm]
        rw [perform, hunknown]
        exact hidle
    | drop slot =>
      rw [perform]
      split
      · rename_i id _
        rcases Fleet.endConnection_cases id l.fleet
          with ⟨m, g, hm, hg, hpool⟩ | ⟨e, he⟩
        · rw [hg]
          exact hpool ▸ .dropped hm
        · rw [he]
          exact hidle
      · exact hidle
    | finish id =>
      rw [perform]
      rcases Fleet.endConnection_cases id l.fleet with ⟨m, g, hm, hg, hpool⟩ | ⟨e, he⟩
      · rw [hg]
        exact hpool ▸ .finished hm
      · rw [he]
        exact hidle
    | turn count => exact .turned
    | select =>
      by_cases heligible : l.fleet.pool.eligible rules.failOpen = []
      · rw [perform_select, Pool.select_of_ineligible heligible]
        exact hidle
      · obtain ⟨c, -, -, hselect⟩ := Pool.select_of_eligible heligible
        rw [perform_select, hselect]
        exact .selected
    | outcome id outcome =>
      rw [perform_of_silent rules l hs]
      exact hidle
    | success => cases hs
    | failure => cases hs
    | probe _ result => cases result <;> cases hs

end Ledger

namespace Pool.Performed

variable {p q : Pool} {op : Operation} {id : Nat} {m : Member}

theorem thresholds_eq (h : p.Performed op q) : q.thresholds = p.thresholds := by
  cases h <;> rfl

/-- The backends stay. -/
theorem backends_eq (h : p.Performed op q) : q.backends = p.backends := by
  cases h with
  | signal probed hs hm => exact map_members_set hm rfl
  | began hm => exact map_members_set hm rfl
  | dropped hm => exact map_members_set hm rfl
  | finished hm => exact map_members_set hm rfl
  | turned => rfl
  | selected => rfl
  | idle => rfl

/-- **What an operation does to the backend of a number**: its health takes a
signal that is meant for it, and is what it was otherwise. -/
theorem health_cases (h : p.Performed op q) (hm : p.members[id]? = some m) :
    ∃ n, q.members[id]? = some n ∧
      ((∃ s probed, op.signal? = some (id, s) ∧
        n.health = ((m.health.stamp probed).take p.thresholds s).2) ∨
        (∀ s, op.signal? ≠ some (id, s)) ∧ n.health = m.health) := by
  -- connections do not matter to health
  have hconnection : ∀ (op : Operation) {other k}, (∀ s, op.signal? ≠ some (id, s)) →
      p.members[other]? = some k →
      ∀ active, ∃ n, (p.withActive other k active).members[id]? = some n ∧
        ((∃ s probed, op.signal? = some (id, s) ∧
          n.health = ((m.health.stamp probed).take p.thresholds s).2) ∨
          (∀ s, op.signal? ≠ some (id, s)) ∧ n.health = m.health) := by
    intro op other k hs hk active
    rcases withActive_getElem hk hm active with ⟨-, -, hn⟩ | ⟨-, hn⟩
    · exact ⟨_, hn, .inr ⟨hs, rfl⟩⟩
    · exact ⟨_, hn, .inr ⟨hs, rfl⟩⟩
  cases h with
  | @signal _ other s k probed hs hk =>
    by_cases hother : id = other
    · subst hother
      cases hm.symm.trans hk
      exact ⟨_, withHealth_getElem_self hm _, .inl ⟨s, probed, hs, rfl⟩⟩
    · refine ⟨m, (withHealth_getElem_ne _ hother).trans hm, .inr ⟨fun s' h => ?_, rfl⟩⟩
      cases hs.symm.trans h
      exact hother rfl
  | began hk => exact hconnection (.begin _) nofun hk _
  | dropped hk => exact hconnection (.drop _) nofun hk _
  | finished hk => exact hconnection (.finish _) nofun hk _
  | turned => exact ⟨m, hm, .inr ⟨nofun, rfl⟩⟩
  | selected => exact ⟨m, hm, .inr ⟨nofun, rfl⟩⟩
  | idle hidle =>
    refine ⟨m, hm, .inr ⟨fun s hs => ?_, rfl⟩⟩
    cases hm.symm.trans (hidle id s hs)

/-- **Only a connection that begins makes connections more**, by one and of its
backend. -/
theorem active_le (h : p.Performed op q) (hm : p.members[id]? = some m) :
    ∃ n, q.members[id]? = some n ∧ n.backend = m.backend ∧
      n.active ≤ m.active + if op = .begin id then 1 else 0 := by
  have hfewer : ∀ {other k}, p.members[other]? = some k → ∃ n,
      (p.withActive other k (k.active - 1)).members[id]? = some n ∧
      n.backend = m.backend ∧
      n.active ≤ m.active + if op = .begin id then 1 else 0 := by
    intro other k hk
    rcases withActive_getElem hk hm (k.active - 1) with ⟨-, rfl, hn⟩ | ⟨-, hn⟩
    · exact ⟨_, hn, rfl, Nat.le_add_right_of_le (Nat.sub_le _ _)⟩
    · exact ⟨m, hn, rfl, Nat.le_add_right _ _⟩
  cases h with
  | @signal _ other s k probed hs hk =>
    by_cases hother : id = other
    · subst hother
      obtain rfl := Option.some.inj (hm.symm.trans hk)
      exact ⟨_, withHealth_getElem_self hm _, rfl, Nat.le_add_right _ _⟩
    · exact ⟨m, (withHealth_getElem_ne _ hother).trans hm, rfl, Nat.le_add_right _ _⟩
  | @began other k hk =>
    rcases withActive_getElem hk hm (k.active + 1) with ⟨rfl, rfl, hn⟩ | ⟨-, hn⟩
    · exact ⟨_, hn, rfl, by simp⟩
    · exact ⟨m, hn, rfl, Nat.le_add_right _ _⟩
  | dropped hk => exact hfewer hk
  | finished hk => exact hfewer hk
  | turned => exact ⟨m, hm, rfl, Nat.le_add_right _ _⟩
  | selected => exact ⟨m, hm, rfl, Nat.le_add_right _ _⟩
  | idle => exact ⟨m, hm, rfl, Nat.le_add_right _ _⟩

end Pool.Performed

end Gateway
