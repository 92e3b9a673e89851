import Gateway.Proofs.Probing
import Gateway.Proofs.Slots
import Gateway.Server.Startup

/-!
# What the gauges show

Two gauges show of every backend how many connections it has and whether it is
healthy. They are set where the pool changes, by name, so they show the pool
only if every change is reported, nothing else is, and no two backends have one
name.

* `Fleet.Reports`: of all that changes between two fleets, the gauges are told
  exactly what they show;
* `Ledger.reports_perform`: every operation reports so;
* `Ledger.Changed` says of a history that what a gauge shows of a backend has
  changed;
* `Ledger.run_mirrored`: what the gauges show after any history of a new pool.
-/

namespace Gateway

/-- What is shown of every backend. -/
inductive Gauge where
  /-- How many connections it has. -/
  | connections
  /-- Whether it is healthy. -/
  | health
  deriving DecidableEq, Repr

namespace Gauge

/-- Where it is shown. -/
def series : Gauge → String → Series
  | .connections => Metrics.activeConnections
  | .health => Metrics.health

/-- What there is to show. -/
def value : Gauge → Member → Nat
  | .connections, m => m.active
  | .health, m => if m.health.healthy then 1 else 0

theorem series_eq_iff {g g' : Gauge} {name name' : String} :
    g.series name = g'.series name' ↔ g = g' ∧ name = name' := by
  cases g <;> cases g' <;> simp [series, Metrics.activeConnections, Metrics.health]

/-- Setting a gauge of a name leaves the other gauge and all other names
alone. -/
theorem gauge?_set (metrics : Metrics) (g g' : Gauge) (name name' : String)
    (v : Nat) :
    (metrics.set (g.series name) v).gauge? (g'.series name') =
      if g' = g ∧ name' = name then some v else metrics.gauge? (g'.series name') := by
  rw [Metrics.gauge_set]
  exact if_congr series_eq_iff rfl rfl

/-- **A change of health is shown**, and nothing else. -/
theorem gauge?_reportHealth {t : Option Transition} {m n : Member}
    (metrics : Metrics) (name name' : String)
    (hdown : t = some .becameUnhealthy ↔
      m.health.healthy = true ∧ n.health.healthy = false)
    (hup : t = some .becameHealthy ↔ m.health.healthy = false ∧ n.health.healthy = true)
    (hactive : n.active = m.active) (g : Gauge) :
    (Fleet.reportHealth name t metrics).gauge? (g.series name') =
      if name' = name ∧ g.value n ≠ g.value m then some (g.value n)
      else metrics.gauge? (g.series name') := by
  have hset : ∀ v, (metrics.set (Metrics.health name) v).gauge? (g.series name') =
      if g = .health ∧ name' = name then some v
      else metrics.gauge? (g.series name') :=
    gauge?_set metrics .health g name name'
  cases t with
  | none =>
    have hhealthy : n.health.healthy = m.health.healthy := by
      cases hm : m.health.healthy <;> cases hn : n.health.healthy
      · rfl
      · exact absurd (hup.2 ⟨hm, hn⟩) nofun
      · exact absurd (hdown.2 ⟨hm, hn⟩) nofun
      · rfl
    have hsame : g.value n = g.value m := by
      cases g with
      | connections => exact hactive
      | health => rw [value, value, hhealthy]
    rw [Fleet.reportHealth, if_neg fun h => h.2 hsame]
  | some change =>
    cases change with
    | becameHealthy =>
      obtain ⟨hm, hn⟩ := hup.1 rfl
      rw [Fleet.reportHealth, hset]
      cases g <;> simp [value, hm, hn, hactive]
    | becameUnhealthy =>
      obtain ⟨hm, hn⟩ := hdown.1 rfl
      rw [Fleet.reportHealth, hset]
      cases g <;> simp [value, hm, hn, hactive]

end Gauge

/-! ## One operation -/

namespace Fleet

variable {f f' : Fleet} {id other : Nat} {m n k : Member}

/-- Between two fleets what a gauge shows of a backend is set if it changes, and
not if it does not. -/
def Reports (f f' : Fleet) : Prop :=
  ∀ (id : Nat) (m : Member), f.pool.members[id]? = some m →
    ∃ n, f'.pool.members[id]? = some n ∧ n.backend = m.backend ∧ ∀ g : Gauge,
      f'.metrics.gauge? (g.series m.backend.name) =
        if g.value n = g.value m then f.metrics.gauge? (g.series m.backend.name)
        else some (g.value n)

theorem reports_of_members (hmembers : f'.pool.members = f.pool.members)
    (hmetrics : f'.metrics = f.metrics) :
    f.Reports f' :=
  fun _ m hm => ⟨m, by rw [hmembers, hm], rfl, fun _ => by rw [if_pos rfl, hmetrics]⟩

/-- No two backends have one name. -/
def Named (f : Fleet) : Prop :=
  (f.pool.backends.map Backend.name).Nodup

theorem Named.eq_of_name (h : f.Named) (hm : f.pool.members[id]? = some m)
    (hk : f.pool.members[other]? = some k)
    (hname : k.backend.name = m.backend.name) : other = id := by
  have hlt := (List.getElem?_eq_some_iff.1 hk).1
  refine (List.getElem?_inj (by simpa [Pool.backends] using hlt) h).1 ?_
  simp [Pool.backends, hm, hk, hname]

/-- **The change of one member is reported** if it is set where its name is, and
nowhere else. -/
theorem reports_put {metrics : Metrics} (h : f.Named)
    (hm : f.pool.members[id]? = some m) (hbackend : n.backend = m.backend)
    (hset : ∀ (g : Gauge) name, metrics.gauge? (g.series name) =
      if name = m.backend.name ∧ g.value n ≠ g.value m then some (g.value n)
      else f.metrics.gauge? (g.series name)) :
    f.Reports ⟨f.pool.put id n, metrics⟩ := by
  intro other k hk
  by_cases hother : other = id
  · subst hother
    cases hk.symm.trans hm
    refine ⟨n, Pool.put_getElem_self hm n, hbackend, fun g => ?_⟩
    rw [hset]
    by_cases hsame : g.value n = g.value m
    · rw [if_neg fun h => h.2 hsame, if_pos hsame]
    · rw [if_pos ⟨rfl, hsame⟩, if_neg hsame]
  · -- another backend has another name, so what is shown of it stays
    refine ⟨k, (Pool.put_getElem_ne n hother).trans hk, rfl, fun g => ?_⟩
    rw [hset, if_neg fun hname => hother (h.eq_of_name hm hk hname.1), if_pos rfl]

theorem nameOf_of_member (hm : f.pool.members[id]? = some m) :
    f.nameOf id = m.backend.name := by
  rw [nameOf, hm]

/-- **A signal reports a change of health**, if it is one. -/
theorem reports_record
    {change : Thresholds → Health → Option Transition × Health} {s : Signal}
    (hchange : ∀ t h, ∃ probed, change t h = (h.stamp probed).take t s)
    (h : f.Named) {t : Option Transition}
    (hf' : f.record id (Pool.updateHealth id change) = .ok (t, f')) :
    f.Reports f' := by
  cases hm : f.pool.members[id]? with
  | none => rw [record_of_unknown change hm] at hf'; cases hf'
  | some m =>
    rw [record, Pool.updateHealth_of_member change hm, nameOf_of_member hm] at hf'
    cases hf'
    obtain ⟨probed, htake⟩ := hchange f.pool.thresholds m.health
    rw [htake]
    obtain ⟨hdown, hup⟩ :=
      Health.take_transition f.pool.thresholds s (m.health.stamp probed)
    let n : Member := { m with
        health := ((m.health.stamp probed).take f.pool.thresholds s).2 }
    exact reports_put h hm rfl fun g name =>
      Gauge.gauge?_reportHealth (m := m)
        (n := n) f.metrics m.backend.name name hdown hup rfl g

theorem reports_withActive (h : f.Named) (hm : f.pool.members[id]? = some m)
    {active : Nat} (hne : active ≠ m.active) :
    f.Reports ⟨f.pool.withActive id m active,
      f.metrics.set (Metrics.activeConnections (f.nameOf id)) active⟩ := by
  refine reports_put h hm rfl fun g name => ?_
  rw [nameOf_of_member hm]
  refine (Gauge.gauge?_set f.metrics .connections g m.backend.name name active).trans ?_
  cases g <;> simp [Gauge.value, hne]

/-- **A connection that begins is reported.** -/
theorem reports_beginConnection (h : f.Named) {active : Nat}
    (hf' : f.beginConnection id = .ok (active, f')) :
    f.Reports f' := by
  rw [beginConnection] at hf'
  cases hm : f.pool.members[id]? with
  | none => rw [Pool.beginConnection, Pool.update, hm] at hf'; cases hf'
  | some m =>
    rw [Pool.beginConnection_of_member hm] at hf'
    cases hf'
    exact reports_withActive h hm (Nat.succ_ne_self _)

/-- **So is one that ends**, if there is one. -/
theorem reports_endConnection (h : f.Named)
    (hf' : f.endConnection id = .ok f') : f.Reports f' := by
  rw [endConnection] at hf'
  cases hm : f.pool.members[id]? with
  | none => rw [Pool.endConnection, Pool.update, hm] at hf'; cases hf'
  | some m =>
    rcases Ledger.endConnection_pool_cases hm with ⟨-, hend⟩ | ⟨n, hn, hend⟩
    · rw [hend] at hf'
      cases hf'
      exact reports_of_members rfl rfl
    · rw [hend] at hf'
      cases hf'
      exact reports_withActive h hm fun heq => by omega

end Fleet

namespace Ledger

variable {rules : Selection} {op : Operation} {ops : List Operation}
  {l : Ledger} {id : Nat} {m n : Member} {g : Gauge}

/-- **Every operation reports what it changes.** -/
theorem reports_perform (rules : Selection) (op : Operation) (h : l.fleet.Named) :
    l.fleet.Reports (l.perform rules op).2.fleet := by
  have hidle : l.fleet.Reports l.fleet := Fleet.reports_of_members rfl rfl
  cases hs : op.signal? with
  | some signal =>
    obtain ⟨id, s⟩ := signal
    obtain ⟨change, hchange, hperform⟩ := perform_eq_record hs
    rw [hperform]
    cases hrecord : l.fleet.record id (Pool.updateHealth id change) with
    | ok result => exact Fleet.reports_record hchange h hrecord
    | error e => exact hidle
  | none =>
    cases op with
    | begin id =>
      rw [perform]
      split
      · rename_i hbegin
        exact Fleet.reports_beginConnection h hbegin
      · exact hidle
    | drop slot =>
      rw [perform]
      split
      · split
        · rename_i hend
          exact Fleet.reports_endConnection h hend
        · exact hidle
      · exact hidle
    | finish id =>
      rw [perform]
      split
      · rename_i hend
        exact Fleet.reports_endConnection h hend
      · exact hidle
    | turn count => exact Fleet.reports_of_members rfl rfl
    | select =>
      exact Fleet.reports_of_members (perform_of_no_backend rules rfl).1 rfl
    | outcome id outcome =>
      rw [perform_of_silent rules l hs]
      exact hidle
    | success => cases hs
    | failure => cases hs
    | probe _ result => cases result <;> cases hs

/-! ## Histories -/

/-- What a gauge has to show of a backend, if it is there. -/
def shown (g : Gauge) (id : Nat) (l : Ledger) : Option Nat :=
  l.fleet.pool.members[id]?.map g.value

/-- An operation of a history has changed what a gauge has to show of a
backend. -/
def Changed (g : Gauge) (rules : Selection) (id : Nat) (l : Ledger)
    (ops : List Operation) : Prop :=
  ∃ before op, before ++ [op] <+: ops ∧
    shown g id (run rules (before ++ [op]) l).2 ≠ shown g id (run rules before l).2

theorem not_changed_nil : ¬ Changed g rules id l [] := by
  rintro ⟨before, op, hfront, -⟩
  simpa using List.prefix_nil.1 hfront

/-- What has changed has changed before or with the last operation. -/
theorem changed_concat :
    Changed g rules id l (ops ++ [op]) ↔
      Changed g rules id l ops ∨ shown g id (run rules (ops ++ [op]) l).2 ≠
        shown g id (run rules ops l).2 := by
  constructor
  · rintro ⟨before, op', hfront, hne⟩
    rcases List.prefix_concat_iff.1 hfront with hlast | hfront
    · obtain ⟨rfl, hop⟩ := List.append_inj' hlast rfl
      cases hop
      exact .inr hne
    · exact .inl ⟨before, op', hfront, hne⟩
  · rintro (⟨before, op', hfront, hne⟩ | hne)
    · exact ⟨before, op', hfront.trans (List.prefix_append _ _), hne⟩
    · exact ⟨ops, op, List.prefix_rfl, hne⟩

theorem named_run (rules : Selection) (ops : List Operation) (h : l.fleet.Named) :
    (run rules ops l).2.fleet.Named := by
  refine run_preserves (P := fun k => k.fleet.Named) (fun op _ k hk => ?_) h
  rwa [Fleet.Named, (performed_perform rules op k).backends_eq]

/-- **What a gauge shows after a history**: what the backend has, if that has
ever changed; and else what it has shown before, and what it has to show is as
it was. -/
theorem gauge?_run (rules : Selection) (ops : List Operation)
    (h : l.fleet.Named) (hm : l.fleet.pool.members[id]? = some m) :
    ∃ n, (run rules ops l).2.fleet.pool.members[id]? = some n ∧
      n.backend = m.backend ∧ ∀ g : Gauge, (Changed g rules id l ops →
          (run rules ops l).2.fleet.metrics.gauge? (g.series m.backend.name) =
            some (g.value n)) ∧
        (¬ Changed g rules id l ops →
          (run rules ops l).2.fleet.metrics.gauge? (g.series m.backend.name) =
              l.fleet.metrics.gauge? (g.series m.backend.name) ∧
            g.value n = g.value m) := by
  induction ops using List.reverseRecOn with
  | nil =>
    exact ⟨m, hm, rfl, fun g =>
      ⟨fun hchanged => absurd hchanged not_changed_nil, fun _ => ⟨rfl, rfl⟩⟩⟩
  | append_singleton ops op ih =>
    obtain ⟨k, hk, hbackend, hshows⟩ := ih
    obtain ⟨n, hn, hbackend', hreports⟩ :=
      reports_perform rules op (named_run rules ops h) id k hk
    rw [← Watch.run_concat] at hn hreports
    refine ⟨n, hn, hbackend'.trans hbackend, fun g => ?_⟩
    have hstep : shown g id (run rules (ops ++ [op]) l).2 ≠
        shown g id (run rules ops l).2 ↔ g.value n ≠ g.value k := by
      rw [shown, shown, hn, hk, Option.map_some, Option.map_some, ne_eq,
        Option.some_inj]
    rw [changed_concat, hstep, ← hbackend, hreports]
    -- the last operation reports a change, or what was shown before it is shown
    -- still
    by_cases hsame : g.value n = g.value k
    · rw [if_pos hsame, hbackend, hsame]
      simpa using hshows g
    · rw [if_neg hsame]
      exact ⟨fun _ => rfl, fun hnot => absurd (Or.inr hsame) hnot⟩

theorem size_run (rules : Selection) (ops : List Operation) :
    (run rules ops l).2.fleet.pool.size = l.fleet.pool.size :=
  run_preserves (P := fun k => k.fleet.pool.size = l.fleet.pool.size)
    (fun op _ k hk => (size_perform rules op k).trans hk) rfl

theorem idle_run (rules : Selection) (hm : l.fleet.pool.members[id]? = some m)
    (hidle : m.active = 0) (hops : .begin id ∉ ops) :
    ∃ n, (run rules ops l).2.fleet.pool.members[id]? = some n ∧ n.active = 0 := by
  refine run_preserves (P := fun k => ∃ n, k.fleet.pool.members[id]? = some n ∧
    n.active = 0) ?_ ⟨m, hm, hidle⟩
  rintro op hop k ⟨n, hn, hnone⟩
  obtain ⟨n', hn', -, hle⟩ := (performed_perform rules op k).active_le hn
  have hop' : op ≠ .begin id := fun heq => hops (heq ▸ hop)
  rw [hnone, if_neg hop'] at hle
  exact ⟨n', hn', Nat.le_zero.1 hle⟩

/-- **The number of connections changes when the first one is begun**, and not
before. -/
theorem changed_connections_iff (rules : Selection) (ops : List Operation)
    (hm : l.fleet.pool.members[id]? = some m) (hidle : m.active = 0) :
    Changed .connections rules id l ops ↔ .begin id ∈ ops := by
  constructor
  · rintro ⟨before, op, hfront, hne⟩
    by_contra hops
    have hnone : .begin id ∉ before ++ [op] := fun h => hops (hfront.subset h)
    -- without a begin there is no connection before and none after
    obtain ⟨n, hn, hactive⟩ := idle_run rules hm hidle hnone
    obtain ⟨k, hk, hactive'⟩ :=
      idle_run rules hm hidle fun h => hnone (List.mem_append_left _ h)
    rw [shown, shown, hn, hk, Option.map_some, Option.map_some, Gauge.value,
      Gauge.value, hactive, hactive'] at hne
    exact hne rfl
  · intro hmem
    obtain ⟨before, after, rfl⟩ := List.append_of_mem hmem
    refine ⟨before, .begin id, ⟨after, by simp⟩, ?_⟩
    have hlt : id < (run rules before l).2.fleet.pool.size := by
      rw [size_run]
      exact (List.getElem?_eq_some_iff.1 hm).1
    have hk := List.getElem?_eq_getElem hlt
    obtain ⟨g, hperform, hpool⟩ := perform_begin rules hk
    rw [Watch.run_concat, hperform, shown, shown, hpool, hk,
      Pool.withActive_getElem_self hk, Option.map_some, Option.map_some, ne_eq,
      Option.some_inj]
    exact Nat.succ_ne_self _

/-! ## New pools -/

/-- What the gauges show of a new pool after a history, whatever they have shown
before. -/
theorem mirrored_run (rules : Selection) {backends : List Backend}
    (hnames : (backends.map Backend.name).Nodup) (t : Thresholds)
    (metrics : Metrics) (ops : List Operation) :
    let new : Ledger := { fleet := ⟨.ofBackends backends t, metrics⟩ }
    let fleet := (run rules ops new).2.fleet
    fleet.pool.members[id]? = some n →
      n.backend ∈ backends ∧
      fleet.metrics.gauge? (Metrics.activeConnections n.backend.name) =
          (if .begin id ∈ ops then some n.active
            else metrics.gauge? (Metrics.activeConnections n.backend.name)) ∧
        (Changed .health rules id new ops →
          fleet.metrics.gauge? (Metrics.health n.backend.name) =
            some (if n.health.healthy then 1 else 0)) ∧
        (¬ Changed .health rules id new ops →
          fleet.metrics.gauge? (Metrics.health n.backend.name) =
            metrics.gauge? (Metrics.health n.backend.name) ∧
            n.health.healthy = true) := by
  intro new fleet hn
  have hnamed : new.fleet.Named := by rwa [Fleet.Named, Pool.backends_ofBackends]
  have hlt : id < new.fleet.pool.size :=
    size_run rules ops ▸ (List.getElem?_eq_some_iff.1 hn).1
  have hm := List.getElem?_eq_getElem hlt
  obtain ⟨b, hb, hnew⟩ := Pool.member_of_ofBackends hm
  obtain ⟨n', hn', hbackend, hshows⟩ := gauge?_run rules ops hnamed hm
  cases hn.symm.trans hn'
  rw [hbackend]
  refine ⟨?_, ?_, (hshows .health).1, fun h => ⟨((hshows .health).2 h).1, ?_⟩⟩
  · rw [← hnew]
    exact List.mem_of_getElem? hb
  · obtain ⟨hchanged, hunchanged⟩ := hshows .connections
    have hiff := changed_connections_iff rules ops hm (by rw [← hnew])
    split
    · rename_i hbegun
      exact hchanged (hiff.2 hbegun)
    · rename_i hbegun
      exact (hunchanged fun h => hbegun (hiff.1 h)).1
  · have hvalue := ((hshows .health).2 h).2
    rw [← hnew] at hvalue
    simpa [Gauge.value] using hvalue

/-- **The gauges mirror the pool.** Whatever happens to a new pool of backends
with different names, the number of connections of a backend is shown as soon as
one was begun and not before, and what is shown is the number it has. Its health
is shown as soon as it has changed and not before, and what is shown is 1 if it
is healthy and 0 if not. -/
theorem run_mirrored (rules : Selection) {backends : List Backend}
    (hnames : (backends.map Backend.name).Nodup) (t : Thresholds)
    (ops : List Operation) :
    let new : Ledger := { fleet := { pool := .ofBackends backends t } }
    let fleet := (run rules ops new).2.fleet
    ∀ (id : Nat) (m : Member), fleet.pool.members[id]? = some m →
      fleet.metrics.gauge? (Metrics.activeConnections m.backend.name) =
          (if .begin id ∈ ops then some m.active else none) ∧
        (Changed .health rules id new ops →
          fleet.metrics.gauge? (Metrics.health m.backend.name) =
            some (if m.health.healthy then 1 else 0)) ∧
        (¬ Changed .health rules id new ops →
          fleet.metrics.gauge? (Metrics.health m.backend.name) = none) := by
  intro new fleet id m hm
  obtain ⟨-, hconnections, hchanged, hunchanged⟩ :=
    mirrored_run rules hnames t {} ops hm
  exact ⟨hconnections, hchanged, fun h => (hunchanged h).1⟩

/-- Three failures in a row and a success of the second backend, while a
connection of the first one comes and goes: its number of connections is shown,
and the other one's health. -/
theorem run_mirrored_two :
    let first : Backend := ⟨"a", ⟨.loopback, 1, 0⟩, 1, none, by decide⟩
    let second : Backend := ⟨"b", ⟨.loopback, 2, 0⟩, 1, none, by decide⟩
    let failures : List Operation :=
      [.begin 0, .failure 1 .timeout, .probe 1 (some .timeout), .drop 0]
    let ops : List Operation :=
      failures ++ [.failure 1 .timeout] ++ [.finish 1, .select, .success 1]
    let new : Ledger := { fleet := { pool := .ofBackends [first, second] {} } }
    let metrics := (run {} ops new).2.fleet.metrics
    ([first, second].map Backend.name).Nodup ∧ Changed .health {} 1 new ops ∧
      metrics.gauge? (Metrics.health "b") = some 0 ∧
      metrics.gauge? (Metrics.activeConnections "a") = some 0 ∧
      metrics.gauge? (Metrics.activeConnections "b") = none := by
  intro first second failures ops new metrics
  have hnames : ([first, second].map Backend.name).Nodup := by decide
  have hchanged : Changed .health {} 1 new ops :=
    ⟨failures, .failure 1 .timeout, List.prefix_append _ _, by decide +kernel⟩
  have hfirst : (run {} ops new).2.fleet.pool.members[0]? =
      some { backend := first } := by decide +kernel
  have hsecond : (run {} ops new).2.fleet.pool.members[1]? =
      some ⟨second, ⟨false, 0, 1, 1, 3, some .timeout, some false⟩, 0⟩ := by
    decide +kernel
  obtain ⟨hconnections, -, -⟩ := run_mirrored {} hnames {} ops 0 _ hfirst
  obtain ⟨hnone, hhealth, -⟩ := run_mirrored {} hnames {} ops 1 _ hsecond
  exact ⟨hnames, hchanged, hhealth hchanged, hconnections, hnone⟩

end Ledger

/-! ## Started gateways -/

/-- What is reported at the start is that every backend is healthy. -/
theorem Config.gauge?_reportAll (p : Pool) (g : Gauge) (name : String) :
    (reportAll p).gauge? (g.series name) = if g = .health ∧
      name ∈ p.backends.map Backend.name then some 1 else none := by
  have key : ∀ (backends : List Backend) (metrics : Metrics),
      (backends.foldl (fun m b => m.set (Metrics.health b.name) 1) metrics).gauge?
        (g.series name) = if g = .health ∧ name ∈ backends.map Backend.name then
          some 1 else metrics.gauge? (g.series name) := by
    intro backends
    induction backends with
    | nil => simp
    | cons b backends ih =>
      intro metrics
      have hset : (metrics.set (Metrics.health b.name) 1).gauge? (g.series name) =
          if g = .health ∧ name = b.name then some 1
          else metrics.gauge? (g.series name) :=
        Gauge.gauge?_set metrics .health g b.name name 1
      rw [List.foldl_cons, ih, hset]
      by_cases hg : g = .health <;> by_cases hname : name = b.name <;>
        simp [hg, hname]
  exact key p.backends {}

/-- **In a started gateway the health of every backend is shown from the start
on**, and what is shown is always 1 if it is healthy and 0 if not. The number of
connections is shown as soon as one was begun, as for any new pool. -/
theorem Ledger.run_mirrored_started (rules : Selection)
    {backends : List Backend} (hnames : (backends.map Backend.name).Nodup)
    (t : Thresholds) (ops : List Operation) :
    let pool := Pool.ofBackends backends t
    let fleet := (run rules ops { fleet := ⟨pool, Config.reportAll pool⟩ }).2.fleet
    ∀ (id : Nat) (m : Member), fleet.pool.members[id]? = some m →
      fleet.metrics.gauge? (Metrics.health m.backend.name) =
        some (if m.health.healthy then 1 else 0) ∧
        fleet.metrics.gauge? (Metrics.activeConnections m.backend.name) =
          (if .begin id ∈ ops then some m.active else none) := by
  intro pool fleet id m hm
  obtain ⟨hmem, hconnections, hchanged, hunchanged⟩ :=
    mirrored_run rules hnames t (Config.reportAll pool) ops hm
  have hname : m.backend.name ∈ pool.backends.map Backend.name := by
    rw [Pool.backends_ofBackends]
    exact List.mem_map_of_mem hmem
  have hhealth :
      (Config.reportAll pool).gauge? (Metrics.health m.backend.name) = some 1 :=
    (Config.gauge?_reportAll pool .health m.backend.name).trans (if_pos ⟨rfl, hname⟩)
  have hnone : (Config.reportAll pool).gauge?
      (Metrics.activeConnections m.backend.name) = none :=
    (Config.gauge?_reportAll pool .connections m.backend.name).trans (if_neg nofun)
  refine ⟨?_, hnone ▸ hconnections⟩
  by_cases h : Changed .health rules id { fleet := ⟨pool, Config.reportAll pool⟩ } ops
  · exact hchanged h
  · obtain ⟨hshown, hhealthy⟩ := hunchanged h
    rw [hshown, hhealth, hhealthy, if_pos rfl]

end Gateway
