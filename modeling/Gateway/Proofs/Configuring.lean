import Mathlib.Data.List.Forall2
import Gateway.Config.Load
import Gateway.Proofs.Operations
import Gateway.Server.Startup

/-!
# What is built of a valid configuration

A weight, a threshold, a size of a buffer or a number of clients of 0 would
count as 1, but no valid configuration has one. So the gateway is built as its
configuration is written, and every request that comes before a connection is
begun has a backend.

* `BackendConfig.flawsOfAll_eq_nil_iff`: backends are valid if each is and no
  two have one name;
* `BackendConfig.Written`, `Config.Builds` say what is built;
* `Ledger.run_selects_of_ready`: a pool that can serve one request can serve as
  many as come;
* `Config.serves_as_written`: both for every valid configuration.
-/

namespace Gateway

/-! ## Validity -/

theorem ConfigFlaw.whenever_eq_nil_iff {condition : Bool} {flaw : ConfigFlaw} :
    whenever condition flaw = [] ↔ condition = false := by
  cases condition <;> simp [whenever]

open ConfigFlaw

namespace BackendConfig

variable {b : BackendConfig} {bs : List BackendConfig} {seen : List String}
  {built : Backend}

theorem flaws_eq_nil_iff :
    b.flaws = [] ↔
      isHostAndPort b.address = true ∧ b.weight ≠ 0 ∧
      b.maxConnections ≠ some 0 := by
  simp only [flaws, List.append_eq_nil_iff, whenever_eq_nil_iff,
    Bool.not_eq_false', beq_eq_false_iff_ne, ne_eq, and_assoc]

/-- **Backends are valid** if each is by itself, and no two of them have one
name, nor one that was seen before. -/
theorem flawsOfAll_eq_nil_iff :
    flawsOfAll seen bs = [] ↔
      (∀ b ∈ bs, b.flaws = []) ∧ (bs.map effectiveName).Nodup ∧
      ∀ b ∈ bs, b.effectiveName ∉ seen := by
  induction bs generalizing seen with
  | nil => simp [flawsOfAll]
  | cons b bs ih =>
    -- the first name counts as seen for those that come later
    have hfresh : (∀ b' ∈ bs, b'.effectiveName ∉ b.effectiveName :: seen) ↔
        b.effectiveName ∉ bs.map effectiveName ∧
        ∀ b' ∈ bs, b'.effectiveName ∉ seen := by
      rw [List.mem_map, not_exists, ← forall_and]
      refine forall_congr' fun b' => ?_
      rw [List.mem_cons, not_or, imp_and, not_and]
    rw [flawsOfAll, List.append_eq_nil_iff, List.append_eq_nil_iff,
      whenever_eq_nil_iff, ih, hfresh, List.map_cons, List.nodup_cons,
      List.forall_mem_cons, List.forall_mem_cons, List.contains_eq_mem,
      decide_eq_false_iff_not]
    tauto

end BackendConfig

theorem Config.flaws_eq_nil_iff {c : Config} :
    c.flaws = [] ↔
      c.listener.flaws = [] ∧ c.backends ≠ [] ∧
      BackendConfig.flawsOfAll [] c.backends = [] ∧
      c.healthCheck.flaws = [] ∧ c.timeouts.flaws = [] ∧ c.limits.flaws = [] ∧
      c.observability.flaws = [] ∧
      c.admin.flaws = [] := by
  simp only [flaws, List.append_eq_nil_iff, whenever_eq_nil_iff,
    List.isEmpty_eq_false_iff, and_assoc]

theorem Config.validate_eq_ok_iff {c c' : Config} :
    c.validate = .ok c' ↔ c.flaws = [] ∧ c' = c := by
  rw [validate]
  split
  · rename_i h
    exact ⟨fun heq => ⟨h, (Except.ok.inj heq).symm⟩, fun heq => by rw [heq.2]⟩
  · rename_i h
    exact ⟨fun heq => (nomatch heq), fun heq => absurd heq.1 h⟩

/-! ## What is built -/

theorem max_one_of_ne_zero {n : Nat} (h : n ≠ 0) : max n 1 = n :=
  Nat.max_eq_left (Nat.one_le_iff_ne_zero.2 h)

theorem HealthCheckConfig.thresholds_eq {h : HealthCheckConfig}
    (hvalid : h.flaws = []) :
    h.thresholds = ⟨h.unhealthyThreshold, h.healthyThreshold⟩ := by
  simp only [flaws, List.append_eq_nil_iff, whenever_eq_nil_iff,
    beq_eq_false_iff_ne] at hvalid
  obtain ⟨⟨⟨⟨-, -⟩, hunhealthy⟩, hhealthy⟩, -⟩ := hvalid
  rw [thresholds, max_one_of_ne_zero hunhealthy, max_one_of_ne_zero hhealthy]

theorem ListenerConfig.ofLimit?_eq {l : ListenerConfig} (hvalid : l.flaws = []) :
    Listener.ofLimit? l.maxConnections =
      if l.maxConnections ≤ Listener.mostPermits then
        some { limit := l.maxConnections } else none := by
  simp only [flaws, List.append_eq_nil_iff, whenever_eq_nil_iff,
    beq_eq_false_iff_ne] at hvalid
  rw [Listener.ofLimit?, max_one_of_ne_zero hvalid.2]

theorem Config.forwardLimits_eq {c : Config} (hvalid : c.limits.flaws = []) :
    c.forwardLimits =
      { connectTimeout := .seconds c.timeouts.connectSecs,
        requestTimeout := .seconds c.timeouts.requestSecs
        maxHeaderBytes := c.limits.maxHeaderBytes
        bufferBytes := c.limits.bufferBytes } := by
  simp only [LimitConfig.flaws, List.append_eq_nil_iff, whenever_eq_nil_iff,
    beq_eq_false_iff_ne] at hvalid
  rw [forwardLimits, max_one_of_ne_zero hvalid.2]

/-- A backend is what its configuration says. -/
structure BackendConfig.Written (b : BackendConfig)
    (built : Backend) : Prop where
  /-- Its name. -/
  name : built.name = b.effectiveName
  /-- Its address. -/
  address : SocketAddress.ofText? b.address = some built.address
  /-- Its weight. -/
  weight : built.weight = b.weight
  /-- Its room. -/
  capacity : built.capacity = b.maxConnections

/-- A backend with a weight and the address of a socket is built as it is
written. -/
theorem BackendConfig.written_resolve (lookup : Resolver) {b : BackendConfig}
    (hweight : b.weight ≠ 0) (haddress : isSocketAddress b.address = true) :
    ∃ built, b.resolve lookup = .ok built ∧ b.Written built := by
  obtain ⟨address, hparse⟩ := Option.isSome_iff_exists.1 haddress
  have hresolve : SocketAddress.resolve lookup b.address = .ok address := by
    unfold SocketAddress.resolve
    rw [hparse]
  have hbuilt : b.resolve lookup =
      .ok (.ofWeight b.effectiveName address b.weight b.maxConnections) := by
    unfold resolve
    rw [hresolve]
  exact ⟨_, hbuilt, rfl, hparse, max_one_of_ne_zero hweight, rfl⟩

/-- **All backends are built as they are written**, in their order. -/
theorem BackendConfig.written_mapM (lookup : Resolver) {bs : List BackendConfig}
    (hweights : ∀ b ∈ bs, b.weight ≠ 0)
    (haddresses : ∀ b ∈ bs, isSocketAddress b.address = true) :
    ∃ built, bs.mapM (resolve lookup) = .ok built ∧
      List.Forall₂ Written bs built := by
  induction bs with
  | nil => exact ⟨[], rfl, .nil⟩
  | cons b bs ih =>
    rw [List.forall_mem_cons] at hweights haddresses
    obtain ⟨first, hfirst, hwritten⟩ := written_resolve lookup hweights.1 haddresses.1
    obtain ⟨rest, hrest, hall⟩ := ih hweights.2 haddresses.2
    refine ⟨first :: rest, ?_, .cons hwritten hall⟩
    rw [List.mapM_cons, hfirst, hrest]
    rfl

theorem BackendConfig.names_of_written {bs : List BackendConfig}
    {built : List Backend} (h : List.Forall₂ Written bs built) :
    built.map Backend.name = bs.map effectiveName := by
  induction h with
  | nil => rfl
  | cons hwritten _ ih => rw [List.map_cons, List.map_cons, hwritten.name, ih]

theorem BackendConfig.capacity_of_written {bs : List BackendConfig}
    {built : List Backend} (h : List.Forall₂ Written bs built)
    (hroom : ∀ b ∈ bs, b.maxConnections ≠ some 0) :
    ∀ b ∈ built, b.capacity ≠ some 0 := by
  induction h with
  | nil => exact nofun
  | cons hwritten _ ih =>
    rw [List.forall_mem_cons] at hroom ⊢
    exact ⟨hwritten.capacity ▸ hroom.1, ih hroom.2⟩

/-- A pool is what its configuration says, and new. -/
structure Config.Builds (c : Config) (pool : Pool) : Prop where
  /-- The backends stand in their order. -/
  backends : List.Forall₂ BackendConfig.Written c.backends pool.backends
  /-- They are numbered by it. -/
  ids : pool.candidates.map (·.id) = List.range c.backends.length
  /-- No two of them have one name. -/
  names : (pool.backends.map Backend.name).Nodup
  /-- Nothing has happened to them yet. -/
  members : pool.members = pool.backends.map fun b => { backend := b }
  /-- Their health changes when it should. -/
  thresholds : pool.thresholds =
    ⟨c.healthCheck.unhealthyThreshold, c.healthCheck.healthyThreshold⟩

/-- **A valid configuration is built as it is written** if its backends have the
addresses of sockets. -/
theorem Config.builds_ofConfig (lookup : Resolver) {c : Config}
    (hvalid : c.flaws = [])
    (haddresses : ∀ b ∈ c.backends, isSocketAddress b.address = true) :
    ∃ pool, Pool.ofConfig lookup c.backends c.healthCheck = .ok pool ∧
      c.Builds pool := by
  obtain ⟨-, -, hbackends, hhealth, -⟩ := flaws_eq_nil_iff.1 hvalid
  obtain ⟨heach, hnames, -⟩ := BackendConfig.flawsOfAll_eq_nil_iff.1 hbackends
  have hweights : ∀ b ∈ c.backends, b.weight ≠ 0 :=
    fun b hb => (BackendConfig.flaws_eq_nil_iff.1 (heach b hb)).2.1
  obtain ⟨built, hbuilt, hwritten⟩ :=
    BackendConfig.written_mapM lookup hweights haddresses
  refine ⟨.ofBackends built c.healthCheck.thresholds,
    by rw [Pool.ofConfig, hbuilt], ?_, ?_, ?_, ?_, ?_⟩
  · rwa [Pool.backends_ofBackends]
  · rw [Pool.ids_candidates, Pool.ofBackends, List.length_map, hwritten.length_eq]
  · rwa [Pool.backends_ofBackends, BackendConfig.names_of_written hwritten]
  · rw [Pool.backends_ofBackends]
    rfl
  · exact HealthCheckConfig.thresholds_eq hhealth

/-! ## What it can serve -/

/-- A backend is healthy and has room. -/
def Member.IsReady (m : Member) : Prop :=
  m.health.healthy = true ∧ m.hasCapacity = true

/-- A new backend is ready if it has room for one connection. -/
theorem Backend.isReady_new {b : Backend} (hroom : b.capacity ≠ some 0) :
    Member.IsReady { backend := b } := by
  refine ⟨rfl, ?_⟩
  rw [Member.hasCapacity]
  split
  · rfl
  · rename_i most hmost
    refine decide_eq_true (Nat.pos_of_ne_zero fun hzero => hroom ?_)
    rw [← hzero]
    exact hmost

/-- In a pool that is built of a valid configuration there is a backend that is
ready. -/
theorem Config.Builds.ready {c : Config} {pool : Pool} (h : c.Builds pool)
    (hvalid : c.flaws = []) :
    ∃ m ∈ pool.members, m.IsReady := by
  obtain ⟨-, hsome, hbackends, -⟩ := flaws_eq_nil_iff.1 hvalid
  obtain ⟨heach, -⟩ := BackendConfig.flawsOfAll_eq_nil_iff.1 hbackends
  have hroom := BackendConfig.capacity_of_written h.backends fun b hb =>
    (BackendConfig.flaws_eq_nil_iff.1 (heach b hb)).2.2
  have hbuilt : pool.backends ≠ [] := by
    intro hnil
    have hwritten := h.backends
    rw [hnil, List.forall₂_nil_right_iff] at hwritten
    exact hsome hwritten
  obtain ⟨b, hb⟩ := List.exists_mem_of_ne_nil _ hbuilt
  refine ⟨{ backend := b }, ?_, Backend.isReady_new (hroom b hb)⟩
  rw [h.members]
  exact List.mem_map_of_mem hb

/-- **A pool with a backend that is ready has one for every request**, as long
as no connection is begun. -/
theorem Ledger.run_selects_of_ready (rules : Selection) (n : Nat) {l : Ledger}
    {m : Member} (hm : m ∈ l.fleet.pool.members) (hready : m.IsReady) :
    ∃ ids : List Nat, ids.length = n ∧ (∀ id ∈ ids, id < l.fleet.pool.size) ∧
      (run rules (List.replicate n .select) l).1 =
        ids.map fun id => .selected (.ok id) := by
  induction n generalizing l with
  | zero => exact ⟨[], rfl, nofun, rfl⟩
  | succ n ih =>
    obtain ⟨i, hi⟩ := List.mem_iff_getElem?.1 hm
    have heligible : (⟨i, m⟩ : Candidate) ∈ l.fleet.pool.eligible rules.failOpen :=
      Pool.mem_eligible_iff.2 ⟨hi, hready.2, .inl hready.1⟩
    obtain ⟨c, -, hc, hselect⟩ :=
      Pool.select_of_eligible (List.ne_nil_of_mem heligible)
    -- a selection uses up a turn, and leaves the members as they are
    obtain ⟨ids, hlength, hids, hrun⟩ := ih (l := { l with
      fleet := { l.fleet with pool := l.fleet.pool.advance } }) hm
    refine ⟨c.id :: ids, congrArg Nat.succ hlength, List.forall_mem_cons.2 ⟨?_, hids⟩, ?_⟩
    · exact (List.getElem?_eq_some_iff.1 hc).1
    · rw [List.replicate_succ, run, perform_select, hselect]
      dsimp only
      rw [hrun]
      rfl

/-- A valid configuration can listen for operators, if it does, wherever the
system lets it. -/
theorem Config.exists_bindAdmin {binder : Binder} (hbinder : binder.Permits)
    (taken : List SocketAddress) {a : AdminConfig} (hvalid : a.flaws = []) :
    ∃ address, bindAdmin binder taken a = .ok address := by
  rw [bindAdmin]
  split
  · rename_i henabled
    simp only [AdminConfig.flaws, henabled, if_true, List.append_eq_nil_iff,
      whenever_eq_nil_iff, Bool.not_eq_false'] at hvalid
    obtain ⟨address, haddress⟩ := Option.isSome_iff_exists.1 hvalid.1
    obtain ⟨u, hu⟩ := hbinder taken address
    rw [haddress]
    dsimp only
    rw [hu]
    exact ⟨_, rfl⟩
  · exact ⟨none, rfl⟩

/-- So it can for those who read metrics. -/
theorem Config.exists_bindMetrics {binder : Binder} (hbinder : binder.Permits)
    (taken : List SocketAddress) {o : ObservabilityConfig}
    (hvalid : o.flaws = []) :
    ∃ u, bindMetrics binder taken o = .ok u := by
  rw [bindMetrics]
  split
  · rename_i henabled
    simp only [ObservabilityConfig.flaws, henabled, Bool.true_and,
      whenever_eq_nil_iff, Bool.not_eq_false'] at hvalid
    obtain ⟨address, haddress⟩ := Option.isSome_iff_exists.1 hvalid
    obtain ⟨u, hu⟩ := hbinder taken address
    rw [haddress]
    dsimp only
    rw [hu]
    exact ⟨_, rfl⟩
  · exact ⟨(), rfl⟩

/-- **A valid configuration starts**, if its backends have the addresses of
sockets, the system lets it listen, and there can be as many clients as it
allows. -/
theorem Config.exists_start (lookup : Resolver) {c : Config} {binder : Binder}
    (hvalid : c.flaws = [])
    (haddresses : ∀ b ∈ c.backends, isSocketAddress b.address = true)
    (hbinder : binder.Permits)
    (hclients : c.listener.maxConnections ≤ Listener.mostPermits) :
    ∃ s, start lookup binder c = .ok s ∧ c.Builds s.server.fleet.pool := by
  obtain ⟨hlistener, -, -, -, -, -, hmetrics, hadmin⟩ := flaws_eq_nil_iff.1 hvalid
  obtain ⟨pool, hpool, hbuilds⟩ := builds_ofConfig lookup hvalid haddresses
  have haddress : isSocketAddress c.listener.bindAddress = true := by
    simp only [ListenerConfig.flaws, List.append_eq_nil_iff,
      whenever_eq_nil_iff, Bool.not_eq_false'] at hlistener
    exact hlistener.1
  obtain ⟨address, haddress⟩ := Option.isSome_iff_exists.1 haddress
  obtain ⟨u, hu⟩ := hbinder [] address
  have hlisten :
      Listener.listen binder c.listener.bindAddress c.listener.maxConnections =
        .ok (address, { limit := c.listener.maxConnections }) := by
    unfold Listener.listen Listener.bind
    rw [haddress]
    dsimp only
    rw [hu]
    dsimp only
    rw [ListenerConfig.ofLimit?_eq hlistener, if_pos hclients]
  obtain ⟨operators, hoperators⟩ := exists_bindAdmin hbinder [address] hadmin
  obtain ⟨u', hu'⟩ :=
    exists_bindMetrics hbinder (address :: operators.toList) hmetrics
  refine ⟨{ server := { fleet := ⟨pool, reportAll pool⟩ },
            hasAdmin := operators.isSome }, ?_, hbuilds⟩
  unfold start
  rw [hpool]
  dsimp only
  rw [hlisten]
  dsimp only
  rw [hoperators]
  dsimp only
  rw [hu']

/-- **A valid configuration is used as it is written, and can serve**, if its
backends have the addresses of sockets. A pool is built in which every backend
has its own number and name, its weight, its room and the thresholds that were
written; the buffer has its size, and as many clients are served as was written,
if there can be so many. No host is looked up for that, so it does not matter
what the system knows. Whatever the policy, and whether the pool fails open or
not, as many requests as come get a backend before a connection is begun. -/
theorem Config.serves_as_written (lookup : Resolver) {c : Config}
    (hvalid : c.validate = .ok c)
    (haddresses : ∀ b ∈ c.backends, (SocketAddress.ofText? b.address).isSome = true) :
    (∃ pool, Pool.ofConfig lookup c.backends c.healthCheck = .ok pool ∧ c.Builds pool ∧
        ∀ (rules : Selection) (n : Nat), ∃ ids : List Nat, ids.length = n ∧
          (∀ id ∈ ids, id < c.backends.length) ∧
          (Ledger.run rules (List.replicate n .select) { fleet := { pool := pool } }).1 =
            ids.map fun id => .selected (.ok id)) ∧
      c.forwardLimits =
        { connectTimeout := .seconds c.timeouts.connectSecs,
          requestTimeout := .seconds c.timeouts.requestSecs
          maxHeaderBytes := c.limits.maxHeaderBytes
          bufferBytes := c.limits.bufferBytes } ∧
      Listener.ofLimit? c.listener.maxConnections =
        if c.listener.maxConnections ≤ Listener.mostPermits then
          some { limit := c.listener.maxConnections }
        else none := by
  obtain ⟨hflaws, -⟩ := validate_eq_ok_iff.1 hvalid
  obtain ⟨hlistener, -, -, -, -, hlimits, -⟩ := flaws_eq_nil_iff.1 hflaws
  obtain ⟨pool, hpool, hbuilds⟩ := builds_ofConfig lookup hflaws haddresses
  refine ⟨⟨pool, hpool, hbuilds, fun rules n => ?_⟩, forwardLimits_eq hlimits,
    ListenerConfig.ofLimit?_eq hlistener⟩
  obtain ⟨m, hm, hready⟩ := hbuilds.ready hflaws
  have hsize : pool.size = c.backends.length := by
    have hlength := hbuilds.backends.length_eq
    rw [Pool.backends, List.length_map] at hlength
    exact hlength.symm
  rw [← hsize]
  exact Ledger.run_selects_of_ready (l := { fleet := { pool := pool } }) rules n hm hready

/-- Two backends, one with a name, a weight and room for two connections, and
one that is called by its address. -/
theorem Config.serves_as_written_two :
    let c : Config :=
      { listener := { maxConnections := 8 }, limits := { bufferBytes := 1 }
        healthCheck := { unhealthyThreshold := 1, healthyThreshold := 5 }
        backends := [⟨some "a", "127.0.0.1:3000", 3, some 2⟩,
          { address := "[::1]:8082" }] }
    c.validate = .ok c ∧ c.forwardLimits.bufferBytes = 1 ∧
      Listener.ofLimit? c.listener.maxConnections = some { limit := 8 } ∧
      ∃ pool, Pool.ofConfig (fun _ => .error .unknown) c.backends c.healthCheck =
        .ok pool ∧ pool.thresholds = ⟨1, 5⟩ ∧
        ∀ (rules : Selection) (n : Nat), ∃ ids : List Nat, ids.length = n ∧
          (∀ id ∈ ids, id < 2) ∧
          (Ledger.run rules (List.replicate n .select) { fleet := { pool := pool } }).1 =
            ids.map fun id => .selected (.ok id) := by
  intro c
  have hvalid : c.validate = .ok c := by decide +kernel
  have haddresses : ∀ b ∈ c.backends, (SocketAddress.ofText? b.address).isSome =
      true := by decide +kernel
  obtain ⟨⟨pool, hpool, hbuilds, hserves⟩, hlimits, hlistener⟩ :=
    serves_as_written (fun _ => .error .unknown) hvalid haddresses
  exact ⟨hvalid, congrArg ForwardLimits.bufferBytes hlimits, hlistener, pool,
    hpool, hbuilds.thresholds, hserves⟩

end Gateway
