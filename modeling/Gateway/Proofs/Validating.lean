import Mathlib.Data.Finset.Card
import Mathlib.Data.List.Basic
import Gateway.Proofs.Configuring
import Gateway.Proofs.Encoding
import Gateway.Proofs.Numerals

/-!
# What validation reports

Each part of a configuration is checked by itself, and its flaws are reported
whatever is wrong with the other parts. Only names are compared: a backend that
is called like one in front of it is reported for that too, behind its own
flaws. So every flaw is reported, there are no others, and none hides another.

* `NamesSocket`, `Config.HasFlaw` say what is wrong with a configuration,
  without regard to how it is checked;
* `BackendConfig.flawsOfAll_eq`, `BackendConfig.countP_flawsOfAll`: where the
  names that come again are reported, and how many there are;
* `Config.mem_flaws_iff`: what is wrong and nothing else is reported;
* `Config.addedTo_eq_flaws`: the parts of a configuration add the same to a
  valid one as they have by themselves;
* `Config.validate_reports`: the whole report.
-/

namespace Gateway

open ConfigFlaw

/-! ## Addresses -/

/-- A text at its last separator: no separator stands behind it. -/
theorem Text.cutLast?_eq_some_iff {sep : Char} {cs front back : List Char} :
    cutLast? sep cs = some (front, back) ↔
      cs = front ++ sep :: back ∧ sep ∉ back := by
  rw [cutLast?, Option.map_eq_some_iff]
  constructor
  · rintro ⟨⟨after, before⟩, hcut, heq⟩
    cases heq
    refine ⟨?_, fun hmem => not_mem_of_cut? hcut (List.mem_reverse.1 hmem)⟩
    rw [← List.reverse_reverse cs, cut?_eq_some hcut]
    simp
  · rintro ⟨rfl, hback⟩
    refine ⟨(back.reverse, front.reverse), ?_, by simp⟩
    rw [List.reverse_append, List.reverse_cons, List.append_assoc]
    exact cut?_append (fun hmem => hback (List.mem_reverse.1 hmem)) _

/-- A spelling of a number holds digits and a plus sign at most. -/
theorem Text.Spelled.not_mem {base n : Nat} {cs : List Char} {c : Char}
    (h : Spelled base cs n) (hplus : c ≠ '+')
    (hdigit : ∀ d, ¬ IsDigit base c d) : c ∉ cs := by
  have hdigits : ∀ {cs : List Char}, Denotes base cs n → c ∉ cs := by
    rintro cs ⟨-, ds, hds, -⟩ hmem
    clear h
    induction hds with
    | nil => exact absurd hmem List.not_mem_nil
    | cons hfirst _ ih =>
      rcases List.mem_cons.1 hmem with rfl | hmem
      · exact hdigit _ hfirst
      · exact ih hmem
  rcases h with h | ⟨digits, rfl, h⟩
  · exact hdigits h
  · rw [List.mem_cons, not_or]
    exact ⟨hplus, hdigits h⟩

/-- A text names a socket: it is the address of one, or the name of a host and,
behind a colon, the number of a port. -/
def NamesSocket (s : String) : Prop :=
  (∃ address, SocketAddress.ofText? s = some address) ∨
    ∃ host port n, s.toList = host ++ ':' :: port ∧ host ≠ [] ∧ ':' ∉ host ∧
    Text.Spelled 10 port n ∧ n ≤ Text.max16

/-- **The check for hosts and ports finds the texts that name a socket.** -/
theorem isHostAndPort_iff {s : String} :
    isHostAndPort s = true ↔ NamesSocket s := by
  have hcolon : ∀ d, ¬ Text.IsDigit 10 ':' d := fun d hd =>
    absurd ((Text.digitValue?_eq_some_iff (by decide)).2 hd)
      (by simp [show Text.digitValue? 10 ':' = none from rfl])
  rw [isHostAndPort, Bool.or_eq_true, isSocketAddress,
    Option.isSome_iff_exists, NamesSocket]
  refine or_congr_right ?_
  cases hcut : Text.cutLast? ':' s.toList with
  | none =>
    refine ⟨nofun, ?_⟩
    rintro ⟨host, port, n, hs, -, -, hport, -⟩
    have hfound := Text.cutLast?_eq_some_iff.2 ⟨hs, hport.not_mem (by decide) hcolon⟩
    rw [hcut] at hfound
    cases hfound
  | some parts =>
    obtain ⟨host, port⟩ := parts
    simp only [Bool.and_eq_true, Bool.not_eq_true', List.isEmpty_eq_false_iff,
      List.contains_eq_mem, decide_eq_false_iff_not, Option.isSome_iff_exists,
      Text.unsigned?_eq_some_iff (by decide : 10 ≤ 16)]
    constructor
    · rintro ⟨⟨hne, hhost⟩, n, hport, hle⟩
      exact ⟨host, port, n, (Text.cutLast?_eq_some_iff.1 hcut).1, hne, hhost, hport, hle⟩
    · rintro ⟨host', port', n, hs, hne, hhost, hport, hle⟩
      have hfound := Text.cutLast?_eq_some_iff.2 ⟨hs, hport.not_mem (by decide) hcolon⟩
      rw [hcut] at hfound
      cases hfound
      exact ⟨⟨hne, hhost⟩, n, hport, hle⟩

/-! ## Flaws -/

/-- The listener's settings that have to be greater than 0, with what they
are. -/
def ListenerConfig.quantities (l : ListenerConfig) : List (String × Nat) :=
  [("listener.max_connections", l.maxConnections)]

/-- Those of the settings for probes. -/
def HealthCheckConfig.quantities
    (h : HealthCheckConfig) : List (String × Nat) :=
  [("health_check.interval_secs", h.intervalSecs),
    ("health_check.timeout_secs", h.timeoutSecs),
    ("health_check.unhealthy_threshold", h.unhealthyThreshold),
    ("health_check.healthy_threshold", h.healthyThreshold)]

/-- Those of the timeouts. -/
def TimeoutConfig.quantities (t : TimeoutConfig) : List (String × Nat) :=
  [("timeouts.connect_secs", t.connectSecs), ("timeouts.request_secs", t.requestSecs),
    ("timeouts.idle_secs", t.idleSecs)]

/-- Those of the limits. -/
def LimitConfig.quantities (l : LimitConfig) : List (String × Nat) :=
  [("limits.max_header_bytes", l.maxHeaderBytes), ("limits.buffer_bytes", l.bufferBytes)]

namespace Config

/-- All settings that have to be greater than 0. -/
def quantities (c : Config) : List (String × Nat) :=
  c.listener.quantities ++ c.healthCheck.quantities ++ c.timeouts.quantities ++
    c.limits.quantities

/-- The settings that have to be socket addresses, with what they are. Those of
what is switched off do not count. -/
def addresses (c : Config) : List (String × String) :=
  [("listener.bind_address", c.listener.bindAddress)]
    ++ (if c.observability.metricsEnabled then
      [("observability.metrics_address", c.observability.metricsAddress)]
      else [])
    ++ if c.admin.enabled then [("admin.bind_address", c.admin.bindAddress)] else []

/-- What is wrong with a configuration. -/
inductive HasFlaw (c : Config) : ConfigFlaw → Prop where
  /-- A setting holds no socket address. -/
  | address {setting value : String} : (setting, value) ∈ c.addresses →
      SocketAddress.ofText? value = none →
      HasFlaw c (.invalidAddress setting value)
  /-- A setting is 0. -/
  | quantity {setting : String} : (setting, 0) ∈ c.quantities →
      HasFlaw c (.notPositive setting)
  /-- There is no backend. -/
  | noBackends : c.backends = [] → HasFlaw c .noBackends
  /-- The address of a backend names no socket. -/
  | backendAddress {b : BackendConfig} : b ∈ c.backends → ¬ NamesSocket b.address →
      HasFlaw c (.invalidAddress ("backends[" ++ b.effectiveName ++ "].address") b.address)
  /-- A backend has the weight 0. -/
  | weight {b : BackendConfig} : b ∈ c.backends → b.weight = 0 →
      HasFlaw c (.zeroWeight b.effectiveName)
  /-- A backend has no room. -/
  | capacity {b : BackendConfig} : b ∈ c.backends → b.maxConnections = some 0 →
      HasFlaw c (.zeroCapacity b.effectiveName)
  /-- A backend is called like one in front of it. -/
  | name {front back : List BackendConfig} {b : BackendConfig} : c.backends =
      front ++ b :: back →
      b.effectiveName ∈ front.map BackendConfig.effectiveName →
      HasFlaw c (.duplicateName b.effectiveName)
  /-- The path of probes does not begin with a slash. -/
  | path {path : String} : c.healthCheck.path = some path →
      path.toList.head? ≠ some '/' →
      HasFlaw c (.invalidPath path)
  /-- Operators have an interface, and its key is blank. -/
  | key : c.admin.enabled = true → (∀ ch ∈ c.admin.apiKey.toList,
      Text.isBlank ch = true) → HasFlaw c .emptyApiKey

end Config

/-! ## Parts -/

namespace ConfigFlaw

variable {condition : Bool} {flaw other : ConfigFlaw} {qs : List (String × Nat)}

theorem mem_whenever_iff :
    other ∈ whenever condition flaw ↔ condition = true ∧ other = flaw := by
  cases condition <;> simp [whenever]

/-- The flaws of settings that have to be greater than 0. -/
def ofQuantities (qs : List (String × Nat)) : List ConfigFlaw :=
  qs.flatMap fun q => whenever (q.2 == 0) (.notPositive q.1)

theorem mem_ofQuantities_iff :
    flaw ∈ ofQuantities qs ↔
      ∃ setting, (setting, 0) ∈ qs ∧ flaw = .notPositive setting := by
  simp only [ofQuantities, List.mem_flatMap, mem_whenever_iff,
    beq_iff_eq, Prod.exists]
  refine exists_congr fun setting => ⟨?_, fun ⟨hmem, hflaw⟩ => ⟨0, hmem, rfl, hflaw⟩⟩
  rintro ⟨_, hmem, rfl, hflaw⟩
  exact ⟨hmem, hflaw⟩

/-- Whether a flaw is that a name comes again. -/
def isDuplicate : ConfigFlaw → Bool
  | .duplicateName _ => true
  | _ => false

theorem countP_whenever :
    (whenever condition flaw).countP isDuplicate =
      if condition && flaw.isDuplicate then 1 else 0 := by
  cases condition <;> simp [whenever, List.countP_singleton]

end ConfigFlaw

theorem not_isSocketAddress_iff {s : String} :
    (!isSocketAddress s) = true ↔ SocketAddress.ofText? s = none := by
  rw [Bool.not_eq_true', isSocketAddress, Option.isSome_eq_false_iff,
    Option.isNone_iff_eq_none]

theorem ListenerConfig.flaws_eq (l : ListenerConfig) :
    l.flaws = whenever (!isSocketAddress l.bindAddress)
      (.invalidAddress "listener.bind_address" l.bindAddress) ++
        ofQuantities l.quantities := by
  rw [flaws, quantities, ofQuantities, List.flatMap_singleton]

theorem HealthCheckConfig.flaws_eq (h : HealthCheckConfig) :
    h.flaws = ofQuantities h.quantities ++
      h.path.toList.flatMap fun path =>
        whenever (path.toList.head? != some '/') (.invalidPath path) := by
  rw [flaws]
  cases h.path <;> simp [ofQuantities, quantities]

theorem TimeoutConfig.flaws_eq (t : TimeoutConfig) :
    t.flaws = ofQuantities t.quantities := by
  simp [flaws, ofQuantities, quantities]

theorem LimitConfig.flaws_eq (l : LimitConfig) :
    l.flaws = ofQuantities l.quantities := by
  simp [flaws, ofQuantities, quantities]

theorem ObservabilityConfig.mem_flaws_iff {o : ObservabilityConfig}
    {flaw : ConfigFlaw} :
    flaw ∈ o.flaws ↔
      o.metricsEnabled = true ∧ SocketAddress.ofText? o.metricsAddress = none ∧
      flaw = .invalidAddress "observability.metrics_address" o.metricsAddress := by
  rw [flaws, mem_whenever_iff, Bool.and_eq_true, not_isSocketAddress_iff, and_assoc]

theorem AdminConfig.mem_flaws_iff {a : AdminConfig} {flaw : ConfigFlaw} :
    flaw ∈ a.flaws ↔
      a.enabled = true ∧
      ((SocketAddress.ofText? a.bindAddress = none ∧
        flaw = .invalidAddress "admin.bind_address" a.bindAddress) ∨
        (∀ ch ∈ a.apiKey.toList, Text.isBlank ch = true) ∧ flaw = .emptyApiKey) := by
  rw [flaws]
  split
  case isTrue henabled =>
    rw [List.mem_append, mem_whenever_iff, mem_whenever_iff,
      not_isSocketAddress_iff, beq_iff_eq, Text.trim_eq_nil_iff]
    exact ⟨fun h => ⟨henabled, h⟩, fun h => h.2⟩
  case isFalse hdisabled =>
    exact ⟨fun h => absurd h List.not_mem_nil, fun h => absurd h.1 hdisabled⟩

namespace BackendConfig

variable {b : BackendConfig} {bs : List BackendConfig} {seen : List String}
  {flaw : ConfigFlaw}

theorem mem_flaws_iff :
    flaw ∈ b.flaws ↔
      (¬ NamesSocket b.address ∧
          flaw = .invalidAddress ("backends[" ++ b.effectiveName ++
            "].address") b.address) ∨
        (b.weight = 0 ∧ flaw = .zeroWeight b.effectiveName) ∨
          b.maxConnections = some 0 ∧ flaw = .zeroCapacity b.effectiveName := by
  simp only [flaws, List.mem_append, mem_whenever_iff, Bool.not_eq_true',
    ← isHostAndPort_iff, Bool.not_eq_true, beq_iff_eq, or_assoc]

/-- **Where names come again.** The flaws of backends are those of each by
itself, and behind these that its name comes again, if one in front of it has
that name. -/
theorem flawsOfAll_eq (seen : List String) (bs : List BackendConfig) :
    flawsOfAll seen bs = bs.zipIdx.flatMap fun b => b.1.flaws ++
      whenever (decide (b.1.effectiveName ∈ seen ∨
        b.1.effectiveName ∈ (bs.take b.2).map effectiveName))
          (.duplicateName b.1.effectiveName) := by
  induction bs generalizing seen with
  | nil => rfl
  | cons b bs ih =>
    -- the others stand one place further back, and the first of all is in front
    -- of them
    rw [flawsOfAll, ih, List.zipIdx_cons, List.flatMap_cons, List.zipIdx_succ,
      List.flatMap_map]
    refine congrArg₂ (· ++ ·) (by simp) (List.flatMap_congr fun b' _ => ?_)
    simp only [List.take_succ_cons, List.map_cons, List.mem_cons,
      or_left_comm, or_assoc]

/-- What is wrong with backends of which some with the names `seen` come
before. -/
theorem mem_flawsOfAll_iff :
    flaw ∈ flawsOfAll seen bs ↔
      (∃ b ∈ bs, flaw ∈ b.flaws) ∨
      ∃ front b back, bs = front ++ b :: back ∧
        (b.effectiveName ∈ seen ∨ b.effectiveName ∈ front.map effectiveName) ∧
        flaw = .duplicateName b.effectiveName := by
  simp only [flawsOfAll_eq, List.mem_flatMap, List.mem_append, mem_whenever_iff,
    decide_eq_true_eq, Prod.exists, List.mem_zipIdx_iff_getElem?]
  constructor
  · rintro ⟨b, i, hb, hflaw | ⟨hname, rfl⟩⟩
    · exact .inl ⟨b, List.mem_of_getElem? hb, hflaw⟩
    · refine .inr ⟨bs.take i, b, bs.drop (i + 1), ?_, hname, rfl⟩
      obtain ⟨hi, rfl⟩ := List.getElem?_eq_some_iff.1 hb
      rw [← List.drop_eq_getElem_cons hi, List.take_append_drop]
  · rintro (⟨b, hb, hflaw⟩ | ⟨front, b, back, rfl, hname, rfl⟩)
    · obtain ⟨i, hi⟩ := List.mem_iff_getElem?.1 hb
      exact ⟨b, i, hi, .inl hflaw⟩
    · refine ⟨b, front.length, by simp, .inr ⟨?_, rfl⟩⟩
      rwa [List.take_left]

/-- A backend with a name of its own adds the same to valid backends wherever it
stands among them: its own flaws. -/
theorem flawsOfAll_insert {front back : List BackendConfig}
    (hvalid : flawsOfAll seen (front ++ back) = [])
    (hname : b.effectiveName ∉ (front ++ back).map effectiveName)
    (hseen : b.effectiveName ∉ seen) :
    flawsOfAll seen (front ++ b :: back) = b.flaws := by
  induction front generalizing seen with
  | nil =>
    obtain ⟨hflaws, hnames, hfresh⟩ := flawsOfAll_eq_nil_iff.1 hvalid
    have hback : flawsOfAll (b.effectiveName :: seen) back = [] := by
      refine flawsOfAll_eq_nil_iff.2 ⟨hflaws, hnames, fun b' hb' hmem => ?_⟩
      rcases List.mem_cons.1 hmem with heq | hmem
      · exact hname (heq ▸ List.mem_map_of_mem hb')
      · exact hfresh b' hb' hmem
    rw [List.nil_append, flawsOfAll, hback,
      whenever_eq_nil_iff.2 (by simpa using hseen), List.append_nil, List.append_nil]
  | cons f front ih =>
    rw [List.cons_append, List.map_cons, List.mem_cons, not_or] at hname
    rw [List.cons_append, flawsOfAll, List.append_eq_nil_iff] at hvalid
    rw [List.cons_append, flawsOfAll, hvalid.1, List.nil_append]
    exact ih hvalid.2 hname.2 (by rw [List.mem_cons, not_or]; exact ⟨hname.1, hseen⟩)

theorem countP_flaws (b : BackendConfig) : b.flaws.countP isDuplicate = 0 := by
  simp [flaws, countP_whenever, isDuplicate]

/-- **How many names come again**: so many that with each new name counted once
there are as many as backends. -/
theorem countP_flawsOfAll (seen : List String) (bs : List BackendConfig) :
    (flawsOfAll seen bs).countP isDuplicate +
      ((bs.map effectiveName).toFinset \ seen.toFinset).card = bs.length := by
  induction bs generalizing seen with
  | nil => simp [flawsOfAll]
  | cons b bs ih =>
    have hrest := ih (b.effectiveName :: seen)
    rw [List.toFinset_cons] at hrest
    rw [flawsOfAll, List.countP_append, List.countP_append, countP_flaws,
      List.map_cons, List.toFinset_cons, List.length_cons, whenever,
      List.contains_eq_mem]
    by_cases hseen : b.effectiveName ∈ seen
    · have hmem := List.mem_toFinset.2 hseen
      rw [Finset.insert_eq_of_mem hmem] at hrest
      rw [Finset.insert_sdiff_of_mem _ hmem, if_pos (decide_eq_true hseen), ← hrest]
      simp only [List.countP_singleton, isDuplicate, if_true]
      omega
    · -- a new name counts once, and not again for those that come later
      have hnew : insert b.effectiveName (bs.map effectiveName).toFinset \ seen.toFinset =
          insert b.effectiveName ((bs.map effectiveName).toFinset \ insert
            b.effectiveName seen.toFinset) := by
        rw [Finset.insert_sdiff_of_notMem _ (mt List.mem_toFinset.1 hseen)]
        ext name
        simp only [Finset.mem_insert, Finset.mem_sdiff, not_or]
        tauto
      rw [hnew, Finset.card_insert_of_notMem (by simp),
        if_neg (by simpa using hseen), ← hrest]
      simp only [List.countP_nil]
      omega

end BackendConfig

/-! ## The report -/

namespace Config

variable {c valid : Config} {flaw : ConfigFlaw}

/-- **This and nothing else is reported**: what is wrong with a
configuration. -/
theorem mem_flaws_iff : flaw ∈ c.flaws ↔ c.HasFlaw flaw := by
  simp only [flaws, ListenerConfig.flaws_eq, HealthCheckConfig.flaws_eq,
    TimeoutConfig.flaws_eq, LimitConfig.flaws_eq, List.mem_append, mem_whenever_iff,
    mem_ofQuantities_iff, List.mem_flatMap, Option.mem_toList, bne_iff_ne,
    not_isSocketAddress_iff, List.isEmpty_iff, BackendConfig.mem_flawsOfAll_iff,
    BackendConfig.mem_flaws_iff, List.not_mem_nil, false_or,
    ObservabilityConfig.mem_flaws_iff, AdminConfig.mem_flaws_iff, or_assoc]
  constructor
  · rintro (⟨h, rfl⟩ | ⟨setting, h, rfl⟩ | ⟨h, rfl⟩
      | ⟨b, hb, ⟨h, rfl⟩ | ⟨h, rfl⟩ | ⟨h, rfl⟩⟩ | ⟨front, b, back, h, hname, rfl⟩
        | ⟨setting, h, rfl⟩ | ⟨path, hpath, h, rfl⟩ | ⟨setting, h, rfl⟩ |
      ⟨setting, h, rfl⟩ | ⟨hon, h, rfl⟩ | ⟨hon, ⟨h, rfl⟩ | ⟨h, rfl⟩⟩)
    · exact .address (by simp [addresses]) h
    · exact .quantity (by simp [quantities, h])
    · exact .noBackends h
    · exact .backendAddress hb h
    · exact .weight hb h
    · exact .capacity hb h
    · exact .name h hname
    · exact .quantity (by simp [quantities, h])
    · exact .path hpath h
    · exact .quantity (by simp [quantities, h])
    · exact .quantity (by simp [quantities, h])
    · exact .address (by simp [addresses, hon]) h
    · exact .address (by simp [addresses, hon]) h
    · exact .key hon h
  · intro h
    cases h with
    | address hmem hvalue =>
      simp only [addresses, List.mem_append, List.mem_ite_nil_right,
        List.mem_singleton, Prod.mk.injEq] at hmem
      obtain (⟨rfl, rfl⟩ | ⟨hon, rfl, rfl⟩) | ⟨hon, rfl, rfl⟩ := hmem <;> simp [*]
    | quantity hmem =>
      simp only [quantities, List.mem_append] at hmem
      obtain ((hmem | hmem) | hmem) | hmem := hmem <;> simp [hmem]
    | noBackends hnone => simp [hnone]
    | backendAddress hb haddress =>
      exact .inr (.inr (.inr (.inl ⟨_, hb, .inl ⟨haddress, rfl⟩⟩)))
    | weight hb hweight =>
      exact .inr (.inr (.inr (.inl ⟨_, hb, .inr (.inl ⟨hweight, rfl⟩)⟩)))
    | capacity hb hroom =>
      exact .inr (.inr (.inr (.inl ⟨_, hb, .inr (.inr ⟨hroom, rfl⟩)⟩)))
    | name hsplit hname =>
      exact .inr (.inr (.inr (.inr (.inl ⟨_, _, _, hsplit, hname, rfl⟩))))
    | path hpath hslash => simp [hpath, hslash]
    | key hon hblank => simpa [hon] using hblank

/-- What the parts of a configuration add, one by one, to one that is valid: the
listener; that there is no backend; the backends, where behind what one adds by
itself stands that its name comes again, if it does; and the other settings. -/
def addedTo (valid c : Config) : List ConfigFlaw :=
  { valid with listener := c.listener }.flaws
    ++ (if c.backends = [] then { valid with backends := [] }.flaws else [])
    ++ (c.backends.zipIdx.flatMap fun b => { valid with backends := [b.1] }.flaws
      ++ whenever (decide (b.1.effectiveName ∈
        (c.backends.take b.2).map BackendConfig.effectiveName))
          (.duplicateName b.1.effectiveName))
    ++ { valid with healthCheck := c.healthCheck }.flaws ++ { valid with
    timeouts := c.timeouts }.flaws ++ { valid with limits := c.limits }.flaws ++
      { valid with observability := c.observability }.flaws
    ++ { valid with admin := c.admin }.flaws

theorem flaws_insert (hvalid : valid.flaws = [])
    {front back : List BackendConfig} {b : BackendConfig}
    (hbackends : valid.backends = front ++ back)
    (hname : b.effectiveName ∉ valid.backends.map BackendConfig.effectiveName) :
    { valid with backends := front ++ b :: back }.flaws = b.flaws := by
  obtain ⟨hlistener, -, hall, hhealth, htimeouts, hlimits, hobservability,
      hadmin⟩ := flaws_eq_nil_iff.1 hvalid
  rw [hbackends] at hall hname
  simp [flaws, hlistener, hhealth, htimeouts, hlimits, hobservability,
    hadmin, whenever, BackendConfig.flawsOfAll_insert hall hname List.not_mem_nil]

theorem flaws_alone (hvalid : valid.flaws = []) (b : BackendConfig) :
    { valid with backends := [b] }.flaws = b.flaws := by
  obtain ⟨hlistener, -, -, hhealth, htimeouts, hlimits, hobservability, hadmin⟩ :=
    flaws_eq_nil_iff.1 hvalid
  simp [flaws, BackendConfig.flawsOfAll, whenever, hlistener, hhealth,
    htimeouts, hlimits, hobservability, hadmin]

/-- **Each part adds what is wrong with it by itself**, so together they add
what is wrong with all. -/
theorem addedTo_eq_flaws (hvalid : valid.flaws = []) (c : Config) :
    valid.addedTo c = c.flaws := by
  obtain ⟨hlistener, hsome, hall, hhealth, htimeouts, hlimits, hobservability,
      hadmin⟩ := flaws_eq_nil_iff.1 hvalid
  have hnone : (if c.backends = [] then { valid with backends := [] }.flaws else []) =
      whenever c.backends.isEmpty .noBackends := by
    cases c.backends <;> simp [flaws, BackendConfig.flawsOfAll, whenever,
      hlistener, hhealth, htimeouts, hlimits, hobservability, hadmin]
  have hnames := BackendConfig.flawsOfAll_eq [] c.backends
  simp only [List.not_mem_nil, false_or] at hnames
  simp only [addedTo, hnone, flaws_alone hvalid]
  rw [← hnames]
  simp [flaws, whenever, hlistener, hsome, hall, hhealth, htimeouts, hlimits,
    hobservability, hadmin]

/-- Names that come again are reported of backends only. -/
theorem countP_flaws (c : Config) :
    c.flaws.countP isDuplicate =
      (BackendConfig.flawsOfAll [] c.backends).countP isDuplicate := by
  have hhealth : c.healthCheck.flaws.countP isDuplicate = 0 := by
    rw [HealthCheckConfig.flaws]
    cases c.healthCheck.path <;> simp [countP_whenever, isDuplicate]
  have hadmin : c.admin.flaws.countP isDuplicate = 0 := by
    rw [AdminConfig.flaws]
    split <;> simp [countP_whenever, isDuplicate]
  simp [flaws, hhealth, hadmin, countP_whenever, isDuplicate,
    ListenerConfig.flaws, TimeoutConfig.flaws, LimitConfig.flaws,
    ObservabilityConfig.flaws]

/-- **What validation reports.** Beside any valid configuration, the report on
another is what each of its parts adds to that one, in order; a configuration
with nothing to report is taken as it is. The report is on everything that is
wrong with it, and on nothing else; so many names come again in it as there are
more backends than names; and what a backend adds is the same wherever it stands
among valid ones of other names. -/
theorem validate_reports (hvalid : valid.validate = .ok valid) (c : Config) :
    (c.validate = if valid.addedTo c = [] then .ok c
      else .error (.invalid (valid.addedTo c))) ∧
      (∀ flaw, flaw ∈ valid.addedTo c ↔ c.HasFlaw flaw) ∧
      (valid.addedTo c).countP isDuplicate +
        (c.backends.map BackendConfig.effectiveName).toFinset.card =
          c.backends.length ∧
      ∀ (b : BackendConfig) (front back : List BackendConfig),
        valid.backends = front ++ back →
        b.effectiveName ∉ valid.backends.map BackendConfig.effectiveName →
          { valid with backends := front ++ b :: back }.flaws =
            { valid with backends := [b] }.flaws := by
  obtain ⟨hflaws, -⟩ := validate_eq_ok_iff.1 hvalid
  rw [addedTo_eq_flaws hflaws]
  refine ⟨rfl, fun flaw => mem_flaws_iff, ?_, fun b front back hbackends hname => ?_⟩
  · rw [countP_flaws, ← BackendConfig.countP_flawsOfAll [] c.backends,
      List.toFinset_nil, Finset.sdiff_empty]
  · rw [flaws_insert hflaws hbackends hname, flaws_alone hflaws]

/-- Three backends of one name, the second without an address, a weight and
room, in a configuration whose listener, probes and operators are not set up
right either. -/
theorem validate_reports_several :
    let valid : Config := { backends := [{ address := "127.0.0.1:3000" }] }
    let c : Config :=
      { listener := { bindAddress := "nowhere", maxConnections := 0 }
        backends := [⟨some "a", "127.0.0.1:3000", 1, none⟩,
          ⟨some "a", "localhost", 0, some 0⟩, ⟨none, "a", 1, none⟩]
        healthCheck := { path := some "health" }
        admin := { enabled := true, apiKey := " " } }
    valid.validate = .ok valid ∧
      c.validate = .error (.invalid
        [.invalidAddress "listener.bind_address" "nowhere",
          .notPositive "listener.max_connections",
          .invalidAddress "backends[a].address" "localhost", .zeroWeight "a",
          .zeroCapacity "a", .duplicateName "a",
          .invalidAddress "backends[a].address" "a", .duplicateName "a",
          .invalidPath "health", .emptyApiKey]) ∧
      (valid.addedTo c).countP isDuplicate + 1 = 3 ∧
      ∀ flaw, flaw ∈ valid.addedTo c ↔ c.HasFlaw flaw := by
  intro valid c
  have hvalid : valid.validate = .ok valid := by decide
  obtain ⟨hreport, hflaws, hcount, -⟩ := validate_reports hvalid c
  exact ⟨hvalid, hreport.trans (by decide), hcount, hflaws⟩

end Config

end Gateway
