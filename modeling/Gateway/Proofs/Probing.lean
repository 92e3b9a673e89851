import Gateway.Probe.Monitor
import Gateway.Proofs.Hysteresis
import Gateway.Proofs.Locality

/-!
# One probe of a backend at a time

A probe passes three points: it starts, its result is recorded, and its backend
is free for the next one. Between any two of them other probes can pass theirs,
rounds can begin and be interrupted, and requests go on.

* `Watch` is a monitor with all probes that it has started and all that was
  performed on its fleet, and `Watch.Event` is what can happen to it next;
* `Watch.run_visits` and `Monitor.finish_eq`: a round visits every backend in a
  row, and a probe that ends is recorded and frees its backend;
* `Watch.Orderly` says what the flags tell of the probes, and every event keeps
  it (`Watch.orderly_step`);
* `Watch.run_probed_once`: at most one probe of each backend is under way, and
  each is recorded once.
-/

namespace Gateway

/-! ## Probes -/

/-- How far a probe is. -/
inductive Probe.Progress where
  /-- It has no result yet. -/
  | running
  /-- Its result is recorded, and its backend not yet free. -/
  | recorded (result : Option FailureKind)
  /-- It is over. -/
  | finished (result : Option FailureKind)
  deriving DecidableEq, Repr

/-- A probe that was started. -/
structure Probe.Task where
  /-- Its backend. -/
  backend : Nat
  /-- How far it is. -/
  progress : Probe.Progress := .running
  deriving DecidableEq, Repr

namespace Probe.Task

/-- Whether it is over. -/
def isFinished (task : Task) : Bool :=
  match task.progress with
  | .running | .recorded _ => false
  | .finished _ => true

/-- What has to be performed for it on the fleet, as soon as it has a result. -/
def report? (task : Task) : Option Operation :=
  match task.progress with
  | .running => none
  | .recorded result | .finished result => some (.probe task.backend result)

theorem report?_of_isFinished {task : Task} (h : task.isFinished = true) :
    task.report?.isSome = true := by
  obtain ⟨backend, _ | _ | result⟩ := task
  · cases h
  · cases h
  · rfl

end Probe.Task

open Probe (Task)

namespace Monitor

/-- A probe of a backend is under way. -/
def claim (id : Nat) (m : Monitor) : Monitor :=
  { m with inFlight := m.inFlight.set id true }

/-- The fleet with a probe counted that ended so. -/
def counted (id : Nat) (result : Option FailureKind) (m : Monitor) : Fleet :=
  { m.fleet with
    metrics := m.fleet.metrics.add
      (Metrics.probes (m.fleet.nameOf id) (Probe.resultLabel result)) 1 }

/-- Records the result of a probe of a backend. -/
def record (id : Nat) (result : Option FailureKind) (m : Monitor) : Monitor :=
  match (m.counted id result).recordProbe id result with
  | .ok (_, fleet) => { m with fleet := fleet }
  | .error _ => m

/-- No probe of a backend is under way. -/
def release (id : Nat) (m : Monitor) : Monitor :=
  { m with inFlight := m.inFlight.set id false }

/-- **A probe that ends is recorded and frees its backend.** -/
theorem finish_eq (id : Nat) (result : Option FailureKind) (m : Monitor) :
    m.finish id result = (m.record id result).release id := by
  rw [finish.eq_def, record]
  change (match (m.counted id result).recordProbe id result with
    | .ok (_, fleet) => _
    | .error _ => _) = _
  cases (m.counted id result).recordProbe id result <;> rfl

theorem pool_record (rules : Selection) (id : Nat) (result : Option FailureKind)
    (m : Monitor) (slots : List (Option Nat)) :
    (m.record id result).fleet.pool = (Ledger.perform rules (.probe id result)
      ⟨m.fleet, slots⟩).2.fleet.pool := by
  obtain ⟨hpool, -⟩ := Ledger.perform_congr rules (.probe id result)
    (show (⟨m.counted id result, slots⟩ : Ledger).fleet.pool =
      (⟨m.fleet, slots⟩ : Ledger).fleet.pool from rfl) rfl
  rw [← hpool, record, Ledger.perform]
  cases (m.counted id result).recordProbe id result <;> rfl

theorem inFlight_record (id : Nat) (result : Option FailureKind) (m : Monitor) :
    (m.record id result).inFlight = m.inFlight := by
  rw [record]
  split <;> rfl

end Monitor

/-! ## Monitors at work -/

/-- A monitor at work, with what it has done. -/
structure Watch where
  /-- The monitor. -/
  monitor : Monitor
  /-- The backend of every connection, as long as it is open. -/
  slots : List (Option Nat) := []
  /-- The probes that were started, in this order. -/
  tasks : List Task := []
  /-- What was performed on the fleet, in this order, with the number of the
  probe that it was performed for. -/
  history : List (Option Nat × Operation) := []
  deriving DecidableEq, Repr

namespace Watch

/-- What can happen next. -/
inductive Event where
  /-- A round comes to a backend, and starts a probe of it if none is under
  way. -/
  | visit (id : Nat)
  /-- A probe has a result, which is recorded. -/
  | record (task : Nat) (result : Option FailureKind)
  /-- A probe whose result is recorded frees its backend. -/
  | release (task : Nat)
  /-- Something else is performed on the fleet. -/
  | other (op : Operation)
  deriving DecidableEq, Repr

/-- A monitor that has started nothing. -/
def ofFleet (fleet : Fleet) : Watch :=
  { monitor := .ofFleet fleet }

/-- What an event leaves. A probe passes its points in their order, so an event
that is not its next is none. -/
def step (rules : Selection) (w : Watch) : Event → Watch
  | .visit id =>
    if w.monitor.inFlight[id]? = some false then
      { w with monitor := w.monitor.claim id, tasks := w.tasks ++ [⟨id, .running⟩] }
    else w
  | .record n result =>
    match w.tasks[n]? with
    | some ⟨id, .running⟩ =>
      { w with
        monitor := w.monitor.record id result
        tasks := w.tasks.set n ⟨id, .recorded result⟩
        history := w.history ++ [(some n, .probe id result)] }
    | _ => w
  | .release n =>
    match w.tasks[n]? with
    | some ⟨id, .recorded result⟩ =>
      { w with monitor := w.monitor.release id,
               tasks := w.tasks.set n ⟨id, .finished result⟩ }
    | _ => w
  | .other op =>
    let l := (Ledger.perform rules op ⟨w.monitor.fleet, w.slots⟩).2
    { w with
      monitor := { w.monitor with fleet := l.fleet }
      slots := l.slots, history := w.history ++ [(none, op)] }

/-- What a list of events leaves. -/
def run (rules : Selection) : List Event → Watch → Watch
  | [], w => w
  | e :: events, w => run rules events (w.step rules e)

/-- How many probes of a backend are under way. -/
def underWay (id : Nat) (w : Watch) : Nat :=
  w.tasks.countP fun task => task.backend == id && !task.isFinished

/-- How many results of probes of a backend were recorded. -/
def recorded (id : Nat) (w : Watch) : Nat :=
  w.tasks.countP fun task => task.backend == id && task.report?.isSome

/-- A round as a whole visits the backends in their order. -/
def visits (w : Watch) : List Event :=
  (List.range w.monitor.inFlight.length).map .visit

/-- What was performed on the fleet, as one history. -/
def operations (w : Watch) : List Operation :=
  w.history.map Prod.snd

variable {rules : Selection} {w : Watch} {id n : Nat} {task : Task}
  {events : List Event}

/-! ## Steps -/

/-- What an event can be where it happens. -/
inductive Stepped (rules : Selection) (w : Watch) : Event → Watch → Prop where
  /-- A probe starts. -/
  | started {id : Nat} : w.monitor.inFlight[id]? = some false →
      Stepped rules w (.visit id) { w with
      monitor := w.monitor.claim id, tasks := w.tasks ++ [⟨id, .running⟩] }
  /-- A result is recorded. -/
  | recorded {n id : Nat} {result : Option FailureKind} : w.tasks[n]? =
      some ⟨id, .running⟩ →
      Stepped rules w (.record n result)
        { w with
          monitor := w.monitor.record id result
          tasks := w.tasks.set n ⟨id, .recorded result⟩
          history := w.history ++ [(some n, .probe id result)] }
  /-- A backend is free. -/
  | released {n id : Nat} {result : Option FailureKind} : w.tasks[n]? =
      some ⟨id, .recorded result⟩ →
      Stepped rules w (.release n)
        { w with monitor := w.monitor.release id,
                 tasks := w.tasks.set n ⟨id, .finished result⟩ }
  /-- Something else is performed. -/
  | performed (op : Operation) :
      Stepped rules w (.other op)
        { w with
          monitor := { w.monitor with
            fleet := (Ledger.perform rules op ⟨w.monitor.fleet, w.slots⟩).2.fleet }
          slots := (Ledger.perform rules op ⟨w.monitor.fleet, w.slots⟩).2.slots
          history := w.history ++ [(none, op)] }
  /-- Nothing happens. -/
  | idle (e : Event) : Stepped rules w e w

/-- **An event is one of these.** -/
theorem stepped_step (rules : Selection) (w : Watch) (e : Event) :
    Stepped rules w e (w.step rules e) := by
  cases e with
  | visit id =>
    rw [step]
    split
    · rename_i hfree
      exact .started hfree
    · exact .idle _
  | record n result =>
    rw [step]
    split
    · rename_i htask
      exact .recorded htask
    · exact .idle _
  | release n =>
    rw [step]
    split
    · rename_i htask
      exact .released htask
    · exact .idle _
  | other op => exact .performed op

/-- There are as many flags as before. -/
theorem length_step (rules : Selection) (w : Watch) (e : Event) :
    (w.step rules e).monitor.inFlight.length = w.monitor.inFlight.length := by
  have hstepped := stepped_step rules w e
  generalize w.step rules e = t at hstepped
  cases hstepped with
  | started => exact List.length_set ..
  | recorded => exact congrArg List.length (Monitor.inFlight_record _ _ _)
  | released => exact List.length_set ..
  | performed => rfl
  | idle => rfl

/-- What every event keeps, a list of events keeps. -/
theorem run_preserves {P : Watch → Prop}
    (hstep : ∀ e ∈ events, ∀ w, P w → P (w.step rules e)) (h : P w) :
    P (run rules events w) := by
  induction events generalizing w with
  | nil => exact h
  | cons e events ih =>
    exact ih (fun e' he' => hstep e' (List.mem_cons_of_mem _ he'))
      (hstep e List.mem_cons_self w h)

/-! ## Rounds and ends -/

/-- **A round visits every backend in a row**: it starts a probe of each of
which none is under way. -/
theorem run_visits (rules : Selection) (w : Watch) :
    run rules w.visits w =
      { w with
        monitor := w.monitor.checkAll.2
        tasks := w.tasks ++ w.monitor.checkAll.1.map fun id => ⟨id, .running⟩ } := by
  -- the flags in front of the backend that is visited next are set, and those
  -- behind it are as they were
  have key : ∀ (flags front : List Bool) (w : Watch), w.monitor.inFlight =
      front ++ flags →
      run rules ((List.range' front.length flags.length).map .visit) w =
        { w with
          monitor := { w.monitor with inFlight := front ++ flags.map fun _ => true }
          tasks := w.tasks ++ ((flags.zipIdx front.length).filter fun flag => !flag.1).map
            fun flag => ⟨flag.2, .running⟩ } := by
    intro flags
    induction flags with
    | nil =>
      rintro front ⟨⟨fleet, inFlight⟩, slots, tasks, history⟩ rfl
      simp [run]
    | cons busy flags ih =>
      intro front w hflags
      have hnext : w.monitor.inFlight[front.length]? = some busy := by simp [hflags]
      rw [List.length_cons, List.range'_succ, List.map_cons, run, step, hnext]
      cases busy with
      | true =>
        rw [if_neg (show some true ≠ some false by decide)]
        have := ih (front ++ [true]) w (by simp [hflags])
        simpa using this
      | false =>
        rw [if_pos rfl]
        have := ih (front ++ [true]) { w with
          monitor := w.monitor.claim front.length
          tasks := w.tasks ++ [⟨front.length, .running⟩] }
          (by simp [Monitor.claim, hflags])
        simpa [Monitor.claim] using this
  have := key w.monitor.inFlight [] w rfl
  rw [visits, List.range_eq_range']
  simpa [Monitor.checkAll, Monitor.idle, Function.comp_def] using this

/-- **A probe that ends while nothing else happens** ends as a whole. -/
theorem run_finish (rules : Selection) (result : Option FailureKind)
    (h : w.tasks[n]? = some ⟨id, .running⟩) :
    (run rules [.record n result, .release n] w).monitor =
      w.monitor.finish id result := by
  have hlt := (List.getElem?_eq_some_iff.1 h).1
  rw [run, run, run, step, h]
  dsimp only
  rw [step, List.getElem?_set_self hlt, Monitor.finish_eq]

/-! ## What the flags tell -/

/-- A probe of a backend starts only when all before it are over. -/
def Follows (earlier later : Task) : Prop :=
  earlier.backend = later.backend → earlier.isFinished = true

/-- What the flags of a monitor tell of its probes, and its history of their
results. -/
structure Orderly (w : Watch) : Prop where
  /-- One probe of a backend is under way if its flag is set, and none
  otherwise. -/
  flags : ∀ id, w.underWay id = (w.monitor.inFlight[id]?.getD false).toNat
  /-- No probe starts too early. -/
  order : w.tasks.Pairwise Follows
  /-- The result of a probe is recorded once, as soon as there is one, and
  nothing else is recorded for it. -/
  once : ∀ n, w.history.filter (fun entry => entry.1 == some n) =
    ((w.tasks[n]?.bind Task.report?).map (some n, ·)).toList

/-- A probe that passes a point stays in its place. -/
theorem pairwise_set {tasks : List Task} {next : Task}
    (h : tasks[n]? = some task) (horder : tasks.Pairwise Follows)
    (hbackend : next.backend = task.backend)
    (hfinished : task.isFinished = true → next.isFinished = true) :
    (tasks.set n next).Pairwise Follows := by
  obtain ⟨hlt, rfl⟩ := List.getElem?_eq_some_iff.1 h
  rw [List.pairwise_iff_getElem] at horder ⊢
  intro i j hi hj hij
  rw [List.length_set] at hi hj
  have hbefore := horder i j hi hj hij
  rw [List.getElem_set, List.getElem_set]
  split
  · rename_i hn
    subst hn
    rw [if_neg (Nat.ne_of_lt hij)]
    exact fun hsame => hfinished (hbefore (hbackend ▸ hsame))
  · split
    · rename_i hn
      subst hn
      exact fun hsame => hbefore (hsame.trans hbackend)
    · exact hbefore

/-- A probe counts where it stands now, and no more where it stood. -/
theorem countP_set_add {tasks : List Task} (p : Task → Bool)
    (h : tasks[n]? = some task) (next : Task) :
    (tasks.set n next).countP p + (if p task then 1 else 0) =
      tasks.countP p + if p next then 1 else 0 := by
  obtain ⟨hlt, rfl⟩ := List.getElem?_eq_some_iff.1 h
  have hpos : p tasks[n] = true → 0 < tasks.countP p :=
    fun hp => List.countP_pos_iff.2 ⟨_, List.getElem_mem hlt, hp⟩
  rw [List.countP_set hlt]
  split
  · rename_i hp
    have := hpos hp
    omega
  · omega

theorem filter_concat_ne {history : List (Option Nat × Operation)}
    {other : Option Nat} {op : Operation} (h : other ≠ some n) :
    (history ++ [(other, op)]).filter (fun entry => entry.1 == some n) =
      history.filter fun entry => entry.1 == some n := by
  rw [List.filter_append, List.filter_singleton, beq_false_of_ne h]
  exact List.append_nil _

/-- The flag of a backend is set while a probe of it is under way. -/
theorem Orderly.busy {result : Option FailureKind} (h : w.Orderly)
    (htask : w.tasks[n]? = some ⟨id, .recorded result⟩) :
    w.monitor.inFlight[id]? = some true := by
  have hunderWay : 0 < w.underWay id :=
    List.countP_pos_iff.2 ⟨_, List.mem_of_getElem? htask, by simp [Task.isFinished]⟩
  rw [h.flags] at hunderWay
  cases hflag : w.monitor.inFlight[id]? with
  | none =>
    rw [hflag] at hunderWay
    cases hunderWay
  | some flag =>
    cases flag with
    | false =>
      rw [hflag] at hunderWay
      cases hunderWay
    | true => rfl

theorem flags_step (rules : Selection) (e : Event) (h : w.Orderly) (other : Nat) :
    (w.step rules e).underWay other =
      ((w.step rules e).monitor.inFlight[other]?.getD false).toNat := by
  have hstepped := stepped_step rules w e
  generalize w.step rules e = t at hstepped
  have hother := h.flags other
  rw [underWay] at hother
  cases hstepped with
  | @started id hfree =>
    change List.countP _ (w.tasks ++ [_]) =
      ((w.monitor.inFlight.set id true)[other]?.getD false).toNat
    rw [List.countP_append, hother]
    by_cases hsame : id = other
    · subst hsame
      have hlt := (List.getElem?_eq_some_iff.1 hfree).1
      rw [List.getElem?_set_self hlt, hfree]
      simp [Task.isFinished]
    · rw [List.getElem?_set_ne hsame]
      simp [hsame]
  | @recorded n id result htask =>
    have hcount := countP_set_add
      (fun task => task.backend == other && !task.isFinished) htask
        ⟨id, .recorded result⟩
    change _ = ((w.monitor.record id result).inFlight[other]?.getD false).toNat
    rw [Monitor.inFlight_record, ← hother]
    exact Nat.add_right_cancel hcount
  | @released n id result htask =>
    have hbusy := h.busy htask
    have hcount := countP_set_add
      (fun task => task.backend == other && !task.isFinished) htask
        ⟨id, .finished result⟩
    change List.countP _ (w.tasks.set n _) =
      ((w.monitor.inFlight.set id false)[other]?.getD false).toNat
    by_cases hsame : id = other
    · subst hsame
      rw [List.getElem?_set_self (List.getElem?_eq_some_iff.1 hbusy).1]
      rw [hother, hbusy, if_pos (by simp [Task.isFinished]),
        if_neg (by simp [Task.isFinished])] at hcount
      exact Nat.succ_inj.1 hcount
    · rw [List.getElem?_set_ne hsame, ← hother]
      simpa [hsame] using hcount
  | performed => exact hother
  | idle => exact hother

theorem order_step (rules : Selection) (e : Event) (h : w.Orderly) :
    (w.step rules e).tasks.Pairwise Follows := by
  have hstepped := stepped_step rules w e
  generalize w.step rules e = t at hstepped
  cases hstepped with
  | @started id hfree =>
    -- its flag is not set, so all probes of it are over
    have hnone := h.flags id
    rw [hfree, underWay] at hnone
    refine List.pairwise_append.2 ⟨h.order, List.pairwise_singleton _ _, ?_⟩
    intro earlier hearlier later hlater hsame
    rw [List.mem_singleton.1 hlater] at hsame
    simpa [hsame] using List.countP_eq_zero.1 hnone earlier hearlier
  | recorded htask => exact pairwise_set htask h.order rfl nofun
  | released htask => exact pairwise_set htask h.order rfl nofun
  | performed => exact h.order
  | idle => exact h.order

theorem once_step (rules : Selection) (e : Event) (h : w.Orderly) (k : Nat) :
    (w.step rules e).history.filter (fun entry => entry.1 == some k) =
      (((w.step rules e).tasks[k]?.bind Task.report?).map (some k, ·)).toList := by
  have hstepped := stepped_step rules w e
  generalize w.step rules e = t at hstepped
  have honce := h.once k
  cases hstepped with
  | started =>
    change _ = (((w.tasks ++ [_])[k]?.bind _).map _).toList
    rw [honce, List.getElem?_append]
    split
    · rfl
    · rename_i hge
      rw [List.getElem?_eq_none (Nat.le_of_not_lt hge)]
      rcases k - w.tasks.length with _ | n <;> rfl
  | @recorded n id result htask =>
    change (w.history ++ [_]).filter _ = (((w.tasks.set n _)[k]?.bind _).map _).toList
    by_cases hsame : n = k
    · subst hsame
      rw [htask] at honce
      rw [List.filter_append, honce,
        List.getElem?_set_self (List.getElem?_eq_some_iff.1 htask).1]
      simp [Task.report?]
    · rw [filter_concat_ne (fun he => hsame (Option.some.inj he)), honce,
        List.getElem?_set_ne hsame]
  | @released n id result htask =>
    change _ = (((w.tasks.set n _)[k]?.bind _).map _).toList
    by_cases hsame : n = k
    · subst hsame
      rw [honce, htask, List.getElem?_set_self (List.getElem?_eq_some_iff.1 htask).1]
      rfl
    · rw [honce, List.getElem?_set_ne hsame]
  | performed => exact (filter_concat_ne (Option.some_ne_none k).symm).trans honce
  | idle => exact honce

/-- **Every event keeps the flags in order.** -/
theorem orderly_step (rules : Selection) (e : Event) (h : w.Orderly) :
    (w.step rules e).Orderly where
  flags := flags_step rules e h
  order := order_step rules e h
  once := once_step rules e h

/-- **Any events keep the flags in order.** -/
theorem orderly_run (rules : Selection) (events : List Event) (h : w.Orderly) :
    (run rules events w).Orderly :=
  run_preserves (fun e _ _ => orderly_step rules e) h

theorem orderly_ofFleet (fleet : Fleet) : (ofFleet fleet).Orderly := by
  refine ⟨fun id => ?_, List.Pairwise.nil, fun _ => rfl⟩
  change 0 = ((List.replicate fleet.pool.size false)[id]?.getD false).toNat
  rw [List.getElem?_replicate]
  split <;> rfl

namespace Orderly

/-- No backend has two probes under way. -/
theorem underWay_le_one (h : w.Orderly) (id : Nat) : w.underWay id ≤ 1 := by
  rw [h.flags]
  exact Bool.toNat_le _

theorem flag_iff (h : w.Orderly) (id : Nat) :
    w.monitor.inFlight[id]? = some true ↔ w.underWay id = 1 := by
  rw [h.flags]
  rcases w.monitor.inFlight[id]? with _ | _ | _ <;> simp

/-- A round starts probes of the backends that have none under way. -/
theorem mem_checkAll_iff (h : w.Orderly) (id : Nat) :
    id ∈ w.monitor.checkAll.1 ↔
      id < w.monitor.inFlight.length ∧ w.underWay id = 0 := by
  rw [h.flags, Monitor.checkAll, Monitor.idle, List.mem_map]
  constructor
  · rintro ⟨⟨busy, id⟩, hmem, rfl⟩
    obtain ⟨hmem, hidle⟩ := List.mem_filter.1 hmem
    obtain ⟨hlt, rfl⟩ :=
      List.getElem?_eq_some_iff.1 (List.mk_mem_zipIdx_iff_getElem?.1 hmem)
    exact ⟨hlt, by simpa [hlt] using hidle⟩
  · rintro ⟨hlt, hflag⟩
    refine ⟨(w.monitor.inFlight[id], id), List.mem_filter.2 ⟨?_, ?_⟩, rfl⟩
    · exact List.mk_mem_zipIdx_iff_getElem?.2 (List.getElem?_eq_getElem hlt)
    · simpa [hlt] using hflag

end Orderly

theorem nodup_checkAll (m : Monitor) : m.checkAll.1.Nodup := by
  rw [Monitor.checkAll, Monitor.idle]
  refine (List.filter_sublist.map _).nodup ?_
  rw [List.zipIdx_map_snd]
  exact List.nodup_range'

/-! ## What the history tells -/

theorem run_concat (rules : Selection) (ops : List Operation) (op : Operation)
    (l : Ledger) :
    (Ledger.run rules (ops ++ [op]) l).2 =
      ((Ledger.run rules ops l).2.perform rules op).2 := by
  induction ops generalizing l with
  | nil => rfl
  | cons next ops ih => exact ih (l.perform rules next).2

/-- The pool and the slots are what the history makes of those of a fleet. -/
def Replays (rules : Selection) (fleet : Fleet) (w : Watch) : Prop :=
  w.monitor.fleet.pool =
    (Ledger.run rules w.operations { fleet := fleet }).2.fleet.pool ∧
    w.slots = (Ledger.run rules w.operations { fleet := fleet }).2.slots

/-- **Every event that changes the pool is in the history**, as what it was. -/
theorem replays_step {fleet : Fleet} (e : Event) (h : w.Replays rules fleet) :
    (w.step rules e).Replays rules fleet := by
  obtain ⟨hpool, hslots⟩ := h
  have hperform : ∀ op,
      (Ledger.perform rules op ⟨w.monitor.fleet, w.slots⟩).2.fleet.pool =
          (Ledger.run rules (w.operations ++ [op]) { fleet := fleet }).2.fleet.pool ∧
        (Ledger.perform rules op ⟨w.monitor.fleet, w.slots⟩).2.slots =
          (Ledger.run rules (w.operations ++ [op]) { fleet := fleet }).2.slots := by
    intro op
    rw [run_concat]
    exact Ledger.perform_congr rules op hpool hslots
  have hstepped := stepped_step rules w e
  generalize w.step rules e = t at hstepped
  cases hstepped with
  | started => exact ⟨hpool, hslots⟩
  | @recorded n id result =>
    obtain ⟨hpool, hslots⟩ := hperform (.probe id result)
    rw [Replays, operations, List.map_append]
    refine ⟨(Monitor.pool_record rules id result w.monitor w.slots).trans hpool,
      Eq.trans ?_ hslots⟩
    rw [Ledger.perform]
    cases w.monitor.fleet.recordProbe id result <;> rfl
  | released => exact ⟨hpool, hslots⟩
  | performed op =>
    rw [Replays, operations, List.map_append]
    exact hperform op
  | idle => exact ⟨hpool, hslots⟩

end Watch

/-- How many signals a backend has taken. -/
def Health.signals (h : Health) : Nat :=
  h.successes + h.failures

/-- Every signal counts once. -/
theorem Health.signals_take (t : Thresholds) (s : Signal) (h : Health) :
    (h.take t s).2.signals = h.signals + 1 := by
  cases s with
  | success =>
    obtain ⟨hsuccesses, hfailures, -⟩ := accounted_account t .success h
    change (h.account t .success).successes + (h.account t .success).failures =
      h.successes + h.failures + 1
    omega
  | failure kind =>
    obtain ⟨hfailures, hsuccesses, -⟩ := accounted_account t (.failed kind) h
    change (h.account t (.failed kind)).successes +
      (h.account t (.failed kind)).failures = h.successes + h.failures + 1
    omega

namespace Watch

variable {rules : Selection} {w : Watch} {fleet : Fleet} {events : List Event}

/-- The backends of a fleet have taken the results of their probes, and nothing
else. -/
def Tallies (fleet : Fleet) (w : Watch) : Prop :=
  ∀ (id : Nat) (m : Member), fleet.pool.members[id]? = some m →
    ∃ n, w.monitor.fleet.pool.members[id]? = some n ∧
    n.health.signals = m.health.signals + w.recorded id

/-- **A probe counts for its backend when its result is recorded.** -/
theorem tallies_step (e : Event) (he : ∀ op, e ≠ .other op)
    (h : w.Tallies fleet) : (w.step rules e).Tallies fleet := by
  have hstepped := stepped_step rules w e
  generalize w.step rules e = t at hstepped
  cases hstepped with
  | @started id =>
    intro other m hm
    obtain ⟨n, hn, hsignals⟩ := h other m hm
    refine ⟨n, hn, hsignals.trans (congrArg _ ?_)⟩
    change _ = List.countP _ (w.tasks ++ [_])
    rw [List.countP_append]
    simp [recorded, Task.report?]
  | @recorded n id result htask =>
    intro other m hm
    obtain ⟨k, hk, hsignals⟩ := h other m hm
    have hcount := countP_set_add
      (fun task => task.backend == other && task.report?.isSome) htask
        ⟨id, .recorded result⟩
    rw [if_neg (by simp [Task.report?])] at hcount
    obtain ⟨next, hnext, hhealth⟩ :=
      (Ledger.performed_perform rules (.probe id result)
        ⟨w.monitor.fleet, w.slots⟩).health_cases hk
    rw [← Monitor.pool_record] at hnext
    refine ⟨next, hnext, ?_⟩
    change _ = _ + List.countP _ (w.tasks.set n _)
    rcases hhealth with ⟨s, probed, hs, hhealth⟩ | ⟨hs, hhealth⟩
    · obtain rfl : id = other := by
        cases result <;> cases hs <;> rfl
      rw [if_pos (by simp [Task.report?])] at hcount
      rw [hhealth, Health.signals_take]
      change k.health.signals + 1 = _
      rw [hsignals, recorded, Nat.add_assoc]
      exact congrArg _ hcount.symm
    · have hne : id ≠ other := by
        rintro rfl
        cases result <;> exact hs _ rfl
      rw [if_neg (by simp [hne])] at hcount
      rw [hhealth, hsignals]
      exact congrArg _ hcount.symm
  | @released n id result htask =>
    intro other m hm
    obtain ⟨k, hk, hsignals⟩ := h other m hm
    have hcount := countP_set_add
      (fun task => task.backend == other && task.report?.isSome) htask
        ⟨id, .finished result⟩
    exact ⟨k, hk, hsignals.trans (congrArg _ (Nat.add_right_cancel hcount).symm)⟩
  | performed op => exact absurd rfl (he op)
  | idle => exact h

/-! ## Any interleaving -/

/-- **One probe of a backend at a time.** Whatever backends there are, in
whatever order rounds come to them, probes end and other things happen, and
however the probes end: at most one probe of each backend is under way, and its
flag is set exactly while one is; a round starts probes of exactly the backends
that have none under way, and a probe that ends does what it does alone. No
probe of a backend starts before the last one is over, and each is recorded
once, for its backend: what the health of the backends amounts to is what the
history of these records makes of it. So when all probes are over, no flag is
set, and if nothing else was performed, each backend has taken as many signals
as probes of it were started. -/
theorem run_probed_once (rules : Selection) (fleet : Fleet)
    (events : List Event) :
    let w := run rules events (ofFleet fleet)
    (∀ id, w.underWay id ≤ 1 ∧
      (w.monitor.inFlight[id]? = some true ↔ w.underWay id = 1)) ∧
      w.monitor.checkAll.1.Nodup ∧
      (∀ id, id ∈ w.monitor.checkAll.1 ↔ id < fleet.pool.size ∧ w.underWay id = 0) ∧
      run rules w.visits w =
        { w with
          monitor := w.monitor.checkAll.2
          tasks := w.tasks ++ w.monitor.checkAll.1.map fun id => ⟨id, .running⟩ } ∧
      (∀ n id result, w.tasks[n]? = some ⟨id, .running⟩ →
        (run rules [.record n result, .release n] w).monitor =
          w.monitor.finish id result) ∧
      (w.tasks.Pairwise fun earlier later => earlier.backend = later.backend →
        earlier.isFinished = true) ∧
      (∀ n, w.history.filter (fun entry => entry.1 == some n) =
        ((w.tasks[n]?.bind Task.report?).map (some n, ·)).toList) ∧
      w.monitor.fleet.pool = (Ledger.run rules (w.history.map Prod.snd)
        { fleet := fleet }).2.fleet.pool ∧
      ((∀ task ∈ w.tasks, task.isFinished = true) →
        (∀ id : Nat, w.monitor.inFlight[id]? ≠ some true) ∧
        ((∀ op, .other op ∉ events) →
          ∀ (id : Nat) (m : Member), fleet.pool.members[id]? = some m →
          ∃ n, w.monitor.fleet.pool.members[id]? = some n ∧
            n.health.successes + n.health.failures =
              m.health.successes + m.health.failures +
                w.tasks.countP fun task => task.backend == id)) := by
  intro w
  have horderly : w.Orderly := orderly_run rules events (orderly_ofFleet fleet)
  have hreplays : w.Replays rules fleet :=
    run_preserves (fun e _ _ => replays_step e)
      (show (ofFleet fleet).Replays rules fleet from ⟨rfl, rfl⟩)
  have hsize : w.monitor.inFlight.length = fleet.pool.size :=
    run_preserves (P := fun w => w.monitor.inFlight.length = fleet.pool.size)
      (fun e _ w hw => (length_step rules w e).trans hw) List.length_replicate
  refine ⟨fun id => ⟨horderly.underWay_le_one id, horderly.flag_iff id⟩,
    nodup_checkAll _, hsize ▸ horderly.mem_checkAll_iff, run_visits rules w,
    fun n id result => run_finish rules result, horderly.order, horderly.once,
    hreplays.1, fun hfinished => ⟨fun id hflag => ?_, fun hother id m hm => ?_⟩⟩
  · have hbusy := (horderly.flag_iff id).1 hflag
    have hnone : w.underWay id = 0 :=
      List.countP_eq_zero.2 fun task htask => by simp [hfinished task htask]
    omega
  · have htallies : w.Tallies fleet :=
      run_preserves (fun e he _ => tallies_step e fun op hop => hother op (hop ▸ he))
        (show (ofFleet fleet).Tallies fleet from fun id m hm => ⟨m, hm, rfl⟩)
    obtain ⟨n, hn, hsignals⟩ := htallies id m hm
    refine ⟨n, hn, hsignals.trans (congrArg _ (List.countP_congr fun task htask => ?_))⟩
    have hreport : task.report?.isSome = true :=
      Task.report?_of_isFinished (hfinished task htask)
    rw [hreport, Bool.and_true]

/-- Two rounds of probes of two backends, with the second round while the first
backend's probe is still under way: it gets no second probe until its first is
over, and then all three probes count. -/
theorem run_probed_once_overlapping :
    let backends : List Backend :=
      [⟨"a", ⟨.loopback, 1, 0⟩, 1, none, by decide⟩,
        ⟨"b", ⟨.loopback, 2, 0⟩, 1, none, by decide⟩]
    let fleet : Fleet := { pool := .ofBackends backends {} }
    let round : List Event := [.visit 0, .visit 1]
    let before :=
      run {} (round ++ [.record 1 none, .release 1] ++ round) (ofFleet fleet)
    let events := round ++ [.record 1 none, .release 1] ++ round ++
      [.record 2 (some .probeTimeout), .record 0 none, .release 0, .release 2]
    let w := run {} events (ofFleet fleet)
    before.tasks.map Task.backend = [0, 1, 1] ∧
      before.monitor.inFlight = [true, true] ∧
      (∀ task ∈ w.tasks, task.isFinished = true) ∧ (∀ op, .other op ∉ events) ∧
      (∀ id : Nat, w.monitor.inFlight[id]? ≠ some true) ∧
      ∃ n, w.monitor.fleet.pool.members[1]? = some n ∧
        n.health.successes + n.health.failures = 2 := by
  intro backends fleet round before events w
  have hfinished : ∀ task ∈ w.tasks, task.isFinished = true := by decide +kernel
  have hother : ∀ op, .other op ∉ events := by
    intro op
    simp [events, round]
  obtain ⟨-, -, -, -, -, -, -, -, hover⟩ := run_probed_once {} fleet events
  rw [show run {} events (ofFleet fleet) = w from rfl] at hover
  obtain ⟨hflags, htotals⟩ := hover hfinished
  refine ⟨by decide +kernel, by decide +kernel, hfinished, hother, hflags, ?_⟩
  have hstarted : (w.tasks.countP fun task => task.backend == 1) = 2 := by
    decide +kernel
  obtain ⟨n, hn, hsignals⟩ := htotals hother 1 ⟨backends[1], {}, 0⟩ rfl
  rw [hstarted] at hsignals
  exact ⟨n, hn, hsignals⟩

end Watch

end Gateway
