import Mathlib.Algebra.Group.Nat.Defs
import Mathlib.Data.List.DropRight
import Gateway.Proofs.Operations

/-!
# Hysteresis

A backend's health is two runs, which are counted up to a limit, and a flag.
They are enough to tell something about the whole history of its signals: the
backend is unhealthy exactly if enough failures once came in a row and enough
successes in a row have not come since.

* `HasRun` and `Evicted` say so of a history, without health;
* `Health.Reflects` is what health tells of a history, and one more signal keeps
  it (`Health.Reflects.take`);
* `Ledger.run_hysteresis`: so does every history of operations on a pool.
-/

namespace Gateway

/-! ## Runs -/

section Runs

variable {α : Type} {p : α → Bool} {n : Nat} {x : α}

/-- Some `n` in a row are all such. -/
def HasRun (n : Nat) (p : α → Bool) (xs : List α) : Prop :=
  ∃ run, run <:+: xs ∧ run.length = n ∧ ∀ x ∈ run, p x = true

theorem rtakeWhile_append_of_pos (xs : List α) {run : List α}
    (h : ∀ x ∈ run, p x = true) :
    (xs ++ run).rtakeWhile p = xs.rtakeWhile p ++ run := by
  rw [List.rtakeWhile, List.reverse_append,
    List.takeWhile_append_of_pos fun x hx => h x (List.mem_reverse.1 hx),
    List.reverse_append, List.reverse_reverse, List.rtakeWhile]

/-- The last `n` are all such if that many are taken from the end. -/
theorem le_length_rtakeWhile_iff {xs : List α} :
    n ≤ (xs.rtakeWhile p).length ↔
      ∃ run, run <:+ xs ∧ run.length = n ∧ ∀ x ∈ run, p x = true := by
  constructor
  · intro hn
    refine ⟨(xs.rtakeWhile p).drop ((xs.rtakeWhile p).length - n), ?_, ?_,
      fun x hx => ?_⟩
    · exact (List.drop_suffix _ _).trans (List.rtakeWhile_suffix p xs)
    · rw [List.length_drop]
      omega
    · exact List.mem_rtakeWhile_imp (List.mem_of_mem_drop hx)
  · rintro ⟨run, ⟨front, rfl⟩, rfl, hrun⟩
    rw [rtakeWhile_append_of_pos front hrun, List.length_append]
    exact Nat.le_add_left _ _

/-- A run is there already, or it is at the end now. -/
theorem hasRun_concat {xs : List α} :
    HasRun n p (xs ++ [x]) ↔
      HasRun n p xs ∨ n ≤ ((xs ++ [x]).rtakeWhile p).length := by
  rw [le_length_rtakeWhile_iff]
  constructor
  · rintro ⟨run, hinfix, hlength, hall⟩
    rcases List.infix_concat_iff.1 hinfix with hsuffix | hinfix
    · exact .inr ⟨run, hsuffix, hlength, hall⟩
    · exact .inl ⟨run, hinfix, hlength, hall⟩
  · rintro (⟨run, hinfix, hlength, hall⟩ | ⟨run, hsuffix, hlength, hall⟩)
    · exact ⟨run, List.infix_concat_iff.2 (.inr hinfix), hlength, hall⟩
    · exact ⟨run, hsuffix.isInfix, hlength, hall⟩

theorem not_hasRun_nil (hn : 0 < n) : ¬ HasRun n p [] := by
  rintro ⟨run, hinfix, rfl, -⟩
  rw [List.infix_nil.1 hinfix] at hn
  exact Nat.lt_irrefl 0 hn

end Runs

/-! ## Signals -/

namespace Signal

/-- Whether it is a failure. -/
def isFailure : Signal → Bool
  | .success => false
  | .failure _ => true

/-- Whether it is a success. -/
def isSuccess : Signal → Bool
  | .success => true
  | .failure _ => false

/-- The kind of a failure. -/
def kind? : Signal → Option FailureKind
  | .success => none
  | .failure kind => some kind

end Signal

/-- Enough failures came in a row, and after them enough successes in a row did
not. A threshold of 0 asks for one. -/
def Evicted (t : Thresholds) (past : List Signal) : Prop :=
  ∃ before failures after, past = before ++ failures ++ after ∧
    failures.length = max 1 t.unhealthy ∧ (∀ s ∈ failures, s.isFailure = true) ∧
    ¬ HasRun (max 1 t.healthy) Signal.isSuccess after

section Eviction

variable {t : Thresholds} {past : List Signal} {kind : FailureKind}

theorem not_evicted_nil : ¬ Evicted t [] := by
  rintro ⟨before, failures, after, hpast, hlength, -⟩
  obtain ⟨⟨-, rfl⟩, -⟩ : (before = [] ∧ failures = []) ∧ after = [] := by
    simpa only [List.append_eq_nil_iff] using hpast.symm
  rw [List.length_nil] at hlength
  omega

/-- **One failure more** evicts if it makes a run of enough failures. -/
theorem evicted_concat_failure :
    Evicted t (past ++ [.failure kind]) ↔
      Evicted t past ∨ max 1 t.unhealthy ≤
        ((past ++ [Signal.failure kind]).rtakeWhile Signal.isFailure).length := by
  constructor
  · rintro ⟨before, failures, after, hpast, hlength, hall, hnone⟩
    rcases List.eq_nil_or_concat after with rfl | ⟨after, s, rfl⟩
    · -- the run ends with the new failure
      rw [List.append_nil] at hpast
      exact .inr (le_length_rtakeWhile_iff.2 ⟨failures, ⟨before, hpast.symm⟩,
        hlength, hall⟩)
    · rw [List.concat_eq_append, ← List.append_assoc] at hpast
      obtain ⟨rfl, -⟩ := List.append_inj' hpast rfl
      rw [List.concat_eq_append, hasRun_concat, not_or] at hnone
      exact .inl ⟨before, failures, after, rfl, hlength, hall, hnone.1⟩
  · rintro (⟨before, failures, after, rfl, hlength, hall, hnone⟩ | hrun)
    · refine ⟨before, failures, after ++ [.failure kind],
        (List.append_assoc _ _ _), hlength, hall, ?_⟩
      rw [hasRun_concat, not_or]
      refine ⟨hnone, ?_⟩
      rw [List.rtakeWhile_concat_neg _ _ _ Bool.false_ne_true, List.length_nil]
      omega
    · obtain ⟨failures, ⟨before, hpast⟩, hlength, hall⟩ :=
        le_length_rtakeWhile_iff.1 hrun
      exact ⟨before, failures, [], by rw [List.append_nil, hpast], hlength,
        hall, not_hasRun_nil (by omega)⟩

/-- Successes at the end do not reach back over a failure. -/
theorem suffix_of_successes {front after run : List Signal}
    (hrun : run <:+ front ++ [.failure kind] ++ after)
    (hall : ∀ s ∈ run, s.isSuccess = true) : run <:+ after := by
  rcases List.suffix_or_suffix_of_suffix hrun (List.suffix_append _ after)
    with h | ⟨more, rfl⟩
  · exact h
  · obtain ⟨rest, hrest⟩ := hrun
    rw [← List.append_assoc] at hrest
    have hmore := List.append_cancel_right hrest
    rcases List.eq_nil_or_concat more with rfl | ⟨more, s, rfl⟩
    · exact List.suffix_rfl
    · -- otherwise the failure is one of the successes
      rw [List.concat_eq_append, ← List.append_assoc] at hmore
      obtain ⟨-, hs⟩ := List.append_inj' hmore rfl
      obtain rfl : s = .failure kind := List.singleton_inj.1 hs
      exact absurd (hall (.failure kind) (by simp)) Bool.false_ne_true

/-- **One success more** ends an eviction if it makes a run of enough
successes. -/
theorem evicted_concat_success :
    Evicted t (past ++ [.success]) ↔
      Evicted t past ∧ ¬ max 1 t.healthy ≤
        ((past ++ [Signal.success]).rtakeWhile Signal.isSuccess).length := by
  constructor
  · rintro ⟨before, failures, after, hpast, hlength, hall, hnone⟩
    -- the last of the failures, which the new success is not
    obtain ⟨failures, s, rfl⟩ : ∃ failures' s, failures = failures' ++ [s] := by
      rcases List.eq_nil_or_concat failures with rfl | ⟨failures', s, rfl⟩
      · rw [List.length_nil] at hlength
        omega
      · exact ⟨failures', s, List.concat_eq_append⟩
    obtain ⟨kind, rfl⟩ : ∃ kind, s = .failure kind := by
      cases s with
      | success => exact absurd (hall .success (by simp)) Bool.false_ne_true
      | failure kind => exact ⟨kind, rfl⟩
    rcases List.eq_nil_or_concat after with rfl | ⟨after, s, rfl⟩
    · rw [List.append_nil, ← List.append_assoc] at hpast
      obtain ⟨-, hs⟩ := List.append_inj' hpast rfl
      cases hs
    · rw [List.concat_eq_append] at hpast hnone
      refine ⟨?_, fun hrun => ?_⟩
      · rw [← List.append_assoc] at hpast
        obtain ⟨rfl, -⟩ := List.append_inj' hpast rfl
        rw [hasRun_concat, not_or] at hnone
        exact ⟨before, failures ++ [.failure kind], after, rfl, hlength, hall, hnone.1⟩
      · obtain ⟨run, hsuffix, hlength, hall⟩ := le_length_rtakeWhile_iff.1 hrun
        rw [hpast, ← List.append_assoc before] at hsuffix
        exact hnone ⟨run, (suffix_of_successes hsuffix hall).isInfix, hlength, hall⟩
  · rintro ⟨⟨before, failures, after, rfl, hlength, hall, hnone⟩, hrun⟩
    refine ⟨before, failures, after ++ [.success], List.append_assoc _ _ _,
      hlength, hall, ?_⟩
    rw [hasRun_concat, not_or]
    refine ⟨hnone, fun hlong => hrun ?_⟩
    obtain ⟨run, hsuffix, hlength, hall⟩ := le_length_rtakeWhile_iff.1 hlong
    refine le_length_rtakeWhile_iff.2 ⟨run, ?_, hlength, hall⟩
    rw [List.append_assoc]
    exact hsuffix.trans (List.suffix_append _ _)

end Eviction

/-! ## Health -/

namespace Health

variable {t : Thresholds} {past : List Signal} {h : Health}

/-- What health tells of the signals it has taken. -/
structure Reflects (t : Thresholds) (past : List Signal)
    (h : Health) : Prop where
  /-- The failures at the end. -/
  failureRun : h.failureRun = min (past.rtakeWhile Signal.isFailure).length longestRun
  /-- The successes at the end. -/
  successRun : h.successRun = min (past.rtakeWhile Signal.isSuccess).length longestRun
  /-- All failures. -/
  failures : h.failures = past.countP Signal.isFailure
  /-- All successes. -/
  successes : h.successes = past.countP Signal.isSuccess
  /-- The last failure. -/
  lastFailure : h.lastFailure = (past.filterMap Signal.kind?).getLast?
  /-- Whether the backend is evicted. -/
  healthy : h.healthy = false ↔ Evicted t past

theorem Reflects.new (t : Thresholds) : Reflects t [] {} :=
  ⟨rfl, rfl, rfl, rfl, rfl, ⟨nofun, fun h => absurd h not_evicted_nil⟩⟩

/-- How the last probe ended is nothing else. -/
theorem Reflects.stamp (hr : Reflects t past h) (probed : Option Bool) :
    Reflects t past (h.stamp probed) :=
  ⟨hr.failureRun, hr.successRun, hr.failures, hr.successes, hr.lastFailure, hr.healthy⟩

/-- At most one run is not empty. -/
theorem Reflects.runs (hr : Reflects t past h) :
    h.failureRun = 0 ∨ h.successRun = 0 := by
  rw [hr.failureRun, hr.successRun]
  rcases List.eq_nil_or_concat past with rfl | ⟨past, s, rfl⟩
  · exact .inl rfl
  · rw [List.concat_eq_append]
    cases s with
    | success =>
      exact .inl (by rw [List.rtakeWhile_concat_neg _ _ _ Bool.false_ne_true]; rfl)
    | failure kind =>
      exact .inr (by rw [List.rtakeWhile_concat_neg _ _ _ Bool.false_ne_true]; rfl)

theorem extend_min (n : Nat) :
    extend (min n longestRun) = min (n + 1) longestRun := by
  rw [extend]
  omega

/-- **One failure more.** -/
theorem Reflects.fail (hr : Reflects t past h) (ht : t.unhealthy ≤ longestRun)
    (kind : FailureKind) :
    Reflects t (past ++ [.failure kind]) (h.fail t kind).2 := by
  obtain ⟨hfailures, hsuccesses, hlast⟩ := accounted_account t (.failed kind) h
  obtain ⟨hsuccessRun, hfailureRun⟩ := runs_fail t kind h
  have hlong : ((past ++ [Signal.failure kind]).rtakeWhile Signal.isFailure).length =
      (past.rtakeWhile Signal.isFailure).length + 1 := by
    rw [List.rtakeWhile_concat_pos _ _ _ rfl, List.length_append,
      List.length_singleton]
  have hnone : (past ++ [Signal.failure kind]).rtakeWhile Signal.isSuccess = [] :=
    List.rtakeWhile_concat_neg _ _ _ Bool.false_ne_true
  rw [hr.failureRun, extend_min, ← hlong] at hfailureRun
  refine ⟨hfailureRun, ?_, ?_, ?_, ?_, ?_⟩
  · rw [hsuccessRun, hnone, List.length_nil, Nat.zero_min]
  · rw [List.countP_append, ← hr.failures]
    exact hfailures
  · rw [List.countP_append, ← hr.successes]
    exact hsuccesses
  · rw [List.filterMap_append]
    exact hlast.trans List.getLast?_concat.symm
  · rw [healthy_fail_eq, Bool.and_eq_false_iff, decide_eq_false_iff_not,
      hr.healthy, hfailureRun, evicted_concat_failure]
    refine or_congr_right ?_
    omega

/-- **One success more.** -/
theorem Reflects.succeed (hr : Reflects t past h) (ht : t.healthy ≤ longestRun) :
    Reflects t (past ++ [.success]) (h.succeed t).2 := by
  obtain ⟨hsuccesses, hfailures, hlast⟩ := accounted_account t .success h
  obtain ⟨hfailureRun, hsuccessRun⟩ := runs_succeed t h
  have hlong : ((past ++ [Signal.success]).rtakeWhile Signal.isSuccess).length =
      (past.rtakeWhile Signal.isSuccess).length + 1 := by
    rw [List.rtakeWhile_concat_pos _ _ _ rfl, List.length_append,
      List.length_singleton]
  have hnone : (past ++ [Signal.success]).rtakeWhile Signal.isFailure = [] :=
    List.rtakeWhile_concat_neg _ _ _ Bool.false_ne_true
  rw [hr.successRun, extend_min, ← hlong] at hsuccessRun
  refine ⟨?_, hsuccessRun, ?_, ?_, ?_, ?_⟩
  · rw [hfailureRun, hnone, List.length_nil, Nat.zero_min]
  · rw [List.countP_append, ← hr.failures]
    exact hfailures
  · rw [List.countP_append, ← hr.successes]
    exact hsuccesses
  · rw [List.filterMap_append, show [Signal.success].filterMap Signal.kind? = []
      from rfl, List.append_nil, ← hr.lastFailure]
    exact hlast
  · rw [healthy_succeed_eq, Bool.or_eq_false_iff, decide_eq_false_iff_not,
      hr.healthy, hsuccessRun, evicted_concat_success]
    refine and_congr_right fun _ => not_congr ?_
    omega

/-- **One signal more**, where a run may become as long as the thresholds. -/
theorem Reflects.take (hr : Reflects t past h) (hu : t.unhealthy ≤ longestRun)
    (hh : t.healthy ≤ longestRun) (s : Signal) :
    Reflects t (past ++ [s]) (h.take t s).2 := by
  cases s with
  | success => exact hr.succeed hh
  | failure kind => exact hr.fail hu kind

/-- **A change of health is reported** exactly if there is one. -/
theorem take_transition (t : Thresholds) (s : Signal) (h : Health) :
    ((h.take t s).1 = some .becameUnhealthy ↔
      h.healthy = true ∧ (h.take t s).2.healthy = false) ∧
      ((h.take t s).1 = some .becameHealthy ↔
        h.healthy = false ∧ (h.take t s).2.healthy = true) := by
  cases s with
  | success =>
    rw [take, Health.succeed]
    split
    · rename_i hlong
      have hhealthy : h.healthy = false := by
        simpa using (Bool.and_eq_true_iff.1 hlong).1
      simp [hhealthy]
    · cases hhealthy : h.healthy <;> simp [countSuccess, hhealthy]
  | failure kind =>
    rw [take, Health.fail]
    split
    · rename_i hlong
      have hhealthy : h.healthy = true := (Bool.and_eq_true_iff.1 hlong).1
      simp [hhealthy]
    · cases hhealthy : h.healthy <;> simp [countFailure, hhealthy]

end Health

/-! ## Histories -/

namespace Operation

/-- The signal that an operation is for the backend of a number, if it is
one. -/
def signalTo? (id : Nat) (op : Operation) : Option Signal :=
  op.signal?.bind fun (other, s) => if other = id then some s else none

/-- Whether an operation records something about the backend of a number. -/
def Records (id : Nat) : Operation → Prop
  | .success other => other = id
  | .failure other _ => other = id
  | .probe other _ => other = id
  | .outcome other _ => other = id
  | _ => False

variable {id : Nat} {op : Operation} {s : Signal}

/-- An operation is a signal for one backend. -/
theorem signalTo?_eq_some_iff :
    op.signalTo? id = some s ↔ op.signal? = some (id, s) := by
  rw [signalTo?, Option.bind_eq_some_iff]
  constructor
  · rintro ⟨⟨other, s'⟩, hs, h⟩
    dsimp only at h
    split at h
    · rename_i hother
      rwa [hother, Option.some.inj h] at hs
    · cases h
  · exact fun h => ⟨_, h, if_pos rfl⟩

/-- What records something about a backend is a signal, or an outcome that says
nothing about it. -/
theorem Records.cases (h : op.Records id) :
    (∃ s, op.signal? = some (id, s)) ∨
      ∃ outcome, op = .outcome id outcome ∧ op.signal? = none := by
  cases op with
  | success => cases h; exact .inl ⟨_, rfl⟩
  | failure => cases h; exact .inl ⟨_, rfl⟩
  | probe _ result =>
    cases h
    cases result <;> exact .inl ⟨_, rfl⟩
  | outcome _ outcome =>
    cases h
    cases outcome with
    | success => exact .inl ⟨_, rfl⟩
    | failed kind => exact .inl ⟨_, rfl⟩
    | _ => exact .inr ⟨_, rfl, rfl⟩
  | _ => cases h

end Operation

namespace Ledger

variable {id : Nat} {l : Ledger} {m : Member} {past : List Signal}

/-- One operation keeps what health tells. -/
theorem reflects_perform (rules : Selection) (op : Operation)
    (hm : l.fleet.pool.members[id]? = some m)
    (hr : m.health.Reflects l.fleet.pool.thresholds past)
    (hu : l.fleet.pool.thresholds.unhealthy ≤ Health.longestRun)
    (hh : l.fleet.pool.thresholds.healthy ≤ Health.longestRun) :
    ∃ n, (l.perform rules op).2.fleet.pool.members[id]? = some n ∧
      n.health.Reflects l.fleet.pool.thresholds (past ++ (op.signalTo? id).toList) := by
  obtain ⟨n, hn, ⟨s, probed, hs, hhealth⟩ | ⟨hs, hhealth⟩⟩ :=
    (performed_perform rules op l).health_cases hm
  · refine ⟨n, hn, ?_⟩
    rw [hhealth, Operation.signalTo?_eq_some_iff.2 hs]
    exact (hr.stamp probed).take hu hh s
  · refine ⟨n, hn, ?_⟩
    have hnone : op.signalTo? id = none :=
      Option.eq_none_iff_forall_ne_some.2 fun s h =>
        hs s (Operation.signalTo?_eq_some_iff.1 h)
    rw [hhealth, hnone, Option.toList_none, List.append_nil]
    exact hr

/-- **A history keeps what health tells.** -/
theorem reflects_run (rules : Selection) (ops : List Operation)
    (hm : l.fleet.pool.members[id]? = some m)
    (hr : m.health.Reflects l.fleet.pool.thresholds past)
    (hu : l.fleet.pool.thresholds.unhealthy ≤ Health.longestRun)
    (hh : l.fleet.pool.thresholds.healthy ≤ Health.longestRun) :
    ∃ n, (run rules ops l).2.fleet.pool.members[id]? = some n ∧
      n.health.Reflects l.fleet.pool.thresholds
        (past ++ ops.filterMap (Operation.signalTo? id)) := by
  induction ops generalizing l m past with
  | nil => exact ⟨m, hm, by rwa [List.filterMap_nil, List.append_nil]⟩
  | cons op ops ih =>
    obtain ⟨n, hn, hrn⟩ := reflects_perform rules op hm hr hu hh
    rw [← (performed_perform rules op l).thresholds_eq] at hrn hu hh ⊢
    obtain ⟨n', hn', hrn'⟩ := ih hn hrn hu hh
    refine ⟨n', hn', ?_⟩
    rw [List.append_assoc] at hrn'
    rw [List.filterMap_cons]
    cases hop : op.signalTo? id <;> rw [hop] at hrn' <;> exact hrn'

/-- **What is recorded about a backend is answered with the change of its
health.** -/
theorem transition_perform {op : Operation} (rules : Selection)
    (hop : op.Records id) (hm : l.fleet.pool.members[id]? = some m) :
    ∃ change n, (l.perform rules op).1 = .transition change ∧
      (l.perform rules op).2.fleet.pool.members[id]? = some n ∧
      (change = some .becameUnhealthy ↔
        m.health.healthy = true ∧ n.health.healthy = false) ∧
      (change = some .becameHealthy ↔
        m.health.healthy = false ∧ n.health.healthy = true) := by
  obtain ⟨s, hs⟩ | ⟨outcome, rfl, hs⟩ := hop.cases
  · obtain ⟨probed, g, hperform, hpool⟩ := perform_of_signal rules hs hm
    obtain ⟨hunhealthy, hhealthy⟩ :=
      Health.take_transition l.fleet.pool.thresholds s (m.health.stamp probed)
    rw [hperform]
    dsimp only
    rw [hpool]
    exact ⟨_, _, rfl, Pool.withHealth_getElem_self hm _, hunhealthy, hhealthy⟩
  · rw [perform_of_silent rules l hs]
    refine ⟨none, m, rfl, hm, ?_, ?_⟩ <;> simp

/-- **Hysteresis.** After any history of operations on a new pool, whatever the
thresholds, the health of each backend tells of the signals it was sent, by
whichever operations: it is unhealthy exactly if enough failures came in a row
and after them enough successes in a row did not, its runs are those at the end
of the history, up to the limit, and at most one is not empty, its totals are
the numbers of failures and successes, and its last failure is the last.
Whatever is recorded about it then is answered with a change of health exactly
if it makes that change. -/
theorem run_hysteresis (rules : Selection) (unhealthy healthy : UInt32)
    {backends : List Backend} {id : Nat} (hid : id < backends.length)
    (ops : List Operation) :
    let t : Thresholds := ⟨unhealthy.toNat, healthy.toNat⟩
    let l := (run rules ops { fleet := { pool := .ofBackends backends t } }).2
    let past := ops.filterMap (Operation.signalTo? id)
    ∃ m, l.fleet.pool.members[id]? = some m ∧
      (m.health.healthy = false ↔ Evicted t past) ∧
      m.health.failureRun = min (past.rtakeWhile Signal.isFailure).length (2 ^ 32 - 1) ∧
      m.health.successRun = min (past.rtakeWhile Signal.isSuccess).length (2 ^ 32 - 1) ∧
      (m.health.failureRun = 0 ∨ m.health.successRun = 0) ∧
      m.health.failures = past.countP Signal.isFailure ∧
      m.health.successes = past.countP Signal.isSuccess ∧
      m.health.lastFailure = (past.filterMap Signal.kind?).getLast? ∧
      ∀ op, op.Records id → ∃ change n, (l.perform rules op).1 = .transition change ∧
        (l.perform rules op).2.fleet.pool.members[id]? = some n ∧
        (change = some .becameUnhealthy ↔
          m.health.healthy = true ∧ n.health.healthy = false) ∧
        (change = some .becameHealthy ↔
          m.health.healthy = false ∧ n.health.healthy = true) := by
  intro t l past
  have hlimit : ∀ n : UInt32, n.toNat ≤ Health.longestRun :=
    fun n => Nat.le_sub_one_of_lt n.toNat_lt
  have hnew : (Pool.ofBackends backends t).members[id]? =
      some { backend := backends[id] } := by
    rw [Pool.ofBackends, List.getElem?_map, List.getElem?_eq_getElem hid]
    rfl
  obtain ⟨m, hm, hr⟩ := reflects_run
    (l := { fleet := { pool := .ofBackends backends t } }) rules ops hnew
      (.new t) (hlimit unhealthy) (hlimit healthy)
  rw [List.nil_append] at hr
  exact ⟨m, hm, hr.healthy, hr.failureRun, hr.successRun, hr.runs, hr.failures,
    hr.successes, hr.lastFailure, fun op hop => transition_perform rules hop hm⟩

/-- Two failures that come by different operations, with what says nothing about
the backend between them, evict the second of two backends under thresholds of 2
and 0; then one success is enough. -/
theorem run_hysteresis_mixed :
    let first : Backend := ⟨"a", ⟨.loopback, 1, 0⟩, 1, none, by decide⟩
    let second : Backend := ⟨"b", ⟨.loopback, 2, 0⟩, 1, none, by decide⟩
    let t : Thresholds := ⟨(2 : UInt32).toNat, (0 : UInt32).toNat⟩
    let ops : List Operation :=
      [.failure 1 .timeout, .begin 1, .success 0, .outcome 1 .rejected,
        .probe 1 (some .probeTimeout)]
    let l := (run {} ops { fleet := { pool := .ofBackends [first, second] t } }).2
    1 < [first, second].length ∧
      Evicted t [.failure .timeout, .failure .probeTimeout] ∧
      (l.fleet.pool.members.map fun m =>
        (m.health.healthy, m.health.failureRun, m.health.failures)) =
          [(true, 0, 0), (false, 2, 2)] ∧
      ∃ change n, (l.perform {} (.outcome 1 .success)).1 = .transition change ∧
        change = some .becameHealthy ∧
        (l.perform {} (.outcome 1 .success)).2.fleet.pool.members[1]? = some n ∧
        n.health.healthy = true := by
  intro first second t ops l
  obtain ⟨m, hm, hevicted, -, -, -, -, -, -, hrecords⟩ :=
    run_hysteresis {} 2 0 (show 1 < [first, second].length by decide) ops
  have hunhealthy : m.health.healthy = false := by
    cases hm
    rfl
  obtain ⟨change, n, hperform, hn, -, hchange⟩ := hrecords (.outcome 1 .success) rfl
  have hhealthy : n.health.healthy = true := by
    cases hn
    rfl
  exact ⟨by decide, hevicted.1 hunhealthy, by rfl, change, n, hperform,
    hchange.2 ⟨hunhealthy, hhealthy⟩, hn, hhealthy⟩

end Ledger

end Gateway
