import Gateway.Proofs.Balancing
import Gateway.Proofs.Slots

/-!
# Where policies coincide

All policies turn one wheel each, by the same cursor. So they pick alike where
their wheels are alike: by weight and one after the other if each candidate is
repeated as often as its weight says, and by connections and one after the other
if all candidates have as many.

* `Policy.repeated` is the list in which weights are spelled out;
* `Policy.pick_eq_of_wheel`: policies with one wheel pick the same and leave the
  same cursor;
* `Policy.picks_coincide`: which policies coincide on which candidates;
* `Ledger.run_coincides`: so whole histories are the same under either policy.
-/

namespace Gateway

/-! ## One pick -/

namespace Policy

variable {cs cs' : List Candidate} {policy policy' : Policy}

/-- The list in which each candidate stands as often in a row as its weight
says. -/
def repeated (cs : List Candidate) : List Candidate :=
  cs.flatMap fun c => List.replicate c.member.backend.weight c

theorem repeated_eq_nil_iff : repeated cs = [] ↔ cs = [] := by
  rw [repeated, List.flatMap_eq_nil_iff, List.eq_nil_iff_forall_not_mem]
  refine forall_congr' fun c => imp_congr_right fun _ => ?_
  rw [List.replicate_eq_nil_iff]
  exact iff_of_false c.member.backend.weight_pos.ne' not_false

/-- **Weights spelled out** are the wheel by weight. -/
theorem wheel_repeated (cs : List Candidate) :
    wheel .roundRobin (repeated cs) = wheel .weightedRoundRobin cs := by
  rw [wheel, wheel, repeated, List.map_flatMap]
  simp only [List.map_replicate]

theorem repeated_of_weight_one
    (h : ∀ c ∈ cs, c.member.backend.weight = 1) : repeated cs = cs := by
  rw [repeated, List.flatMap_congr fun c hc => by rw [h c hc, List.replicate_one],
    List.flatMap_singleton']

/-- Of candidates with as many connections all have the fewest. -/
theorem leastLoaded_of_level
    (h : ∀ c ∈ cs, ∀ other ∈ cs, c.member.active = other.member.active) :
    leastLoaded cs = cs := by
  rw [leastLoaded]
  cases hleast : (cs.map fun c => c.member.active).min? with
  | none =>
    rw [List.min?_eq_none_iff, List.map_eq_nil_iff] at hleast
    exact hleast.symm
  | some least =>
    obtain ⟨idlest, hidlest, rfl⟩ := List.mem_map.1 (List.min?_mem hleast)
    exact List.filter_eq_self.2 fun c hc => beq_iff_eq.2 (h c hc idlest hidlest)

/-- **Policies with one wheel pick the same**, and move the cursor alike. -/
theorem pick_eq_of_wheel (hnil : cs = [] ↔ cs' = [])
    (hwheel : policy.wheel cs = policy'.wheel cs') (p : Pool) :
    policy.pick cs p = policy'.pick cs' p := by
  by_cases h : cs = []
  · rw [h, hnil.1 h, pick_nil, pick_nil]
  · rw [pick_eq_wheel policy h, pick_eq_wheel policy' fun h' => h (hnil.2 h'), hwheel]

/-- By weight candidates are picked as one after the other is from the list in
which they are repeated. -/
theorem pick_repeated (cs : List Candidate) (p : Pool) :
    pick .weightedRoundRobin cs p = pick .roundRobin (repeated cs) p :=
  pick_eq_of_wheel repeated_eq_nil_iff.symm (wheel_repeated cs).symm p

/-- **Weights of 1 make no difference.** -/
theorem pick_of_weight_one (h : ∀ c ∈ cs, c.member.backend.weight = 1)
    (p : Pool) :
    pick .weightedRoundRobin cs p = pick .roundRobin cs p := by
  rw [pick_repeated, repeated_of_weight_one h]

/-- **Nor do connections**, if all candidates have as many. -/
theorem pick_of_level
    (h : ∀ c ∈ cs, ∀ other ∈ cs, c.member.active = other.member.active)
    (p : Pool) :
    pick .leastConnections cs p = pick .roundRobin cs p :=
  pick_eq_of_wheel Iff.rfl (by rw [wheel, wheel, leastLoaded_of_level h]) p

/-- **Policies coincide where they should.** From any cursor, candidates that
all have weight 1 are picked by weight as they are one after the other, and
candidates that all have as many connections are picked by connections as they
are one after the other. By weight any candidates are picked as one after the
other is from the list in which each stands as often as its weight says. The
cursor is left the same each time. -/
theorem picks_coincide (cs : List Candidate) (p : Pool) :
    ((∀ c ∈ cs, c.member.backend.weight = 1) →
      pick .weightedRoundRobin cs p = pick .roundRobin cs p) ∧
      ((∀ c ∈ cs, ∀ other ∈ cs, c.member.active = other.member.active) →
        pick .leastConnections cs p = pick .roundRobin cs p) ∧
      pick .weightedRoundRobin cs p =
        pick .roundRobin (cs.flatMap fun c => List.replicate c.member.backend.weight c) p :=
  ⟨fun h => pick_of_weight_one h p, fun h => pick_of_level h p, pick_repeated cs p⟩

/-- Two idle candidates with weight 1, and two with weights 2 and 1, where the
cursor is about to start again. -/
theorem picks_coincide_last_turn :
    let even : List Candidate :=
      [⟨4, { backend := ⟨"a", ⟨.loopback, 1, 0⟩, 1, none, by decide⟩ }⟩,
        ⟨7, { backend := ⟨"b", ⟨.loopback, 2, 0⟩, 1, none, by decide⟩ }⟩]
    let uneven : List Candidate :=
      [⟨4, { backend := ⟨"a", ⟨.loopback, 1, 0⟩, 2, none, by decide⟩ }⟩,
        ⟨7, { backend := ⟨"b", ⟨.loopback, 2, 0⟩, 1, none, by decide⟩ }⟩]
    let p : Pool := { members := [], cursor := 18446744073709551615 }
    (∀ c ∈ even, c.member.backend.weight = 1) ∧
      (∀ c ∈ even, ∀ other ∈ even, c.member.active = other.member.active) ∧
      pick .roundRobin even p = (some 7, { p with cursor := 0 }) ∧
      pick .weightedRoundRobin even p = (some 7, { p with cursor := 0 }) ∧
      pick .leastConnections even p = (some 7, { p with cursor := 0 }) ∧
      pick .weightedRoundRobin uneven p =
        pick .roundRobin [uneven[0], uneven[0], uneven[1]] p := by
  intro even uneven p
  have hweights : ∀ c ∈ even, c.member.backend.weight = 1 := by decide
  have hlevel : ∀ c ∈ even, ∀ other ∈ even, c.member.active =
      other.member.active := by decide
  have hpick : pick .roundRobin even p = (some 7, { p with cursor := 0 }) := by
    decide +kernel
  obtain ⟨hweighted, hleast, -⟩ := picks_coincide even p
  obtain ⟨-, -, hrepeated⟩ := picks_coincide uneven p
  exact ⟨hweights, hlevel, hpick, (hweighted hweights).trans hpick,
    (hleast hlevel).trans hpick, hrepeated⟩

end Policy

/-! ## Histories -/

namespace Pool

variable {p : Pool} {failOpen : Bool}

theorem select_congr {policy policy' : Policy}
    (h : policy.pick (p.eligible failOpen) p = policy'.pick (p.eligible failOpen) p) :
    p.select ⟨policy, failOpen⟩ = p.select ⟨policy', failOpen⟩ := by
  simp only [select, h]

end Pool

namespace Ledger

variable {ops : List Operation} {l : Ledger}

/-- Where policies pick the same as long as something holds that operations
preserve, histories are the same. -/
theorem run_eq_of_select {rules rules' : Selection} {P : Ledger → Prop}
    (hstep : ∀ op ∈ ops, ∀ k, P k → P (k.perform rules op).2)
    (hselect : ∀ k, P k → k.fleet.pool.select rules = k.fleet.pool.select rules')
    (h : P l) :
    run rules ops l = run rules' ops l := by
  induction ops generalizing l with
  | nil => rfl
  | cons op ops ih =>
    have hperform : l.perform rules op = l.perform rules' op := by
      cases op with
      | select => rw [perform_select, perform_select, hselect l h]
      | _ => rfl
    rw [run, run, ← hperform]
    dsimp only
    rw [ih (fun op' hop' => hstep op' (List.mem_cons_of_mem _ hop'))
      (hstep op List.mem_cons_self l h)]

/-- **Whole histories coincide.** Where all weights are 1, every history goes by
weight as it goes one after the other. Where no backend has a connection and
none is begun, it goes by connections so. -/
theorem run_coincides (failOpen : Bool) (ops : List Operation) (l : Ledger) :
    ((∀ b ∈ l.fleet.pool.backends, b.weight = 1) →
        run ⟨.weightedRoundRobin, failOpen⟩ ops l = run ⟨.roundRobin, failOpen⟩ ops l) ∧
      ((∀ m ∈ l.fleet.pool.members, m.active = 0) → (∀ id, .begin id ∉ ops) →
        run ⟨.leastConnections, failOpen⟩ ops l =
          run ⟨.roundRobin, failOpen⟩ ops l) := by
  constructor
  · intro hweights
    refine run_eq_of_select
      (P := fun k => ∀ b ∈ k.fleet.pool.backends, b.weight = 1) ?_ ?_ hweights
    · intro op _ k hk
      rwa [(performed_perform _ op k).backends_eq]
    · intro k hk
      have hmembers : ∀ c ∈ k.fleet.pool.eligible failOpen,
          c.member.backend.weight = 1 :=
        fun c hc => hk _ (List.mem_map_of_mem
          (List.mem_of_getElem? (Pool.member_of_eligible hc)))
      exact Pool.select_congr (Policy.pick_of_weight_one hmembers k.fleet.pool)
  · intro hidle hbegin
    refine run_eq_of_select (P := Tallied fun active _ => active = 0) ?_ ?_ fun id m hm =>
      hidle m (List.mem_of_getElem? hm)
    · intro op hop k hk
      refine tallied_perform _ (fun {id active slots active' slots'} htally hnone => ?_) hk
      cases htally with
      | began heq => exact absurd (heq ▸ hop) (hbegin id)
      | dropped => rw [hnone]
      | finished => rw [hnone]
      | kept => exact hnone
    · intro k hk
      have hmembers : ∀ c ∈ k.fleet.pool.eligible failOpen, c.member.active = 0 :=
        fun c hc => hk c.id c.member (Pool.member_of_eligible hc)
      refine Pool.select_congr
        (Policy.pick_of_level (fun c hc other hother => ?_) k.fleet.pool)
      rw [hmembers c hc, hmembers other hother]

end Ledger
end Gateway
