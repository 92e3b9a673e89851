import Gateway.Pool.Fleet

/-!
# A backend is chosen where one is eligible

Every policy picks one of its candidates if there are any, whatever the cursor,
and uses up one turn for it. So a pool gives a request to a backend exactly if
one is eligible, and is otherwise left as it was.

* `Policy.pick_of_ne_nil`: a policy picks one of its candidates;
* `Pool.mem_eligible_iff`: who is eligible;
* `Pool.select_of_eligible`, `Pool.select_of_ineligible`: what becomes of a
  request;
* `Fleet.select_sound_complete`: the same in terms of health and room.
-/

namespace Gateway

namespace Pool

/-- The pool after a turn was given out. -/
def advance (p : Pool) : Pool :=
  { p with cursor := p.cursor + 1 }

/-- The turn among some candidates is the cursor's, and moves it. -/
theorem turn_eq {count : Nat} (h : 0 < count) (p : Pool) :
    p.turn count = (p.cursor.toNat % count, p.advance) := by
  rw [turn, if_neg (Nat.ne_of_gt h)]
  rfl

theorem turn_of_pos {count : Nat} (h : 0 < count) (p : Pool) :
    ∃ i, i < count ∧ p.turn count = (i, p.advance) :=
  ⟨_, Nat.mod_lt _ h, turn_eq h p⟩

end Pool

/-! ## Policies -/

namespace Policy

variable {cs : List Candidate}

/-- The candidate whose share a turn falls into is one. -/
theorem mem_of_shareOf {turn : Nat} {c : Candidate}
    (h : shareOf cs turn = some c) : c ∈ cs := by
  induction cs generalizing turn with
  | nil => cases h
  | cons first rest ih =>
    rw [shareOf] at h
    split at h
    · cases h
      exact List.mem_cons_self
    · exact List.mem_cons_of_mem _ (ih h)

/-- The candidates with the fewest connections are candidates, and there are
some. -/
theorem leastLoaded_spec (h : cs ≠ []) :
    leastLoaded cs ≠ [] ∧ ∀ c ∈ leastLoaded cs, c ∈ cs := by
  rw [leastLoaded]
  cases hleast : (cs.map fun c => c.member.active).min? with
  | none =>
    rw [List.min?_eq_none_iff, List.map_eq_nil_iff] at hleast
    exact absurd hleast h
  | some least =>
    obtain ⟨c, hc, hactive⟩ := List.mem_map.1 (List.min?_mem hleast)
    refine ⟨?_, fun c hc => (List.mem_filter.1 hc).1⟩
    exact List.ne_nil_of_mem (List.mem_filter.2 ⟨hc, beq_iff_eq.2 hactive⟩)

theorem rotate_of_ne_nil (h : cs ≠ []) (p : Pool) :
    ∃ c ∈ cs, rotate cs p = (some c.id, p.advance) := by
  obtain ⟨i, hi, hturn⟩ := Pool.turn_of_pos (List.length_pos_iff.2 h) p
  refine ⟨cs[i], List.getElem_mem hi, ?_⟩
  rw [rotate, if_neg h, hturn]
  dsimp only
  rw [List.getElem?_eq_getElem hi]
  rfl

theorem totalWeight_pos (h : cs ≠ []) : 0 < totalWeight cs := by
  cases cs with
  | nil => exact absurd rfl h
  | cons c rest => exact Nat.add_pos_left c.member.backend.weight_pos _

/-- **A policy picks one of its candidates**, and uses up a turn for it. -/
theorem pick_of_ne_nil (policy : Policy) (h : cs ≠ []) (p : Pool) :
    ∃ c ∈ cs, policy.pick cs p = (some c.id, p.advance) := by
  cases policy with
  | roundRobin => exact rotate_of_ne_nil h p
  | weightedRoundRobin =>
    obtain ⟨i, -, hturn⟩ := Pool.turn_of_pos (totalWeight_pos h) p
    -- a turn that falls into no share is the first candidate's
    have hshare : ∃ c ∈ cs, (shareOf cs i).or cs.head? = some c := by
      cases hshare : shareOf cs i with
      | none => exact ⟨cs.head h, List.head_mem h, List.head?_eq_some_head h⟩
      | some c => exact ⟨c, mem_of_shareOf hshare, rfl⟩
    obtain ⟨c, hc, hshare⟩ := hshare
    refine ⟨c, hc, ?_⟩
    rw [pick, if_neg h, hturn]
    dsimp only
    rw [hshare]
    rfl
  | leastConnections =>
    obtain ⟨hne, hsub⟩ := leastLoaded_spec h
    obtain ⟨c, hc, hrotate⟩ := rotate_of_ne_nil hne p
    exact ⟨c, hsub c hc, hrotate⟩

theorem pick_nil (policy : Policy) (p : Pool) :
    policy.pick [] p = (none, p) := by
  cases policy <;> rfl

end Policy

/-! ## Pools -/

namespace Pool

variable {p : Pool} {rules : Selection}

theorem mem_candidates_iff {c : Candidate} :
    c ∈ p.candidates ↔ p.members[c.id]? = some c.member := by
  rw [candidates, List.mem_map]
  constructor
  · rintro ⟨⟨m, i⟩, hmem, rfl⟩
    exact List.mem_zipIdx_iff_getElem?.1 hmem
  · intro h
    exact ⟨(c.member, c.id), List.mem_zipIdx_iff_getElem?.2 h, rfl⟩

theorem ids_candidates (p : Pool) :
    p.candidates.map (·.id) = List.range p.members.length := by
  rw [candidates, List.map_map]
  exact (List.zipIdx_map_snd 0 p.members).trans List.range_eq_range'.symm

theorem healthyCount_eq_zero_iff :
    p.healthyCount = 0 ↔ ∀ m ∈ p.members, m.health.healthy = false := by
  simp only [healthyCount, List.countP_eq_zero, Bool.not_eq_true]

/-- **A backend is eligible** if it has room, and is healthy or the pool fails
open. -/
theorem mem_eligible_iff {failOpen : Bool} {c : Candidate} :
    c ∈ p.eligible failOpen ↔
      p.members[c.id]? = some c.member ∧ c.member.hasCapacity = true ∧
      (c.member.health.healthy = true ∨
        failOpen = true ∧ ∀ m ∈ p.members, m.health.healthy = false) := by
  rw [eligible]
  split
  · rename_i hopen
    rw [Bool.and_eq_true, beq_iff_eq, healthyCount_eq_zero_iff] at hopen
    rw [List.mem_filter, mem_candidates_iff]
    exact and_congr_right fun _ => (and_iff_left (.inr hopen)).symm
  · rename_i hclosed
    rw [Bool.and_eq_true, beq_iff_eq, healthyCount_eq_zero_iff] at hclosed
    rw [List.mem_filter, mem_candidates_iff, Bool.and_eq_true, or_iff_left hclosed]
    exact and_congr_right fun _ => and_comm

theorem member_of_eligible {failOpen : Bool} {c : Candidate}
    (h : c ∈ p.eligible failOpen) :
    p.members[c.id]? = some c.member :=
  (mem_eligible_iff.1 h).1

/-- **A backend that is eligible is selected where there is one.** -/
theorem select_of_eligible (h : p.eligible rules.failOpen ≠ []) :
    ∃ c ∈ p.eligible rules.failOpen, p.members[c.id]? = some c.member ∧
      p.select rules = (.ok c.id, p.advance) := by
  obtain ⟨c, hc, hpick⟩ := rules.policy.pick_of_ne_nil h p
  refine ⟨c, hc, member_of_eligible hc, ?_⟩
  rw [select, hpick]

/-- **Nothing is selected where no backend is eligible**, and no turn is used
up. -/
theorem select_of_ineligible (h : p.eligible rules.failOpen = []) :
    p.select rules = (.error ⟨p.size, p.healthyCount⟩, p) := by
  rw [select, h, Policy.pick_nil]

/-- Where no backend is eligible, none that may be picked has room. -/
theorem not_hasCapacity_of_ineligible {failOpen : Bool}
    (h : p.eligible failOpen = []) {m : Member} (hm : m ∈ p.members)
    (hmay : m.health.healthy = true ∨
      failOpen = true ∧ ∀ m ∈ p.members, m.health.healthy = false) :
    m.hasCapacity = false := by
  obtain ⟨id, hid⟩ := List.mem_iff_getElem?.1 hm
  rw [← Bool.not_eq_true]
  intro hroom
  have hmem : (⟨id, m⟩ : Candidate) ∈ p.eligible failOpen :=
    mem_eligible_iff.2 ⟨hid, hroom, hmay⟩
  exact List.not_mem_nil (h ▸ hmem)

end Pool

/-! ## Fleets -/

/-- **Selection is sound, complete and atomic.** A backend that is selected has
room, and it is healthy, or the rules let the pool fail open and no backend is
healthy; the cursor has moved by one turn and nothing else has changed. A
failure counts the backends and the healthy ones; no healthy backend has room
then, and where the pool would fail open and none is healthy no backend has;
nothing has changed at all. -/
theorem Fleet.select_sound_complete (rules : Selection) (f : Fleet) :
    match f.select rules with
    | (.ok id, g) =>
      g = { f with pool := { f.pool with cursor := f.pool.cursor + 1 } } ∧
      ∃ m, f.pool.members[id]? = some m ∧ m.hasCapacity = true ∧
        (m.health.healthy = true ∨ rules.failOpen = true ∧
          ∀ m ∈ f.pool.members, m.health.healthy = false)
    | (.error e, g) =>
      g = f ∧ e.total = f.pool.members.length ∧
      e.healthy = f.pool.members.countP (fun m => m.health.healthy) ∧
      (∀ m ∈ f.pool.members, m.health.healthy = true → m.hasCapacity = false) ∧
      (rules.failOpen = true → (∀ m ∈ f.pool.members, m.health.healthy = false) →
        ∀ m ∈ f.pool.members, m.hasCapacity = false) := by
  by_cases h : f.pool.eligible rules.failOpen = []
  · rw [select, Pool.select_of_ineligible h]
    refine ⟨rfl, rfl, rfl, fun m hm hhealthy => ?_, fun hopen hnone m hm => ?_⟩
    · exact Pool.not_hasCapacity_of_ineligible h hm (.inl hhealthy)
    · exact Pool.not_hasCapacity_of_ineligible h hm (.inr ⟨hopen, hnone⟩)
  · obtain ⟨c, hc, hmember, hselect⟩ := Pool.select_of_eligible h
    rw [select, hselect]
    obtain ⟨-, hroom, hmay⟩ := Pool.mem_eligible_iff.1 hc
    exact ⟨rfl, c.member, hmember, hroom, hmay⟩

end Gateway
