import Gateway.Pool.Backend
import Gateway.Pool.Health

/-!
# Pools

A fixed list of backends with what is known about each: its health and how many
connections it has. A backend is named by its position. The cursor counts the
turns that policies have given out.

* `Pool.update` changes one member and leaves the others alone
  (`update_getElem_ne`);
* `recordSuccess`, `recordFailure`, `recordProbe`, `recordOutcome` feed its
  health;
* `beginConnection` and `endConnection` count its connections;
* `turn` gives out the next turn.
-/

namespace Gateway

/-- A backend and what is known about it. -/
structure Member where
  /-- The backend. -/
  backend : Backend
  /-- Its health. -/
  health : Health := {}
  /-- How many connections it has. -/
  active : Nat := 0
  deriving DecidableEq, Repr

/-- Whether another connection fits. -/
def Member.hasCapacity (m : Member) : Bool :=
  match m.backend.capacity with
  | none => true
  | some most => decide (m.active < most)

/-- The backends of a gateway. -/
structure Pool where
  /-- The backends in their order. -/
  members : List Member
  /-- When their health changes. -/
  thresholds : Thresholds := {}
  /-- How many turns were given out. -/
  cursor : UInt64 := 0
  deriving DecidableEq, Repr, Inhabited

/-- There is no backend of this number. -/
structure UnknownBackend where
  /-- The number. -/
  id : Nat
  /-- How many backends there are. -/
  size : Nat
  deriving DecidableEq, Repr, Inhabited

/-- The wording of the failure. -/
def UnknownBackend.message (e : UnknownBackend) : String :=
  "unknown backend id " ++ toString e.id ++ " (registry has " ++
    toString e.size ++ " backends)"

namespace Pool

/-- A new pool, in which every backend is healthy and idle. -/
def ofBackends (backends : List Backend) (thresholds : Thresholds) : Pool :=
  { members := backends.map fun b => { backend := b }, thresholds := thresholds }

/-- How many backends there are. -/
def size (p : Pool) : Nat :=
  p.members.length

/-- The backend of a number and what is known about it. -/
def member (p : Pool) (id : Nat) : Except UnknownBackend Member :=
  match p.members[id]? with
  | some m => .ok m
  | none => .error ⟨id, p.size⟩

/-- Changes one member. -/
def update {α : Type} (id : Nat) (f : Member → α × Member) (p : Pool) :
    Except UnknownBackend (α × Pool) :=
  match p.members[id]? with
  | some m => .ok ((f m).1, { p with members := p.members.set id (f m).2 })
  | none => .error ⟨id, p.size⟩

/-- The backends in their order. -/
def backends (p : Pool) : List Backend :=
  p.members.map (·.backend)

/-! ## Signals -/

/-- Changes the health of one member. -/
def updateHealth (id : Nat)
    (f : Thresholds → Health → Option Transition × Health) (p : Pool) :
    Except UnknownBackend (Option Transition × Pool) :=
  p.update id fun m => ((f p.thresholds m.health).1, { m with
    health := (f p.thresholds m.health).2 })

/-- Takes a success of a backend. -/
def recordSuccess (id : Nat) (p : Pool) :
    Except UnknownBackend (Option Transition × Pool) :=
  p.updateHealth id fun t => Health.succeed t

/-- Takes a failure of a backend. -/
def recordFailure (id : Nat) (kind : FailureKind) (p : Pool) :
    Except UnknownBackend (Option Transition × Pool) :=
  p.updateHealth id fun t => Health.fail t kind

/-- Takes the result of a probe of a backend, which is a failure or none. -/
def recordProbe (id : Nat) (result : Option FailureKind) (p : Pool) :
    Except UnknownBackend (Option Transition × Pool) :=
  p.updateHealth id fun t => Health.probe t result

/-! ## Connections -/

/-- Counts a connection that begins, and gives how many there are now. -/
def beginConnection (id : Nat) (p : Pool) :
    Except UnknownBackend (Nat × Pool) :=
  p.update id fun m => (m.active + 1, { m with active := m.active + 1 })

/-- Counts a connection that ends, and gives how many there are now; with none
there is nothing to count. -/
def endConnection (id : Nat) (p : Pool) :
    Except UnknownBackend (Option Nat × Pool) :=
  p.update id fun m =>
    match m.active with
    | 0 => (none, m)
    | n + 1 => (some n, { m with active := n })

/-! ## Turns -/

/-- Gives out the next turn among `count` candidates. A turn is used up even if
there is no candidate. -/
def turn (count : Nat) (p : Pool) : Nat × Pool :=
  (if count = 0 then 0 else p.cursor.toNat % count, { p with cursor := p.cursor + 1 })

/-! ## Small facts -/

/-- A change keeps the number of members, the thresholds and the cursor. -/
theorem update_frame {α : Type} {id : Nat} {f : Member → α × Member}
    {p q : Pool} {a : α} (h : p.update id f = .ok (a, q)) :
    q.size = p.size ∧ q.thresholds = p.thresholds ∧ q.cursor = p.cursor := by
  unfold update at h
  split at h
  · cases h; simp [size]
  · cases h

/-- **A change leaves every other member alone.** -/
theorem update_getElem_ne {α : Type} {id other : Nat} {f : Member → α × Member}
    {p q : Pool} {a : α} (h : p.update id f = .ok (a, q)) (hne : other ≠ id) :
    q.members[other]? = p.members[other]? := by
  unfold update at h
  split at h
  · cases h
    simp [Ne.symm hne]
  · cases h

/-- A change does to its member what it is told. -/
theorem update_getElem_self {α : Type} {id : Nat} {f : Member → α × Member}
    {p q : Pool} {a : α} (h : p.update id f = .ok (a, q)) :
    ∃ m, p.members[id]? = some m ∧ a = (f m).1 ∧ q.members[id]? = some (f m).2 := by
  unfold update at h
  split at h
  · rename_i m hm
    cases h
    have hlt := (List.getElem?_eq_some_iff.1 hm).1
    exact ⟨m, hm, rfl, by simp [hlt]⟩
  · cases h

end Pool

end Gateway
