import Gateway.Pool.Fleet

/-!
# Operations on a fleet

Everything that can happen to a fleet, as data, so that any history is a list. A
slot stands for one connection that was begun; it is dropped at most once, which
ends the connection.

* `Fleet.perform` does one operation and gives its answer;
* `Ledger` adds the slots, `Ledger.run` performs a history.
-/

namespace Gateway

/-- Something that can happen to a fleet. -/
inductive Operation where
  /-- A request to a backend, or a probe of it, succeeds. -/
  | success (id : Nat)
  /-- A request to a backend, or a probe of it, fails. -/
  | failure (id : Nat) (kind : FailureKind)
  /-- A probe ends. -/
  | probe (id : Nat) (result : Option FailureKind)
  /-- A request ends. -/
  | outcome (id : Nat) (outcome : Outcome)
  /-- A connection begins; it gets the next slot. -/
  | begin (id : Nat)
  /-- The connection of a slot ends. -/
  | drop (slot : Nat)
  /-- A connection ends that has no slot. -/
  | finish (id : Nat)
  /-- A turn is given out. -/
  | turn (count : Nat)
  /-- A backend is picked. -/
  | select
  deriving DecidableEq, Repr, Inhabited

/-- What an operation gives. -/
inductive Answer where
  /-- The change of health, if there is one. -/
  | transition (change : Option Transition)
  /-- The slot of a connection, and how many the backend has. -/
  | began (slot active : Nat)
  /-- How many connections the backend still has; none if there was nothing to
  drop. -/
  | dropped (active : Option Nat)
  /-- How many connections the backend has. -/
  | finished (active : Nat)
  /-- The turn. -/
  | turn (index : Nat)
  /-- The backend that was picked. -/
  | selected (result : Except Unavailable Nat)
  /-- There is no such backend. -/
  | unknown (error : UnknownBackend)
  deriving Repr

/-- A fleet with the slots that were ever begun. -/
structure Ledger where
  /-- The fleet. -/
  fleet : Fleet
  /-- The backend of every slot, as long as it is open. -/
  slots : List (Option Nat) := []
  deriving DecidableEq, Repr, Inhabited

namespace Ledger

/-- How many slots of a backend are open. -/
def openSlots (id : Nat) (l : Ledger) : Nat :=
  l.slots.count (some id)

/-- Takes a signal's answer. -/
def signal (l : Ledger)
    (r : Except UnknownBackend (Option Transition × Fleet)) : Answer × Ledger :=
  match r with
  | .ok (t, fleet) => (.transition t, { l with fleet := fleet })
  | .error e => (.unknown e, l)

/-- How many connections a backend has; none if there is no such backend. -/
def activeOf (id : Nat) (f : Fleet) : Nat :=
  match f.pool.members[id]? with
  | some m => m.active
  | none => 0

/-- Performs one operation under the rules of selection. -/
def perform (rules : Selection) (op : Operation)
    (l : Ledger) : Answer × Ledger :=
  match op with
  | .success id => l.signal (l.fleet.recordSuccess id)
  | .failure id kind => l.signal (l.fleet.recordFailure id kind)
  | .probe id result => l.signal (l.fleet.recordProbe id result)
  | .outcome id outcome => l.signal (l.fleet.recordOutcome id outcome)
  | .begin id =>
    match l.fleet.beginConnection id with
    | .ok (n, fleet) => (.began l.slots.length n, ⟨fleet, l.slots ++ [some id]⟩)
    | .error e => (.unknown e, l)
  | .drop slot =>
    match l.slots[slot]? with
    | some (some id) =>
      match l.fleet.endConnection id with
      | .ok fleet =>
        (.dropped (some (activeOf id fleet)), ⟨fleet, l.slots.set slot none⟩)
      | .error e => (.unknown e, l)
    | _ => (.dropped none, l)
  | .finish id =>
    match l.fleet.endConnection id with
    | .ok fleet => (.finished (activeOf id fleet), { l with fleet := fleet })
    | .error e => (.unknown e, l)
  | .turn count =>
    match l.fleet.turn count with
    | (i, fleet) => (.turn i, { l with fleet := fleet })
  | .select =>
    match l.fleet.select rules with
    | (result, fleet) => (.selected result, { l with fleet := fleet })

/-- Performs a history, with the answers in its order. -/
def run (rules : Selection) : List Operation → Ledger → List Answer × Ledger
  | [], l => ([], l)
  | op :: rest, l =>
    let (answer, l) := l.perform rules op
    let (answers, l) := run rules rest l
    (answer :: answers, l)

/-- Drops every slot that is open. -/
def dropAll (rules : Selection) (l : Ledger) : Ledger :=
  (run rules ((List.range l.slots.length).map .drop) l).2

end Ledger

end Gateway
