import Gateway.Pool.Basic

/-!
# Policies

A policy picks one of several candidates, which stand in the order of the pool.
All policies take their turns from the one cursor of the pool, and no policy
takes a turn where there is no candidate.
-/

namespace Gateway

/-- How a backend is picked among those that can take a request. -/
inductive Policy where
  /-- One after the other. -/
  | roundRobin
  /-- One after the other, each as often in a row as its weight says. -/
  | weightedRoundRobin
  /-- One with the fewest connections, equals one after the other. -/
  | leastConnections
  deriving DecidableEq, Repr, Inhabited

/-- A member of a pool with its number. -/
structure Candidate where
  /-- The number. -/
  id : Nat
  /-- The member. -/
  member : Member
  deriving DecidableEq, Repr

namespace Policy

/-- The word for a policy. -/
def label : Policy → String
  | .roundRobin => "round_robin"
  | .weightedRoundRobin => "weighted_round_robin"
  | .leastConnections => "least_connections"

/-- The name of a policy in a report. -/
def name : Policy → String
  | .roundRobin => "RoundRobin"
  | .weightedRoundRobin => "WeightedRoundRobin"
  | .leastConnections => "LeastConnections"

/-- Every policy. -/
def all : List Policy :=
  [.roundRobin, .weightedRoundRobin, .leastConnections]

/-- The policy of a word. -/
def ofLabel? (word : String) : Option Policy :=
  all.find? fun policy => policy.label == word

/-- All weights together. -/
def totalWeight (candidates : List Candidate) : Nat :=
  candidates.foldr (fun c total => c.member.backend.weight + total) 0

/-- The candidate whose share a turn falls into, where each has as many turns as
its weight. -/
def shareOf : (candidates : List Candidate) → (turn : Nat) → Option Candidate
  | [], _ => none
  | c :: rest, turn =>
    if turn < c.member.backend.weight then some c
    else shareOf rest (turn - c.member.backend.weight)

/-- The candidates with the fewest connections. -/
def leastLoaded (candidates : List Candidate) : List Candidate :=
  match (candidates.map fun c => c.member.active).min? with
  | none => []
  | some least => candidates.filter fun c => c.member.active == least

/-- Picks the candidate whose turn it is. -/
def rotate (candidates : List Candidate) (p : Pool) : Option Nat × Pool :=
  if candidates = [] then (none, p)
  else
    let (i, q) := p.turn candidates.length
    (candidates[i]?.map (·.id), q)

/-- Picks a candidate by its number. -/
def pick (policy : Policy) (candidates : List Candidate)
    (p : Pool) : Option Nat × Pool :=
  match policy with
  | .roundRobin => rotate candidates p
  | .weightedRoundRobin =>
    if candidates = [] then (none, p)
    else
      let (i, q) := p.turn (totalWeight candidates)
      (((shareOf candidates i).or candidates.head?).map (·.id), q)
  | .leastConnections => rotate (leastLoaded candidates) p

/-- Picks several times, one after the other, without any connection in
between. -/
def pickTimes (policy : Policy) (candidates : List Candidate) :
    (times : Nat) → Pool → List (Option Nat) × Pool
  | 0, p => ([], p)
  | times + 1, p =>
    let (first, p) := policy.pick candidates p
    let (more, p) := policy.pickTimes candidates times p
    (first :: more, p)

end Policy

end Gateway
