import PeerCluster.Event

/-! The round-robin balancer: a pool of candidates and the place where the next turn falls. -/

namespace PeerCluster

/-- Candidates in order of joining, each as often as it was added, and a cursor into them. -/
structure RoundRobin where
  pool : List Endpoint
  cursor : Nat
  shutDown : Bool
deriving DecidableEq, Repr

namespace RoundRobin

/-- The balancer without candidates. -/
def empty : RoundRobin :=
  ⟨[], 0, false⟩

/-- Takes the oldest equal candidate out, so that everybody else keeps their turn. -/
def discard (balancer : RoundRobin) (candidate : Endpoint) : Logged RoundRobin :=
  match balancer.pool.findIdx? (· == candidate) with
  | none =>
    ⟨balancer, [⟨.trace, .balancer, "remove for unknown endpoint ignored",
      [("endpoint", .rendered candidate.text)]⟩]⟩
  | some position =>
    let pool := balancer.pool.eraseIdx position
    -- A slot before the cursor moves everybody at and after the cursor down by one.
    let cursor := if position < balancer.cursor then balancer.cursor - 1 else balancer.cursor
    .quiet { balancer with pool, cursor := if pool.length ≤ cursor then 0 else cursor }

/-- Applies a change to the pool; after the end there is nothing left to change. -/
def onEvent (balancer : RoundRobin) (event : ChangeEvent Endpoint) : Logged RoundRobin :=
  if balancer.shutDown then .quiet balancer
  else
    match event with
    | .add candidate => .quiet { balancer with pool := balancer.pool ++ [candidate] }
    | .remove candidate => balancer.discard candidate

/-- Gives the turn to the candidate at the cursor and moves on, around the end of the pool. -/
def choose (balancer : RoundRobin) : Option Endpoint × RoundRobin :=
  if balancer.shutDown then (none, balancer)
  else
    let index := balancer.cursor % balancer.pool.length
    match balancer.pool[index]? with
    | none => (none, balancer)
    | some candidate =>
      (some candidate, { balancer with cursor := (index + 1) % balancer.pool.length })

/-- Gives a number of turns, one after the other. -/
def chooseMany : Nat → RoundRobin → List (Option Endpoint) × RoundRobin
  | 0, balancer => ([], balancer)
  | times + 1, balancer =>
    let (choice, next) := balancer.choose
    let (choices, final) := chooseMany times next
    (choice :: choices, final)

/-- How many candidates can get a turn. -/
def candidateCount (balancer : RoundRobin) : Nat :=
  if balancer.shutDown then 0 else balancer.pool.length

/-- Ends the balancer for good and lets every candidate go. -/
def shutdown (_ : RoundRobin) : RoundRobin :=
  ⟨[], 0, true⟩

end RoundRobin

instance : Outline RoundRobin where
  outline balancer := Text.recordOutline "RoundRobinBalancer" [
    ("candidates", outline balancer.pool.length), ("cursor", outline balancer.cursor),
    ("shut_down", outline balancer.shutDown)]

end PeerCluster
