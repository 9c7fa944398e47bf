import PeerCluster.Projection
import PeerCluster.Resolver

/-! Services pair a resolver with the source of changes that a task of its own works through. -/

namespace PeerCluster

/-- Items that wait in a feed, which carries either changes or notifications of changes. -/
inductive FeedQueue where
  | events (waiting : List (ChangeEvent Endpoint))
  | notifications (waiting : List (ChangeNotification Endpoint))
deriving DecidableEq, Repr

namespace FeedQueue

/-- How many items wait. -/
def length : FeedQueue → Nat
  | events waiting => waiting.length
  | notifications waiting => waiting.length

/-- Adds an item at the end, in the form in which the feed carries it. -/
def push (queue : FeedQueue) (kind : NotificationKind) (target : Endpoint) : FeedQueue :=
  match queue, kind with
  | events waiting, .add => events (waiting ++ [.add target])
  | events waiting, _ => events (waiting ++ [.remove target])
  | notifications waiting, kind => notifications (waiting ++ [⟨kind, target⟩])

/-- The same kind of feed with nothing waiting. -/
def cleared : FeedQueue → FeedQueue
  | events _ => events []
  | notifications _ => notifications []

end FeedQueue

/-- A source of endpoint changes that somebody fills by hand. -/
structure Feed where
  queue : FeedQueue
  /-- Whether somebody can still fill it. -/
  sending : Bool
  /-- Whether somebody can still take from it. -/
  listening : Bool
deriving DecidableEq, Repr

/-- Where a service takes its changes from. -/
inductive EventSource where
  /-- A subscription to a registry, seen through a projection. -/
  | membership (registry subscription : Nat) (projection : Projection)
  /-- A feed. -/
  | feed (feed : Nat)

/-- How far the task of a service is. -/
inductive TaskPhase where
  /-- It waits for its source. -/
  | parked
  /-- It waits for its turn. -/
  | ready
  /-- It waits for the turn at which it lets go of its source. -/
  | aborted
  /-- It has let go of its source. -/
  | finished
deriving DecidableEq, Repr

/-- A resolver, the balancer it fills, and the task that fills it. -/
structure Service where
  resolver : Resolver
  balancer : Nat
  source : EventSource
  task : TaskPhase
  /-- How many holders keep the resolver from being closed. -/
  owners : Nat

end PeerCluster
