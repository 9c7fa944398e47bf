import PeerCluster.Poll
import PeerCluster.RoundRobin

/-! Resolvers hand out the candidates of a balancer until they are closed or their source fails. -/

namespace PeerCluster

/-- What a resolver can still do. -/
inductive ResolverStatus where
  /-- Candidates are handed out. -/
  | serving
  /-- The owner ended the service. -/
  | closed
  /-- The source of changes broke a rule. -/
  | failed (error : ClusterError)
deriving DecidableEq, Repr

/-- The part of a resolver that its picks and its driver share. -/
structure Resolver where
  role : String
  status : ResolverStatus
  /-- How often something happened that a waiting pick has to look at. -/
  changes : Nat
deriving DecidableEq, Repr

namespace Resolver

/-- The resolver for a role that nothing has happened to yet. -/
def forRole (role : String) : Resolver :=
  ⟨role, .serving, 0⟩

/-- The error that every pick answers once the service is over. -/
def terminalError? (resolver : Resolver) : Option ClusterError :=
  match resolver.status with
  | .serving => none
  | .closed => some (.resolverClosed resolver.role)
  | .failed error => some error

/-- A resolver that serves no longer is closed to its users, for whatever reason. -/
def isClosed (resolver : Resolver) : Bool :=
  resolver.terminalError?.isSome

/-- A record of the resolver that starts with its role. -/
def record (resolver : Resolver) (level : LogLevel) (message : String)
    (fields : List (String × LogValue)) : LogRecord :=
  ⟨level, .resolver, message, ("resolver.role", .rendered resolver.role) :: fields⟩

/-- Enters a new status if the service is not over yet, and lets waiting picks know. -/
def moveTo (resolver : Resolver) (status : ResolverStatus) : Resolver :=
  match resolver.status with
  | .serving => { resolver with status, changes := resolver.changes + 1 }
  | _ => resolver

/-- Applies a change to the pool and lets waiting picks know. -/
def apply (resolver : Resolver) (balancer : RoundRobin) (event : ChangeEvent Endpoint) :
    Logged (Resolver × RoundRobin) :=
  (balancer.onEvent event).map fun balancer => (resolver.moveTo .serving, balancer)

/-- Ends the service because the source of changes broke a rule. -/
def fail (resolver : Resolver) (error : ClusterError) (balancer : RoundRobin) :
    Logged (Resolver × RoundRobin) :=
  ⟨(resolver.moveTo (.failed error), balancer.shutdown),
    [resolver.record .error "upstream invariant violation stopped the resolver"
      [error.codeField, error.messageField]]⟩

/-- Ends the service on the owner's wish; a service that is over keeps its status. -/
def close (resolver : Resolver) (balancer : RoundRobin) : Logged (Resolver × RoundRobin) :=
  ⟨(resolver.moveTo .closed, balancer.shutdown),
    if resolver.isClosed then [] else [resolver.record .debug "resolver closed" []]⟩

/-- What the driver of a resolver leaves behind when it has worked through its items. -/
structure Consumed (α : Type) where
  resolver : Resolver
  balancer : RoundRobin
  /-- Items after the one that the resolver failed on, if it failed. -/
  unread? : Option (List α)

/-- Applies items in order, reading each as a change, and stops at the first that is none. -/
def consume {α : Type} (read : α → Logged (Except ClusterError (ChangeEvent Endpoint)))
    (resolver : Resolver) (balancer : RoundRobin) : List α → Logged (Consumed α)
  | [] => .quiet ⟨resolver, balancer, none⟩
  | item :: rest => do
    match ← read item with
    | .ok event =>
      let (resolver, balancer) ← resolver.apply balancer event
      consume read resolver balancer rest
    | .error error =>
      let (resolver, balancer) ← resolver.fail error balancer
      return ⟨resolver, balancer, some rest⟩

end Resolver

instance : Outline Resolver where
  outline resolver :=
    match resolver.status with
    | .serving =>
      Text.recordOutline "Open" [("generation", outline resolver.changes)]
    | .closed => "Closed"
    | .failed error => Text.wrappedOutline "Failed" (outline error)

/-- The outline of a resolver together with the candidates it can hand out. -/
def Resolver.outlineWith (resolver : Resolver) (balancer : RoundRobin) : String :=
  Text.recordOutline "Resolver" [
    ("role", outline resolver.role), ("state", outline resolver),
    ("candidates", outline balancer.candidateCount)]

end PeerCluster
