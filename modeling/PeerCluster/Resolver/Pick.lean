import PeerCluster.Resolver

/-! Picks wait for a candidate of a resolver, and streams of picks wait for one after the other. -/

namespace PeerCluster

/-- The answer of a resolver that a pick waits for. -/
abbrev Choice := Except ClusterError Endpoint

/-- A request for one candidate. -/
structure Pick where
  /-- How many changes of the resolver it has looked at, once it has looked at all. -/
  seen? : Option Nat
deriving DecidableEq, Repr

namespace Pick

/-- The request that has not looked at the resolver yet. -/
def fresh : Pick :=
  ⟨none⟩

/-- A waiting request is woken by the changes that it has not looked at. -/
def isWoken (pick : Pick) (resolver : Resolver) : Bool :=
  match pick.seen? with
  | none => false
  | some seen => seen ≠ resolver.changes

/-- Looks at the resolver, unless there is no change to look at since the last time. -/
def poll (pick : Pick) (resolver : Resolver) (balancer : RoundRobin) :
    Poll Choice × Pick × RoundRobin :=
  if pick.seen? = some resolver.changes then (.pending, pick, balancer)
  else
    match resolver.terminalError? with
    | some error => (.ready (.error error), pick, balancer)
    | none =>
      match balancer.choose with
      | (some candidate, balancer) => (.ready (.ok candidate), pick, balancer)
      | (none, balancer) => (.pending, ⟨some resolver.changes⟩, balancer)

end Pick

/-- A stream of answers, each asked for only when the one before it was taken. -/
inductive PickStream where
  /-- A request is under way. -/
  | picking (pick : Pick)
  /-- The last answer was given. -/
  | done
deriving DecidableEq, Repr

namespace PickStream

/-- The stream that has not asked for anything yet. -/
def fresh : PickStream :=
  .picking .fresh

/-- A waiting stream is woken together with the request under way. -/
def isWoken (stream : PickStream) (resolver : Resolver) : Bool :=
  match stream with
  | picking pick => pick.isWoken resolver
  | done => false

/-- Takes the next answer: closing ends the stream at once, a failure ends it after its error. -/
def poll (stream : PickStream) (resolver : Resolver) (balancer : RoundRobin) :
    Poll Choice × PickStream × RoundRobin :=
  match stream with
  | done => (.finished, done, balancer)
  | picking pick =>
    match pick.poll resolver balancer with
    | (.ready (.ok candidate), _, balancer) => (.ready (.ok candidate), fresh, balancer)
    | (.ready (.error (.resolverClosed _)), _, balancer) => (.finished, done, balancer)
    | (.ready (.error error), _, balancer) => (.ready (.error error), done, balancer)
    | (.pending, pick, balancer) => (.pending, picking pick, balancer)
    | (.finished, _, balancer) => (.finished, done, balancer)

end PickStream

end PeerCluster
