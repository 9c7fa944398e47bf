import PeerCluster.Fabric.Service
import PeerCluster.Registry
import PeerCluster.Resolver.Pick

/-! The fabric holds everything that is shared, and runs the tasks of services when told to. -/

namespace PeerCluster

/-- Everything that can be reached from several places, and the services whose turn is due. -/
structure Fabric where
  registries : List Registry
  feeds : List Feed
  balancers : List RoundRobin
  services : List Service
  /-- The services with a turn due, in the order of their turns. -/
  due : List Nat

namespace Fabric

/-- The fabric that holds nothing. -/
def empty : Fabric :=
  ⟨[], [], [], [], []⟩

/-- The registry at a position. -/
def registry (fabric : Fabric) (id : Nat) : Registry :=
  fabric.registries.getD id .empty

/-- The feed at a position. -/
def feed (fabric : Fabric) (id : Nat) : Feed :=
  fabric.feeds.getD id ⟨.events [], false, false⟩

/-- The balancer at a position. -/
def balancer (fabric : Fabric) (id : Nat) : RoundRobin :=
  fabric.balancers.getD id .empty

/-- How many items wait at a source. -/
def backlog (fabric : Fabric) : EventSource → Nat
  | .membership registry subscription _ => (fabric.registry registry).buffered subscription
  | .feed feed => (fabric.feed feed).queue.length

/-- Whether nothing comes to a source any more. -/
def isDry (fabric : Fabric) : EventSource → Bool
  | .membership registry _ _ => !(fabric.registry registry).lives
  | .feed feed => !(fabric.feed feed).sending

/-- Whether the task of a service would find an item, or the end, at its source. -/
def hasWork (fabric : Fabric) (source : EventSource) : Bool :=
  fabric.backlog source ≠ 0 || fabric.isDry source

/-- Gives a turn to every waiting task whose source has something for it, oldest service first. -/
def wake (fabric : Fabric) : Fabric :=
  let isWoken (service : Service) := service.task = .parked && fabric.hasWork service.source
  let woken := (fabric.services.zipIdx.filter fun entry => isWoken entry.1).map Prod.snd
  { fabric with
    services := fabric.services.map fun service =>
      if isWoken service then { service with task := .ready } else service
    due := fabric.due ++ woken }

/-- Puts a changed registry back and gives a turn to the tasks that waited for the change. -/
def setRegistry (fabric : Fabric) (id : Nat) (registry : Registry) : Fabric :=
  wake { fabric with registries := fabric.registries.set id registry }

/-- Puts a changed feed back and gives a turn to the task that waited for the change. -/
def setFeed (fabric : Fabric) (id : Nat) (feed : Feed) : Fabric :=
  wake { fabric with feeds := fabric.feeds.set id feed }

/-- Puts a changed balancer back. -/
def setBalancer (fabric : Fabric) (id : Nat) (balancer : RoundRobin) : Fabric :=
  { fabric with balancers := fabric.balancers.set id balancer }

/-- Puts a changed service back. -/
def setService (fabric : Fabric) (id : Nat) (service : Service) : Fabric :=
  { fabric with services := fabric.services.set id service }

/-- Adds a registry; the answer is its position. -/
def addRegistry (fabric : Fabric) : Nat × Fabric :=
  (fabric.registries.length, { fabric with registries := fabric.registries ++ [.empty] })

/-- Adds a feed that carries items of one kind; the answer is its position. -/
def addFeed (fabric : Fabric) (queue : FeedQueue) : Nat × Fabric :=
  (fabric.feeds.length, { fabric with feeds := fabric.feeds ++ [⟨queue, true, true⟩] })

/-- Adds a balancer; the answer is its position. -/
def addBalancer (fabric : Fabric) : Nat × Fabric :=
  (fabric.balancers.length, { fabric with balancers := fabric.balancers ++ [.empty] })

/-- Fills an item into a feed, if somebody can still take it; the answer tells. -/
def send (fabric : Fabric) (id : Nat) (kind : NotificationKind) (target : Endpoint) :
    Bool × Fabric :=
  let feed := fabric.feed id
  if feed.listening then
    (true, fabric.setFeed id { feed with queue := feed.queue.push kind target })
  else
    (false, fabric)

/-- Lets go of a source: a subscription is cancelled, a feed refuses further items. -/
def letGo (fabric : Fabric) : EventSource → Logged Fabric
  | .membership registry subscription _ =>
    ((fabric.registry registry).cancel subscription).map (fabric.setRegistry registry)
  | .feed id =>
    let feed := fabric.feed id
    .quiet (fabric.setFeed id { feed with listening := false, queue := feed.queue.cleared })

/-- Creates a service whose task has its first turn due; without a place to run it there is none. -/
def addService (fabric : Fabric) (role : String) (balancer : Nat) (source : EventSource)
    (runtime : Bool) : Logged (Except ClusterError Nat × Fabric) :=
  if runtime then
    let id := fabric.services.length
    let resolver := Resolver.forRole role
    ⟨(.ok id, { fabric with
        services := fabric.services ++ [⟨resolver, balancer, source, .ready, 1⟩]
        due := fabric.due ++ [id] }),
      [resolver.record .debug "resolver created" []]⟩
  else
    (fabric.letGo source).map fun fabric => (.error (.runtimeUnavailable role), fabric)

/-- Creates a service over a new subscription to a registry, with a balancer of its own. -/
def follow (fabric : Fabric) (registry : Nat) (projection : Projection) (runtime : Bool) :
    Logged (Except ClusterError Nat × Fabric) := do
  let (subscription, changed) ← (fabric.registry registry).subscribe
  let (balancer, fabric) := (fabric.setRegistry registry changed).addBalancer
  fabric.addService projection.label balancer (.membership registry subscription projection) runtime

/-- How many live changes a task takes in one turn; with that many taken it lets others go on. -/
def turnLimit : Nat := 128

/-- How many turns are given before a task that let others go on gets its next one. -/
def roundLimit : Nat := 61

/-- Puts back what a task worked on, and lets go of the source if the task is through with it. -/
def settle {α : Type} (fabric : Fabric) (id : Nat) (service : Service)
    (consumed : Resolver.Consumed α) (tail : DrainTail) : Logged Fabric := do
  let fabric := fabric.setBalancer service.balancer consumed.balancer
  let service := { service with resolver := consumed.resolver }
  let through := { service with task := .finished }
  match consumed.unread?, tail with
  | some _, _ => (fabric.setService id through).letGo service.source
  | none, .finished => do
    Logged.emit (service.resolver.record .warn "upstream event stream ended" [])
    (fabric.setService id through).letGo service.source
  | none, .pending => return fabric.setService id { service with task := .parked }
  | none, .limit => return fabric.setService id { service with task := .ready }

/--
Gives a service its turn: its task works through what its source has ready. Members to replay and
items of a feed are all taken, live changes up to the limit of a turn.
-/
def turn (fabric : Fabric) (id : Nat) : Logged Fabric :=
  match fabric.services[id]? with
  | none => .quiet fabric
  | some service =>
    let balancer := fabric.balancer service.balancer
    match service.task, service.source with
    | .aborted, source => (fabric.setService id { service with task := .finished }).letGo source
    | .ready, .membership registryId subscription projection => do
      let registry := fabric.registry registryId
      let limit := registry.replaying subscription + turnLimit
      let (drained, changed) := registry.drain subscription limit
      let consumed ← service.resolver.consume
        (fun event => .quiet (.ok (projection.projectEvent event))) balancer drained.items
      (fabric.setRegistry registryId changed).settle id service consumed drained.tail
    | .ready, .feed feedId => do
      let feed := fabric.feed feedId
      let tail := if feed.sending then DrainTail.pending else .finished
      match feed.queue with
      | .events waiting => do
        let consumed ← service.resolver.consume (fun event => .quiet (.ok event)) balancer waiting
        (fabric.setFeed feedId { feed with queue := .events [] }).settle id service consumed tail
      | .notifications waiting => do
        let consumed ← service.resolver.consume ChangeNotification.toEvent balancer waiting
        let rest := FeedQueue.notifications (consumed.unread?.getD [])
        (fabric.setFeed feedId { feed with queue := rest }).settle id service consumed tail
    | _, _ => .quiet fabric

/-- Whether the task of a service could use another turn. -/
def isReady (fabric : Fabric) (id : Nat) : Bool :=
  fabric.services[id]?.any (·.task = .ready)

/-- Gives turns in order; the answer names who could use another turn, the latest first. -/
def turns (fabric : Fabric) : List Nat → Logged (List Nat × Fabric)
  | [] => .quiet ([], fabric)
  | id :: rest => do
    let fabric ← fabric.turn id
    let (unfinished, after) ← fabric.turns rest
    return (if fabric.isReady id then unfinished ++ [id] else unfinished, after)

/-- Gives a round of turns; who could use another turn comes first in the next round. -/
def round (fabric : Fabric) : Logged Fabric := do
  let (given, waiting) := fabric.due.splitAt roundLimit
  let (unfinished, fabric) ← { fabric with due := waiting }.turns given
  return { fabric with due := unfinished ++ fabric.due }

/-- Gives rounds of turns until no turn is due, up to a number of them. -/
def rounds (fabric : Fabric) : Nat → Logged Fabric
  | 0 => .quiet fabric
  | limit + 1 =>
    if fabric.due.isEmpty then .quiet fabric
    else do
      let fabric ← fabric.round
      fabric.rounds limit

/-- How many turns the task of a service can use at most. -/
def turnsLeft (fabric : Fabric) (id : Nat) : Nat :=
  match fabric.services[id]? with
  | some service => fabric.backlog service.source + 1
  | none => 1

/-- Gives turns until every task waits. -/
def run (fabric : Fabric) : Logged Fabric :=
  -- Who can use another turn has taken items in this one, so this many rounds are enough.
  fabric.rounds (fabric.due.foldl (fun total id => total + fabric.turnsLeft id) 0)

/-- Tells the task of a service to let go of its source at its next turn. -/
def abort (fabric : Fabric) (id : Nat) (service : Service) : Fabric :=
  match service.task with
  | .parked =>
    { fabric with
      services := fabric.services.set id { service with task := .aborted }
      due := fabric.due ++ [id] }
  | .ready => fabric.setService id { service with task := .aborted }
  | _ => fabric.setService id service

/-- Closes the resolver of a service and tells its task to stop. -/
def close (fabric : Fabric) (id : Nat) : Logged Fabric :=
  match fabric.services[id]? with
  | none => .quiet fabric
  | some service => do
    let (resolver, balancer) ← service.resolver.close (fabric.balancer service.balancer)
    return (fabric.setBalancer service.balancer balancer).abort id { service with resolver }

/-- Lets one more holder keep a resolver from being closed. -/
def retainService (fabric : Fabric) (id : Nat) : Fabric :=
  match fabric.services[id]? with
  | none => fabric
  | some service => fabric.setService id { service with owners := service.owners + 1 }

/-- Takes a resolver away from one holder; with the last one it is closed. -/
def releaseService (fabric : Fabric) (id : Nat) : Logged Fabric :=
  match fabric.services[id]? with
  | none => .quiet fabric
  | some service =>
    let fabric := fabric.setService id { service with owners := service.owners - 1 }
    if service.owners = 1 then fabric.close id else .quiet fabric

/-- Polls a pick of a service; the answer tells also whether it was woken for this. -/
def pollPick (fabric : Fabric) (id : Nat) (pick : Pick) : (Poll Choice × Bool) × Pick × Fabric :=
  match fabric.services[id]? with
  | none => ((.finished, false), pick, fabric)
  | some service =>
    let (answer, rest, balancer) := pick.poll service.resolver (fabric.balancer service.balancer)
    ((answer, pick.isWoken service.resolver), rest, fabric.setBalancer service.balancer balancer)

/-- Polls a stream of picks of a service; the answer tells also whether it was woken for this. -/
def pollPicks (fabric : Fabric) (id : Nat) (stream : PickStream) :
    (Poll Choice × Bool) × PickStream × Fabric :=
  match fabric.services[id]? with
  | none => ((.finished, false), stream, fabric)
  | some service =>
    let (answer, rest, balancer) := stream.poll service.resolver (fabric.balancer service.balancer)
    ((answer, stream.isWoken service.resolver), rest,
      fabric.setBalancer service.balancer balancer)

end Fabric

end PeerCluster
