import PeerCluster.Projection
import PeerCluster.Registry.Subscription

/-! The registry of peers: an ordered membership whose changes go to every attached subscriber. -/

namespace PeerCluster

/-- The members in order of joining, and everything that subscribers have yet to see. -/
structure Registry where
  members : List PeerAddress
  /-- How many changes there have been. -/
  revision : Nat
  /-- The ids of the attached subscribers, oldest first. -/
  subscribers : List Nat
  /-- Every subscription ever opened; its position is its id. -/
  subscriptions : Array Subscription
  /-- How many holders can still reach the membership. -/
  handles : Nat
deriving DecidableEq, Repr

namespace Registry

/-- The registry without members that a single holder can reach. -/
def empty : Registry :=
  ⟨[], 0, [], #[], 1⟩

/-- A registry lives while somebody can reach its membership. -/
def lives (registry : Registry) : Bool :=
  registry.handles ≠ 0

/-- The id that the next subscription gets. -/
def nextId (registry : Registry) : Nat :=
  registry.subscriptions.size

/-- A record of the registry about one subscriber. -/
def subscriberRecord (message : String) (id : Nat) : LogRecord :=
  ⟨.trace, .registry, message, [("subscriber.id", .number id)]⟩

/-- A subscriber listens until its subscription is cancelled. -/
def listens (registry : Registry) (id : Nat) : Bool :=
  match registry.subscriptions[id]? with
  | some subscription => !subscription.cancelled
  | none => false

/-- Sends a change to every attached subscriber and strikes those off that no longer listen. -/
def publish (registry : Registry) (event : MemberEvent) : Logged Registry :=
  let deaf := registry.subscribers.filter fun id => !registry.listens id
  ⟨{ registry with
      revision := registry.revision + 1
      subscribers := registry.subscribers.filter registry.listens
      subscriptions := registry.subscribers.foldl
        (fun all id => all.modify id (·.receive event)) registry.subscriptions },
    deaf.map (subscriberRecord "pruning closed subscriber")⟩

/-- What the registry records about a member that joined or left at a position. -/
def changeRecord (message : String) (index : Nat) (peer : PeerAddress) (after : Registry) :
    LogRecord :=
  ⟨.debug, .registry, message, [
    ("peer.index", .number index), ("peer.host", .text peer.hostName),
    ("membership.size", .number after.members.length),
    ("membership.revision", .number after.revision)]⟩

/-- Appends a member and announces it; the answer is its position. -/
def add (registry : Registry) (peer : PeerAddress) : Logged (Nat × Registry) :=
  let index := registry.members.length
  let sent := publish { registry with members := registry.members ++ [peer] } (.add peer)
  ⟨(index, sent.value), sent.log ++ [changeRecord "peer added" index peer sent.value]⟩

/-- Takes the member at a position out and announces it; no other position is accepted. -/
def remove (registry : Registry) (index : Nat) :
    Logged (Except ClusterError PeerAddress × Registry) :=
  match registry.members[index]? with
  | none =>
    let error := ClusterError.peerIndexOutOfRange index registry.members.length
    ⟨(.error error, registry),
      [⟨.error, .registry, "peer index out of range on removal", [
        error.codeField, ("peer.index", .number index),
        ("membership.size", .number registry.members.length)]⟩]⟩
  | some peer =>
    let sent := publish { registry with members := registry.members.eraseIdx index } (.remove peer)
    ⟨(.ok peer, sent.value), sent.log ++ [changeRecord "peer removed" index peer sent.value]⟩

/-- Opens a subscription that starts at the members of this moment; the answer is its id. -/
def subscribe (registry : Registry) : Logged (Nat × Registry) :=
  let id := registry.nextId
  ⟨(id, { registry with
      subscribers := registry.subscribers ++ [id]
      subscriptions := registry.subscriptions.push (.startingAt registry.members) }),
    [⟨.trace, .registry, "subscriber attached", [
      ("subscriber.id", .number id), ("replay.len", .number registry.members.length),
      ("membership.revision", .number registry.revision)]⟩]⟩

/-- Opens a subscription that is seen as changes of the endpoints to replicate from. -/
def replicationPeers (registry : Registry) : Logged (EndpointEvents × Registry) :=
  registry.subscribe.map fun (id, registry) => (.replicating id, registry)

/-- Takes the next item of a subscription. -/
def poll (id : Nat) (registry : Registry) : Poll MemberEvent × Registry :=
  match registry.subscriptions[id]? with
  | none => (.finished, registry)
  | some subscription =>
    let (answer, rest) := subscription.poll registry.lives
    (answer, { registry with subscriptions := registry.subscriptions.setIfInBounds id rest })

/-- How many items a subscription has buffered. -/
def buffered (registry : Registry) (id : Nat) : Nat :=
  match registry.subscriptions[id]? with
  | none => 0
  | some subscription => subscription.buffered

/-- How many members a subscription has yet to replay. -/
def replaying (registry : Registry) (id : Nat) : Nat :=
  match registry.subscriptions[id]? with
  | none => 0
  | some subscription => subscription.replay.length

/-- Takes items of a subscription until none is ready, or up to a number of them. -/
def drain (registry : Registry) (id : Nat) (limit? : Option Nat) : Drained MemberEvent × Registry :=
  -- One more than what is buffered is never reached.
  PeerCluster.drain (poll id) (limit?.getD (registry.buffered id + 1)) registry

/-- Takes a subscriber off the list of those attached, as long as the registry lives. -/
def detach (registry : Registry) (id : Nat) : Logged Registry :=
  if registry.lives && registry.subscribers.contains id then
    ⟨{ registry with subscribers := registry.subscribers.filter (· ≠ id) },
      [subscriberRecord "subscriber detached" id]⟩
  else
    .quiet registry

/-- Ends a subscription for good; doing so again changes nothing. -/
def cancel (registry : Registry) (id : Nat) : Logged Registry :=
  match registry.subscriptions[id]? with
  | none => .quiet registry
  | some subscription =>
    if subscription.cancelled then .quiet registry
    else
      let subscriptions := registry.subscriptions.setIfInBounds id subscription.cancel
      detach { registry with subscriptions } id

/-- Lets one more holder reach the membership. -/
def retain (registry : Registry) : Registry :=
  { registry with handles := registry.handles + 1 }

/-- Takes the membership away from one holder. -/
def release (registry : Registry) : Registry :=
  { registry with handles := registry.handles - 1 }

end Registry

instance : Outline Registry where
  outline registry := Text.recordOutline "PeerRegistry" [
    ("members", outline registry.members.length),
    ("subscribers", outline registry.subscribers.length),
    ("revision", outline registry.revision)]

/-- The outline of a subscription under its id. -/
def Subscription.outlineAs (id : Nat) (subscription : Subscription) : String :=
  Text.recordOutline "MembershipStream" [
    ("id", outline id), ("replay_remaining", outline subscription.replay.length),
    ("cancelled", outline subscription.cancelled)]

end PeerCluster
