import PeerCluster.Proofs.Fabric.Handling

/-! Runs of a venue: registries, and consumers with streams and resolvers, who go by keys. -/

namespace PeerCluster

/-! ### What is asked -/

/-- What is asked of a registry through a handle, other than to open a stream. -/
inductive HandleCall where
  | add (peer : PeerAddress)
  | remove (index : Nat)
  | retain
  | release
deriving DecidableEq, Repr

/-- What is asked, as any holder of a handle or of a stream can ask it. -/
def HandleCall.toCall : HandleCall → RegistryCall
  | add peer => .add peer
  | remove index => .remove index
  | retain => .retain
  | release => .release

/-- What a new consumer is to take from. -/
inductive Origin where
  /-- A stream of a registry, seen through a projection or as it is. -/
  | stream (registry : Nat) (projection? : Option Projection)
  /-- A resolver that follows a registry, created in a place that runs its task or in none. -/
  | following (registry : Nat) (projection : Projection) (runtime : Bool)
  /-- A resolver that takes from a feed of its own, in which items may wait already. -/
  | consuming (role : String) (queue : FeedQueue) (runtime : Bool)

/-- What is asked of a stream by its holder, or by somebody who only looks at its counters. -/
inductive StreamRequest where
  | next
  | cancel
  | inspect
  | count
  | drop
deriving DecidableEq, Repr

/-- What a consumer can ask of what it has. -/
inductive Request where
  | stream (request : StreamRequest)
  | desk (request : DeskRequest)
deriving DecidableEq, Repr

/-- What holders of handles and consumers can ask, and the turns given to tasks. -/
inductive VenueCall where
  | openRegistry
  | handle (registry : Nat) (call : HandleCall)
  /-- Reads the members and the revision of a registry. -/
  | look (registry : Nat)
  /-- Makes a consumer that goes by a key from now on. -/
  | create (key : Nat) (origin : Origin)
  | ask (key : Nat) (request : Request)
  /-- Gives turns until every task waits. -/
  | run

/-- The consumer that a call is an operation of, if it is one of a consumer. -/
def VenueCall.asker? : VenueCall → Option Nat
  | create key _ | ask key _ => some key
  | openRegistry | handle .. | look _ | run => none

/-! ### What is answered -/

/-- What is answered to the holder of a stream. -/
inductive StreamAnswer where
  | done
  /-- Nobody holds the stream any more. -/
  | unreachable
  | item (item : Poll MemberEvent)
  /-- An item seen through a projection. -/
  | projected (item : Poll (ChangeEvent Endpoint))
  | inspected (replaying : Nat) (cancelled : Bool) (hint : Nat × Option Nat)
  | counted (published delivered depth : Nat)
deriving DecidableEq, Repr

/-- The answer that shows an item as the holder of a stream sees it. -/
def StreamAnswer.ofItem (projection? : Option Projection) (found : Poll MemberEvent) :
    StreamAnswer :=
  match projection? with
  | none => item found
  | some projection => projected (found.map projection.projectEvent)

/-- What is answered to a call. -/
inductive VenueAnswer where
  | done
  /-- Nobody has what this would have to be asked through. -/
  | unreachable
  | opened (registry : Nat)
  | handled (answer : RegistryAnswer)
  | looked (members : List PeerAddress) (revision : Nat)
  /-- A stream was created, with so many members to replay. -/
  | streaming (replaying : Nat)
  | failed (error : ClusterError)
  | stream (answer : StreamAnswer)
  | desk (answer : DeskAnswer)

/-! ### Venues -/

/-- What a consumer has, and where it is. -/
inductive Consumer where
  | stream (registry subscription : Nat) (projection? : Option Projection) (held : Bool)
  | resolver (service : Nat) (ledger : Ledger)

/-- A fabric, and the consumers who go by keys. -/
structure Venue where
  fabric : Fabric
  consumers : Nat → Option Consumer

namespace Venue

/-- The venue where nothing is and nobody. -/
def empty : Venue :=
  ⟨.empty, fun _ => none⟩

/-- Puts a consumer under a key. -/
def put (venue : Venue) (key : Nat) (consumer : Consumer) (fabric : Fabric) : Venue :=
  ⟨fabric, fun other => if other = key then some consumer else venue.consumers other⟩

/-- Puts a resolver under a key, or answers why there is none. -/
def putService (venue : Venue) (key : Nat) :
    Except ClusterError Nat × Fabric → VenueAnswer × Venue
  | (.ok service, fabric) => (.done, venue.put key (.resolver service .opened) fabric)
  | (.error error, fabric) => (.failed error, { venue with fabric })

end Venue

namespace Fabric

/-- Whether somebody has a handle of a registry. -/
def reachable (fabric : Fabric) (registry : Nat) : Bool :=
  registry < fabric.registries.length && (fabric.registry registry).lives

/-- Creates a resolver with a balancer and a feed of its own, in which items may wait already. -/
def consume (fabric : Fabric) (role : String) (queue : FeedQueue) (runtime : Bool) :
    Logged (Except ClusterError Nat × Fabric) :=
  let (feed, fabric) := fabric.addFeed queue
  let (balancer, fabric) := fabric.addBalancer
  fabric.addService role balancer (.feed feed) runtime

/-- Answers a request about a stream; the answer tells also whether it is still held. -/
def serveStream (fabric : Fabric) (registryId subscription : Nat)
    (projection? : Option Projection) (held : Bool) (request : StreamRequest) :
    StreamAnswer × Bool × Fabric :=
  let registry := fabric.registry registryId
  let found := registry.subscription subscription
  let ended := fabric.setRegistry registryId (registry.cancel subscription).value
  match held, request with
  | true, .next =>
    let (item, changed) := registry.poll subscription
    (.ofItem projection? item, held, fabric.setRegistry registryId changed)
  | true, .cancel => (.done, held, ended)
  | true, .inspect =>
    (.inspected found.replay.length found.cancelled found.sizeHint, held, fabric)
  | true, .drop => (.done, false, ended)
  | _, .count => (.counted found.published found.delivered found.depth, held, fabric)
  | false, _ => (.unreachable, held, fabric)

end Fabric

namespace Venue

/-- Makes a consumer that goes by a key from now on. -/
def create (venue : Venue) (key : Nat) : Origin → VenueAnswer × Venue
  | .stream registry projection? =>
    if venue.fabric.reachable registry then
      let (subscription, changed) := (venue.fabric.registry registry).subscribe.value
      (.streaming (changed.replaying subscription),
        venue.put key (.stream registry subscription projection? true)
          (venue.fabric.setRegistry registry changed))
    else (.unreachable, venue)
  | .following registry projection runtime =>
    if venue.fabric.reachable registry then
      venue.putService key (venue.fabric.follow registry projection runtime).value
    else (.unreachable, venue)
  | .consuming role queue runtime =>
    venue.putService key (venue.fabric.consume role queue runtime).value

/-- Answers a request about what goes by a key. -/
def ask (venue : Venue) (key : Nat) (request : Request) : VenueAnswer × Venue :=
  match venue.consumers key, request with
  | some (.stream registry subscription projection? held), .stream request =>
    let (answer, held, fabric) :=
      venue.fabric.serveStream registry subscription projection? held request
    (.stream answer, venue.put key (.stream registry subscription projection? held) fabric)
  | some (.resolver service ledger), .desk request =>
    let (answer, ledger, fabric) :=
      ledger.serve (Fabric.handling service) venue.fabric request
    (.desk answer, venue.put key (.resolver service ledger) fabric)
  | _, _ => (.unreachable, venue)

/-- Answers a call. -/
def perform (venue : Venue) (call : VenueCall) : VenueAnswer × Venue :=
  let fabric := venue.fabric
  match call with
  | .openRegistry => (.opened fabric.addRegistry.1, { venue with fabric := fabric.addRegistry.2 })
  | .handle id call =>
    if fabric.reachable id then
      let (answer, changed) := ((fabric.registry id).perform call.toCall).value
      (.handled answer, { venue with fabric := fabric.setRegistry id changed })
    else (.unreachable, venue)
  | .look id =>
    if fabric.reachable id then
      (.looked (fabric.registry id).members (fabric.registry id).revision, venue)
    else (.unreachable, venue)
  | .create key origin =>
    -- A key is given once.
    if (venue.consumers key).isSome then (.unreachable, venue) else venue.create key origin
  | .ask key request => venue.ask key request
  | .run => (.done, { venue with fabric := fabric.run.value })

-- What is logged goes to none of the consumers, and is left out.
instance : Machine Venue VenueCall VenueAnswer where
  perform venue call := .quiet (venue.perform call)

end Venue

end PeerCluster
