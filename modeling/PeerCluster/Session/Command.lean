import PeerCluster.Cluster
import PeerCluster.Fabric

/-! The commands that a session runs on objects it knows by name, and the answers it gives. -/

namespace PeerCluster

/-- Commands about registries and the streams of their changes. -/
inductive MembershipCommand where
  | create (name : String)
  /-- Names another holder of the same registry. -/
  | share (registry name : String)
  /-- Names a holder that can only look. -/
  | view (registry name : String)
  | add (registry : String) (peer : PeerAddress)
  | remove (registry : String) (index : Nat)
  | snapshot (registry : String)
  | describe (registry : String)
  | subscribe (registry name : String)
  /-- Subscribes and names the stream seen through a projection. -/
  | project (registry : String) (projection : Projection) (name : String)
  /-- Takes the next item of a stream, projected or not. -/
  | next (stream : String)
  /-- Takes items of a stream, projected or not. -/
  | drain (stream : String) (limit? : Option Nat)
  | cancel (stream : String)
  | inspect (stream : String)
  /-- Names the counters of a stream, projected or not. -/
  | probe (stream name : String)
  | count (probe : String)
  /-- Names the stream behind a projection, which the projection lets go of. -/
  | unwrap (stream name : String)

/-- Commands about balancers, feeds, resolvers and picks. -/
inductive ServiceCommand where
  | createBalancer (name : String)
  | apply (balancer : String) (event : ChangeEvent Endpoint)
  | choose (balancer : String) (times : Nat)
  | shutdown (balancer : String)
  | inspectBalancer (balancer : String)
  | createFeed (queue : FeedQueue) (name : String)
  | send (feed : String) (kind : NotificationKind) (target : Endpoint)
  /-- Creates a resolver that follows a registry, and with it a cluster. -/
  | follow (registry : String) (projection : Projection) (runtime : Bool) (name : String)
  /-- Creates a resolver over a feed, with a named balancer or one of its own. -/
  | consume (role feed : String) (balancer? : Option String) (runtime : Bool) (name : String)
  /-- Starts a pick, which keeps the name only if it has to wait. -/
  | pick (resolver name : String)
  | pollPick (pick : String)
  | resolve (resolver name : String)
  | nextPick (stream : String)
  | close (resolver : String)
  | inspect (resolver : String)

/-- What a new cluster is set up with. -/
inductive ClusterSource where
  | standard
  | overrides (overrides : SettingOverrides)
  | text (text : String)

/-- Commands about embedded clusters, whose launchers are recorders. -/
inductive ClusterCommand where
  | create (source : ClusterSource) (dropsStreams : Bool) (name : String)
  | scriptLaunches (cluster : String) (results : List (Option ClusterError))
  | scriptStops (cluster : String) (results : List (Option ClusterError))
  | setState (cluster : String) (handle : Nat) (state : NodeState)
  | up (cluster : String)
  | upMany (cluster : String) (count : Nat)
  | down (cluster : String) (index : Nat)
  | shutdown (cluster : String)
  | report (cluster : String)
  | inspect (cluster : String)
  | spec (cluster : String) (handle : Nat)
  | drainNode (cluster : String) (handle : Nat) (limit? : Option Nat)

/-- Everything that a session can be told to do. -/
inductive Command where
  | membership (command : MembershipCommand)
  | service (command : ServiceCommand)
  | cluster (command : ClusterCommand)
  /-- Forgets a name and drops the object behind it. -/
  | drop (name : String)
  /-- Lets the task of every resolver run until it waits. -/
  | runTasks

/-- What a session answers to a command. -/
inductive Answer where
  | done
  | flag (value : Bool)
  | number (value : Nat)
  | numbers (values : List Nat)
  | label (value : String)
  | peer (peer : PeerAddress)
  | peers (peers : List PeerAddress)
  | choices (choices : List (Option Endpoint))
  | config (config : ClusterConfig)
  | failed (error : ClusterError)
  | registry (registry : Registry) (outline : String)
  /-- A stream was opened or taken over. -/
  | opened (id replay : Nat)
  | memberItem (item : Poll MemberEvent)
  | endpointItem (item : Poll (ChangeEvent Endpoint))
  | memberItems (items : Drained MemberEvent)
  | endpointItems (items : Drained (ChangeEvent Endpoint))
  | stream (id : Nat) (subscription : Subscription)
  | projected (id : Nat) (subscription : Subscription) (projection : Projection)
  | counters (published delivered depth : Nat)
  | balancer (balancer : RoundRobin)
  /-- The answer to a pick, and whether it was woken for it. -/
  | choice (choice : Poll Choice) (woken : Bool)
  /-- There is no pick to ask. -/
  | noPick
  | resolver (resolver : Resolver) (balancer : RoundRobin)
  | report (nodes : List NodeReport)
  | cluster (size members launched : Nat) (stopped : List Nat) (outline : String)
  | spec (spec? : Option NodeSpec)
  /-- The stream of the node is not held any more. -/
  | notHeld
  /-- The command names something that is not there or is of another kind. -/
  | misuse

end PeerCluster
