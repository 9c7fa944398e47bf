import PeerCluster.Config
import PeerCluster.Error
import PeerCluster.Projection

/-! Launchers start and stop the nodes of a cluster; a cluster works with any of them. -/

namespace PeerCluster

/-- Everything that a launcher needs to know about a node. -/
structure NodeSpec where
  appName : String
  /-- The name under which the node announces itself. -/
  vipAddress : String
  address : PeerAddress
  shutdownPort : UInt16
  adminPort : UInt16
  retry : Duration
deriving DecidableEq, Repr

/-- How a node is doing. -/
inductive NodeState where
  | starting | up | down
deriving DecidableEq, Repr

/-- The word for a node's state. -/
def NodeState.name : NodeState → String
  | starting => "Starting"
  | up => "Up"
  | down => "Down"

/-- What a launcher answers, what it is afterwards, and the subscriptions it let go of. -/
structure LauncherReply (σ α : Type) where
  result : Except ClusterError α
  launcher : σ
  released : List Nat

/-- A launcher with state `σ` that names its nodes by handles `η`. -/
structure Launcher (σ η : Type) where
  /-- Starts a node that follows the endpoints which it replicates from. -/
  launch : σ → NodeSpec → EndpointEvents → LauncherReply σ η
  /-- Stops a node. -/
  stop : σ → η → LauncherReply σ Unit
  /-- Tells how a node is doing. -/
  state : σ → η → NodeState

end PeerCluster
