import PeerCluster.Cluster
import PeerCluster.Proofs.Registry.Calls

/-! Runs of a cluster: its operations, and what others ask of its membership in between. -/

namespace PeerCluster

/-- What the owner of a cluster asks of it, and what others ask of its membership. -/
inductive ClusterCall where
  /-- Starts one more node. -/
  | up
  /-- Starts several nodes, one after the other. -/
  | upMany (count : Nat)
  /-- Stops the node at a position. -/
  | down (index : Nat)
  /-- Stops every node. -/
  | shutdown
  /-- Something that is asked of the membership past the cluster. -/
  | membership (call : RegistryCall)
deriving DecidableEq, Repr

/-- What is answered to a call. -/
inductive ClusterAnswer where
  | done
  | index (index : Nat)
  | indices (indices : List Nat)
  | address (address : PeerAddress)
  | failed (error : ClusterError)
  | membership (answer : RegistryAnswer)
deriving DecidableEq, Repr

/-- Whether a call changes the membership past the cluster. -/
def ClusterCall.bypassesCluster : ClusterCall → Bool
  | membership (.add _) | membership (.remove _) => true
  | _ => false

/-- A cluster at work with a launcher, and the registry that is its membership. -/
structure Deployment (σ η : Type) where
  launchers : Launcher σ η
  cluster : Cluster σ η
  registry : Registry

namespace Deployment

variable {σ η α : Type}

/-- A new cluster with its own registry, to which it has the only handle. -/
def start (launchers : Launcher σ η) (config : ClusterConfig) (launcher : σ) : Deployment σ η :=
  ⟨launchers, .ofConfig config launcher, .empty⟩

/-- Answers a call by the result of an operation, and goes on with what the operation left. -/
def conclude (deployment : Deployment σ η) (answer : α → ClusterAnswer)
    (outcome : Logged (Except ClusterError α × Cluster σ η × Registry)) :
    -- What was logged is kept, since the answer is a view of the result.
    Logged (ClusterAnswer × Deployment σ η) :=
  outcome.map fun (result, cluster, registry) =>
    (match result with
      | .ok value => answer value
      | .error error => .failed error,
    { deployment with cluster, registry })

/-- Answers what is asked of the membership past the cluster. -/
def consult (deployment : Deployment σ η) (call : RegistryCall) :
    Logged (ClusterAnswer × Deployment σ η) :=
  -- The cluster never drops its own handle, so the last one is nobody's to drop.
  if call = .release && deployment.registry.handles ≤ 1 then
    .quiet (.membership .unreachable, deployment)
  else
    (deployment.registry.perform call).map fun (answer, registry) =>
      (.membership answer, { deployment with registry })

/-- Answers a call. -/
def perform (deployment : Deployment σ η) (call : ClusterCall) :
    Logged (ClusterAnswer × Deployment σ η) :=
  -- The state is taken apart once, so that each operation gets the parts that it works on.
  let ⟨launchers, cluster, registry⟩ := deployment
  match call with
  | .up => deployment.conclude .index (cluster.scaleUpByOne launchers registry)
  | .upMany count => deployment.conclude .indices (cluster.scaleUp launchers count registry)
  | .down index => deployment.conclude .address (cluster.scaleDownByOne launchers registry index)
  | .shutdown => deployment.conclude (fun _ => .done) (cluster.shutdown launchers registry)
  | .membership call => deployment.consult call

instance : Machine (Deployment σ η) ClusterCall ClusterAnswer where
  perform := perform

/-- A request for one more node is answered by what the attempt to grow comes to. -/
theorem perform_up (deployment : Deployment σ η) :
    Machine.perform deployment .up = deployment.conclude .index
      (deployment.cluster.scaleUpByOne deployment.launchers deployment.registry) := by
  obtain ⟨launchers, cluster, registry⟩ := deployment
  rfl

/-- A request for several nodes is answered by what the attempts to grow come to. -/
theorem perform_upMany (deployment : Deployment σ η) (count : Nat) :
    Machine.perform deployment (.upMany count) = deployment.conclude .indices
      (deployment.cluster.scaleUp deployment.launchers count deployment.registry) := by
  obtain ⟨launchers, cluster, registry⟩ := deployment
  rfl

/-- A request to stop a node is answered by what the attempt to shrink comes to. -/
theorem perform_down (deployment : Deployment σ η) (index : Nat) :
    Machine.perform deployment (.down index) = deployment.conclude .address
      (deployment.cluster.scaleDownByOne deployment.launchers deployment.registry index) := by
  obtain ⟨launchers, cluster, registry⟩ := deployment
  rfl

end Deployment

end PeerCluster
