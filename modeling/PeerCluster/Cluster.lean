import PeerCluster.Cluster.Launcher
import PeerCluster.Registry

/-! An embedded cluster grows and shrinks by one node at a time, in step with a registry. -/

namespace PeerCluster

/-- A node that was launched and not stopped yet. -/
structure RunningNode (η : Type) where
  spec : NodeSpec
  handle : η
deriving DecidableEq, Repr

/-- The cluster's own state; its membership is a registry that goes with it. -/
structure Cluster (σ η : Type) where
  config : ClusterConfig
  launcher : σ
  allocator : PortAllocator
  /-- The running nodes; each stands where its address stands in the membership. -/
  servers : List (RunningNode η)

/-- What is reported about a node. -/
structure NodeReport where
  index : Nat
  address : PeerAddress
  shutdownPort : UInt16
  adminPort : UInt16
  state : NodeState
deriving DecidableEq, Repr

namespace Registry

/-- Ends several subscriptions in order. -/
def cancelAll (registry : Registry) : List Nat → Logged Registry
  | [] => .quiet registry
  | id :: rest => do
    let registry ← registry.cancel id
    registry.cancelAll rest

end Registry

namespace Cluster

variable {σ η : Type}

/-- The cluster without nodes. -/
def ofConfig (config : ClusterConfig) (launcher : σ) : Cluster σ η :=
  ⟨config, launcher, .ofLayout config.ports, []⟩

/-- How many nodes are running. -/
def size (cluster : Cluster σ η) : Nat :=
  cluster.servers.length

/-- What the launcher is told about the node that gets a block of ports. -/
def specFor (cluster : Cluster σ η) (ports : NodePorts) : NodeSpec where
  appName := cluster.config.appName
  vipAddress := cluster.config.appName
  address := ports.peerAddress cluster.config.hostName
  shutdownPort := ports.shutdown
  adminPort := ports.admin
  retry := cluster.config.retry

/-- A record of the cluster. -/
def record (level : LogLevel) (message : String) (fields : List (String × LogValue)) : LogRecord :=
  ⟨level, .cluster, message, fields⟩

/-- The error that a node is not the member at its position. -/
def driftError (index : Nat) (spec : NodeSpec) : ClusterError :=
  .membershipDrift index spec.address.text

/-- Undoes a launch whose node was registered at a position that is not its own. -/
def abandonLaunch (launchers : Launcher σ η) (cluster : Cluster σ η) (registry : Registry)
    (registered : Nat) (spec : NodeSpec) (handle : η) :
    Logged (ClusterError × Cluster σ η × Registry) := do
  let index := cluster.size
  let error := driftError index spec
  Logged.emit (record .error "registry position does not match the server index" [
    error.codeField, ("node.index", .number index), ("peer.index", .number registered)])
  let (withdrawn, registry) ← registry.remove registered
  if let .error failure := withdrawn then
    Logged.emit (record .warn "failed to withdraw the drifted peer" [failure.codeField])
  let reply := launchers.stop cluster.launcher handle
  let registry ← registry.cancelAll reply.released
  if let .error failure := reply.result then
    Logged.emit (record .warn "failed to stop the node launched before the drift"
      [failure.codeField, failure.messageField])
  return (error, { cluster with launcher := reply.launcher }, registry)

/-- Launches one more node and registers it; the answer is its position. -/
def scaleUpByOne (launchers : Launcher σ η) (cluster : Cluster σ η) (registry : Registry) :
    Logged (Except ClusterError Nat × Cluster σ η × Registry) :=
  match cluster.allocator.peek with
  | .error error => .quiet (.error error, cluster, registry)
  | .ok ports => do
    let spec := cluster.specFor ports
    -- The node follows the membership from before it joins, so it sees itself join.
    let (stream, registry) ← registry.replicationPeers
    let reply := launchers.launch cluster.launcher spec stream
    let registry ← registry.cancelAll reply.released
    let cluster := { cluster with launcher := reply.launcher }
    match reply.result with
    | .error error => do
      Logged.emit (record .error "node launch failed" [error.codeField, error.messageField,
        ("node.registration_port", .number ports.registration.toNat)])
      return (.error error, cluster, registry)
    | .ok handle => do
      let index := cluster.size
      let (registered, registry) ← registry.add spec.address
      if registered ≠ index then
        let (error, cluster, registry) ←
          abandonLaunch launchers cluster registry registered spec handle
        return (.error error, cluster, registry)
      else
        let cluster := { cluster with
          allocator := cluster.allocator.commit
          servers := cluster.servers ++ [⟨spec, handle⟩] }
        Logged.emit (record .info "scaled up by one node" [
          ("node.index", .number index),
          ("node.registration_port", .number ports.registration.toNat),
          ("node.discovery_port", .number ports.discovery.toNat),
          ("node.replication_port", .number ports.replication.toNat),
          ("node.shutdown_port", .number ports.shutdown.toNat),
          ("node.admin_port", .number ports.admin.toNat),
          ("cluster.size", .number cluster.size)])
        return (.ok index, cluster, registry)

/-- Launches nodes one after the other and stops at the first that fails. -/
def scaleUp (launchers : Launcher σ η) :
    Nat → Cluster σ η → Registry → Logged (Except ClusterError (List Nat) × Cluster σ η × Registry)
  | 0, cluster, registry => .quiet (.ok [], cluster, registry)
  | count + 1, cluster, registry => do
    let (first, cluster, registry) ← scaleUpByOne launchers cluster registry
    match first with
    | .error error => return (.error error, cluster, registry)
    | .ok index =>
      (scaleUp launchers count cluster registry).map fun (rest, cluster, registry) =>
        (rest.map (index :: ·), cluster, registry)

/-- Stops the node at a position and takes it out of the membership, if it is the member there. -/
def scaleDownByOne (launchers : Launcher σ η) (cluster : Cluster σ η) (registry : Registry)
    (index : Nat) : Logged (Except ClusterError PeerAddress × Cluster σ η × Registry) :=
  match cluster.servers[index]? with
  | none =>
    let error := ClusterError.peerIndexOutOfRange index cluster.size
    ⟨(.error error, cluster, registry),
      [record .error "scale down requested for an unknown node" [
        error.codeField, ("node.index", .number index), ("cluster.size", .number cluster.size)]]⟩
  | some node =>
    if registry.members[index]? ≠ some node.spec.address then
      let error := driftError index node.spec
      ⟨(.error error, cluster, registry),
        [record .error "registry position does not match the server index" [
          error.codeField, ("node.index", .number index),
          ("membership.size", .number registry.members.length)]]⟩
    else do
      let reply := launchers.stop cluster.launcher node.handle
      let registry ← registry.cancelAll reply.released
      let cluster := { cluster with launcher := reply.launcher }
      match reply.result with
      | .error error => return (.error error, cluster, registry)
      | .ok () => do
        let cluster := { cluster with servers := cluster.servers.eraseIdx index }
        let (removed, registry) ← registry.remove index
        match removed with
        | .error error => return (.error error, cluster, registry)
        | .ok address => do
          Logged.emit (record .info "scaled down by one node" [
            ("node.index", .number index),
            ("node.registration_port", .number node.spec.address.registrationPort.toNat),
            ("cluster.size", .number cluster.size)])
          return (.ok address, cluster, registry)

/-- Stops the last node again and again, up to a number of times, and ends at the first failure. -/
def scaleDownLast (launchers : Launcher σ η) :
    Nat → Cluster σ η → Registry → Logged (Except ClusterError Unit × Cluster σ η × Registry)
  | 0, cluster, registry => .quiet (.ok (), cluster, registry)
  | count + 1, cluster, registry => do
    let (removed, cluster, registry) ← scaleDownByOne launchers cluster registry count
    match removed with
    | .error error => return (.error error, cluster, registry)
    | .ok _ => scaleDownLast launchers count cluster registry

/-- Stops every node, the last one first. -/
def shutdown (launchers : Launcher σ η) (cluster : Cluster σ η) (registry : Registry) :
    Logged (Except ClusterError Unit × Cluster σ η × Registry) :=
  scaleDownLast launchers cluster.size cluster registry

/-- What is reported about every node, in order. -/
def report (launchers : Launcher σ η) (cluster : Cluster σ η) : List NodeReport :=
  cluster.servers.mapIdx fun index node =>
    ⟨index, node.spec.address, node.spec.shutdownPort, node.spec.adminPort,
      launchers.state cluster.launcher node.handle⟩

/-- How many reported nodes are up. -/
def upCount (nodes : List NodeReport) : Nat :=
  nodes.countP (·.state == .up)

/-- The outline of a cluster together with its membership. -/
def outlineWith (cluster : Cluster σ η) (registry : Registry) : String :=
  Text.recordOutline "EmbeddedCluster" [
    ("app_name", outline cluster.config.appName), ("servers", outline cluster.size),
    ("next_base_port", outline cluster.allocator.next), ("registry", outline registry)]

end Cluster

end PeerCluster
