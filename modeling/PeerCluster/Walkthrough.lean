import PeerCluster.Config.Schema
import PeerCluster.Fabric
import PeerCluster.Log.Filter
import PeerCluster.Walkthrough.Node
import PeerCluster.Walkthrough.Source

/-! The walkthrough: three nodes come up, endpoints are resolved, one node leaves, all stop. -/

namespace PeerCluster

namespace Walkthrough

/-- The cluster of the walkthrough, and the fabric whose only registry is its membership. -/
structure Scene where
  cluster : Cluster NodeTasks Nat
  fabric : Fabric

/-- What the walkthrough has to show for itself. -/
structure Outcome where
  /-- The endpoints resolved, in order. -/
  picks : List Endpoint
  /-- The peer that left in the middle. -/
  removed? : Option PeerAddress
  /-- The nodes reported after that. -/
  nodes : List NodeReport
  /-- How many nodes were launched. -/
  launched : Nat
  /-- How many nodes are running at the end. -/
  remaining : Nat
  /-- The error that ended the walkthrough early. -/
  error? : Option ClusterError

/-- A record of the walkthrough itself. -/
def record (message : String) (fields : List (String × LogValue)) : LogRecord :=
  ⟨.info, .walkthrough, message, fields⟩

/-- The membership of the cluster. -/
def membership : Nat := 0

/-- Runs an operation of the cluster on its membership. -/
def Scene.operate {α : Type} (scene : Scene)
    (operation : Cluster NodeTasks Nat → Registry →
      Logged (Except ClusterError α × Cluster NodeTasks Nat × Registry)) :
    Logged (Except ClusterError α × Scene) :=
  (operation scene.cluster (scene.fabric.registry membership)).map
    fun (result, cluster, registry) =>
      (result, { scene with cluster, fabric := scene.fabric.setRegistry membership registry })

/-- Lets every task run until it waits: first the nodes, then whoever subscribed after them. -/
def Scene.wait (scene : Scene) : Logged Scene := do
  let (nodes, registry) ← scene.cluster.launcher.run (scene.fabric.registry membership)
  let fabric ← (scene.fabric.setRegistry membership registry).run
  return { scene with cluster := { scene.cluster with launcher := nodes }, fabric }

/-- Resolves one endpoint, and waits once if there is none yet. -/
def Scene.pick (scene : Scene) (service : Nat) : Logged (Poll Choice × Scene) := do
  let ((answer, _), waiting, fabric) := scene.fabric.pollPick service .fresh
  let scene := { scene with fabric }
  if answer.isPending then
    let scene ← scene.wait
    let ((answer, _), _, fabric) := scene.fabric.pollPick service waiting
    return (answer, { scene with fabric })
  else return (answer, scene)

/-- Resolves a number of endpoints; an error, or nothing to be had any more, ends it early. -/
def Scene.picks (scene : Scene) (service : Nat) :
    Nat → Logged (List Endpoint × Option ClusterError × Scene)
  | 0 => .quiet ([], none, scene)
  | count + 1 => do
    let (answer, scene) ← scene.pick service
    match answer with
    | .ready (.ok target) => do
      Logged.emit (record "registration endpoint resolved" [("endpoint", .rendered target.text)])
      let (rest, error?, scene) ← scene.picks service count
      return (target :: rest, error?, scene)
    | .ready (.error error) => return ([], some error, scene)
    | _ => return ([], none, scene)

/-- The report about one node. -/
def reportRecord (node : NodeReport) : LogRecord :=
  record "cluster report" [("node.index", .number node.index),
    ("node.address", .rendered node.address.text), ("node.state", .rendered node.state.name)]

/-- What there is to show when an error ends the walkthrough. -/
def Scene.failed (scene : Scene) (picks : List Endpoint) (error : ClusterError) : Outcome :=
  ⟨picks, none, [], scene.cluster.launcher.tasks.length, scene.cluster.size, some error⟩

/-- The second half: one node leaves, the others are reported, and everything stops. -/
def Scene.finish (scene : Scene) (service : Nat) (picks : List Endpoint) : Logged Outcome := do
  let (removed, scene) ← scene.operate fun cluster registry =>
    cluster.scaleDownByOne NodeTasks.launcher registry 1
  match removed with
  | .error error => return scene.failed picks error
  | .ok peer => do
    Logged.emit (record "peer removed from the cluster" [("peer", .rendered peer.text)])
    let scene ← scene.wait
    let nodes := scene.cluster.report NodeTasks.launcher
    Logged.emitAll (nodes.map reportRecord)
    let fabric ← scene.fabric.close service
    let (stopped, scene) ← { scene with fabric }.operate (Cluster.shutdown NodeTasks.launcher)
    return ⟨picks, some peer, nodes, scene.cluster.launcher.tasks.length, scene.cluster.size,
      match stopped with
      | .ok () => none
      | .error error => some error⟩

/-- The walkthrough of a cluster with given settings. -/
def run (config : ClusterConfig) : Logged Outcome := do
  let scene : Scene := ⟨.ofConfig config .empty, Fabric.empty.addRegistry.2⟩
  let (launched, scene) ← scene.operate (Cluster.scaleUp NodeTasks.launcher 3)
  match launched with
  | .error error => return scene.failed [] error
  | .ok _ => do
    let (created, fabric) ← scene.fabric.follow membership (.ofRole .registration) true
    let scene := { scene with fabric }
    match created with
    | .error error => return scene.failed [] error
    | .ok service => do
      let (picks, error?, scene) ← scene.picks service 4
      match error? with
      | some error => return scene.failed picks error
      | none => scene.finish service picks

/-- What a program leaves behind: its exit code and the lines that it printed. -/
structure Console where
  exitCode : Nat
  output : List String
  complaint? : Option String
deriving DecidableEq, Repr

/-- The complaint about a walkthrough that did not come to its end. -/
def complaint (reason : String) : Console :=
  ⟨1, [], some ("集群演示失败: " ++ reason)⟩

/-- Runs the walkthrough as a program that prints the log records which a filter shows. -/
def Console.ofSource (filter : LogFilter) : Source → Console
  | .unreadable path failure => complaint ("读取 " ++ path ++ " 失败: " ++ failure.message)
  | .standard => walk .standard
  | .text text =>
    match ClusterConfig.ofText text with
    | .error error => complaint error.message
    | .ok config => walk config
where
  /-- Prints the records of a walkthrough, and the error if one ended it. -/
  walk (config : ClusterConfig) : Console :=
    let walked := run config
    let output := (walked.log.filter filter.shows).map LogRecord.line
    match walked.value.error? with
    | none => ⟨0, output, none⟩
    | some error => { complaint ("[" ++ error.code ++ "] " ++ error.message) with output }

end Walkthrough

end PeerCluster
