import PeerCluster.Config.Schema
import PeerCluster.Session.Slot

/-! Commands of a session about embedded clusters. -/

namespace PeerCluster

open SessionAction

/-- The settings of a new cluster; the standard ones are taken as they are. -/
def ClusterSource.config : ClusterSource → Except ClusterError ClusterConfig
  | standard => .ok .standard
  | overrides given => (ClusterConfig.ofOverrides given).validate
  | text written => ClusterConfig.ofText written

/-- Runs a command on the cluster behind a name. -/
def SessionAction.withCluster (name : String)
    (step : Cluster Recorder Nat → Nat → SessionAction Answer) : SessionAction Answer := do
  match ← slot? name with
  | some (.cluster cluster registry) => step cluster registry
  | _ => return .misuse

/-- Changes the recorder of the cluster behind a name. -/
def SessionAction.onRecorder (name : String) (change : Recorder → Recorder) :
    SessionAction Answer :=
  withCluster name fun cluster registry => do
    update name (.cluster { cluster with launcher := change cluster.launcher } registry)
    return .done

/-- Runs an operation of the cluster behind a name and answers its result. -/
def SessionAction.operate {α : Type} (name : String)
    (operation : Cluster Recorder Nat → Registry →
      Logged (Except ClusterError α × Cluster Recorder Nat × Registry))
    (answer : α → Answer) : SessionAction Answer :=
  withCluster name fun cluster id => do
    let (result, changed) ← onRegistry id fun registry =>
      (operation cluster registry).map fun (result, cluster, registry) =>
        ((result, cluster), registry)
    update name (.cluster changed id)
    match result with
    | .ok value => return answer value
    | .error error => return .failed error

namespace ClusterCommand

/-- Runs a command. -/
def run : ClusterCommand → SessionAction Answer
  | create source dropsStreams name => do
    match source.config with
    | .error error => return .failed error
    | .ok config =>
      let id ← onFabric fun fabric => .quiet fabric.addRegistry
      put name (.cluster (.ofConfig config (.fresh dropsStreams)) id)
      return .config config
  | scriptLaunches cluster results =>
    onRecorder cluster fun recorder => { recorder with launchScript := results }
  | scriptStops cluster results =>
    onRecorder cluster fun recorder => { recorder with stopScript := results }
  | setState cluster handle state =>
    onRecorder cluster fun recorder =>
      { recorder with states := (handle, state) :: recorder.states }
  | up cluster => operate cluster (Cluster.scaleUpByOne Recorder.launcher) .number
  | upMany cluster count => operate cluster (Cluster.scaleUp Recorder.launcher count) .numbers
  | down cluster index =>
    operate cluster
      (fun before registry => Cluster.scaleDownByOne Recorder.launcher before registry index) .peer
  | shutdown cluster => operate cluster (Cluster.shutdown Recorder.launcher) fun _ => .done
  | report cluster => withCluster cluster fun found _ =>
    return .report (found.report Recorder.launcher)
  | inspect cluster => withCluster cluster fun found id => do
    let registry := (← get).fabric.registry id
    return .cluster found.size registry.members.length found.launcher.launched.size
      found.launcher.stopped (found.outlineWith registry)
  | spec cluster handle => withCluster cluster fun found _ =>
    return .spec found.launcher.launched[handle]?
  | drainNode cluster handle limit? => withCluster cluster fun found id => do
    match found.launcher.stream? handle with
    | none => return .notHeld
    | some stream =>
      let items ← onRegistry id fun registry => .quiet (registry.drain stream.upstream limit?)
      return .endpointItems (items.map stream.projection.projectEvent)

end ClusterCommand

end PeerCluster
