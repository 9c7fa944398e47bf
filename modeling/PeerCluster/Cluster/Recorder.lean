import PeerCluster.Cluster.Launcher

/-! A launcher that only keeps a record of its calls and answers as a script tells it to. -/

namespace PeerCluster

/-- The record of the calls and the script for those to come; handles count up from zero. -/
structure Recorder where
  /-- The nodes launched; the position of each is its handle. -/
  launched : Array NodeSpec
  /-- The streams still held, under the handles of their nodes. -/
  streams : List (Nat × EndpointEvents)
  /-- The handles stopped, in the order of stopping. -/
  stopped : List Nat
  /-- States that were set from outside, the latest first. -/
  states : List (Nat × NodeState)
  /-- Whether the streams of launched nodes are let go of at once. -/
  dropsStreams : Bool
  /-- Results of the launches to come; without one a launch succeeds. -/
  launchScript : List (Option ClusterError)
  /-- Results of the stops to come; without one a stop succeeds. -/
  stopScript : List (Option ClusterError)

namespace Recorder

/-- The record of no calls. -/
def fresh (dropsStreams : Bool) : Recorder :=
  ⟨#[], [], [], [], dropsStreams, [], []⟩

/-- The stream held for a node. -/
def stream? (recorder : Recorder) (handle : Nat) : Option EndpointEvents :=
  recorder.streams.lookup handle

/-- Answers a launch; a failed one lets go of its stream. -/
def launch (recorder : Recorder) (spec : NodeSpec) (stream : EndpointEvents) :
    LauncherReply Recorder Nat :=
  let recorder' := { recorder with launchScript := recorder.launchScript.tail }
  match recorder.launchScript with
  | some error :: _ => ⟨.error error, recorder', [stream.upstream]⟩
  | _ =>
    let handle := recorder.launched.size
    let recorded := { recorder' with launched := recorder.launched.push spec }
    if recorder.dropsStreams then ⟨.ok handle, recorded, [stream.upstream]⟩
    else ⟨.ok handle, { recorded with streams := recorder.streams ++ [(handle, stream)] }, []⟩

/-- Answers a stop; a successful one lets go of the node's stream. -/
def stop (recorder : Recorder) (handle : Nat) : LauncherReply Recorder Unit :=
  let recorder' := { recorder with stopScript := recorder.stopScript.tail }
  match recorder.stopScript with
  | some error :: _ => ⟨.error error, recorder', []⟩
  | _ =>
    let recorded := { recorder' with
      stopped := recorder.stopped ++ [handle]
      streams := recorder.streams.filter (·.1 ≠ handle) }
    ⟨.ok (), recorded, ((recorder.stream? handle).map (·.upstream)).toList⟩

/-- The state that was set for a node, else whether it was stopped. -/
def state (recorder : Recorder) (handle : Nat) : NodeState :=
  match recorder.states.lookup handle with
  | some state => state
  | none => if recorder.stopped.contains handle then .down else .up

/-- The calls of the recorder as a launcher. -/
def launcher : Launcher Recorder Nat :=
  ⟨launch, stop, state⟩

end Recorder

end PeerCluster
