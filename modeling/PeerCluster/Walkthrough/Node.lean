import PeerCluster.Cluster
import PeerCluster.Fabric.Service

/-! Nodes of the walkthrough are tasks that report every change of the peers they replicate from. -/

namespace PeerCluster

/-- The task that stands for a node. -/
structure NodeTask where
  name : String
  stream : EndpointEvents
  phase : TaskPhase

/-- The launcher of the walkthrough: all tasks, and those with a turn due in their order. -/
structure NodeTasks where
  tasks : List NodeTask
  due : List Nat

namespace NodeTasks

/-- The launcher that has launched nothing. -/
def empty : NodeTasks :=
  ⟨[], []⟩

/-- Starts a task, whose first turn is due. -/
def launch (nodes : NodeTasks) (spec : NodeSpec) (stream : EndpointEvents) :
    LauncherReply NodeTasks Nat :=
  let handle := nodes.tasks.length
  ⟨.ok handle,
    ⟨nodes.tasks ++ [⟨spec.address.text, stream, .ready⟩], nodes.due ++ [handle]⟩, []⟩

/-- Tells a task to let go of its stream at its next turn. -/
def stop (nodes : NodeTasks) (handle : Nat) : LauncherReply NodeTasks Unit :=
  let aborted := nodes.tasks.modify handle fun task => { task with phase := .aborted }
  match nodes.tasks[handle]?.map NodeTask.phase with
  | some .parked => ⟨.ok (), ⟨aborted, nodes.due ++ [handle]⟩, []⟩
  | some .ready => ⟨.ok (), ⟨aborted, nodes.due⟩, []⟩
  | _ => ⟨.ok (), nodes, []⟩

/-- A node is up until its task has let go of its stream. -/
def state (nodes : NodeTasks) (handle : Nat) : NodeState :=
  match nodes.tasks[handle]?.map NodeTask.phase with
  | some .finished | none => .down
  | _ => .up

/-- The tasks as a launcher. -/
def launcher : Launcher NodeTasks Nat :=
  ⟨launch, stop, state⟩

/-- Gives a turn to every waiting task that has something to report, oldest first. -/
def wake (nodes : NodeTasks) (registry : Registry) : NodeTasks :=
  let isWoken (task : NodeTask) :=
    task.phase = .parked && registry.buffered task.stream.upstream ≠ 0
  let woken := (nodes.tasks.zipIdx.filter fun entry => isWoken entry.1).map Prod.snd
  ⟨nodes.tasks.map fun task => if isWoken task then { task with phase := .ready } else task,
    nodes.due ++ woken⟩

/-- The report of a change by a node. -/
def updateRecord (task : NodeTask) (event : MemberEvent) : LogRecord :=
  let projected := task.stream.projection.projectEvent event
  ⟨.info, .walkthrough, "replication peer update",
    [("node", .rendered task.name), ("replication.event", .rendered projected.text)]⟩

/-- Gives a task its turn: it reports everything there is, or lets go if it was told to. -/
def turn (nodes : NodeTasks) (registry : Registry) (handle : Nat) :
    Logged (NodeTasks × Registry) :=
  match nodes.tasks[handle]? with
  | none => .quiet (nodes, registry)
  | some task =>
    let become (phase : TaskPhase) : NodeTasks :=
      { nodes with tasks := nodes.tasks.set handle { task with phase } }
    match task.phase with
    | .aborted =>
      (registry.cancel task.stream.upstream).map fun registry => (become .finished, registry)
    | .ready =>
      let (drained, registry) := registry.drain task.stream.upstream none
      ⟨(become .parked, registry), drained.items.map (updateRecord task)⟩
    | _ => .quiet (nodes, registry)

/-- Gives turns in order. -/
def turns (nodes : NodeTasks) (registry : Registry) : List Nat → Logged (NodeTasks × Registry)
  | [] => .quiet (nodes, registry)
  | handle :: rest => do
    let (nodes, registry) ← nodes.turn registry handle
    nodes.turns registry rest

/-- Gives every turn that is due. -/
def run (nodes : NodeTasks) (registry : Registry) : Logged (NodeTasks × Registry) :=
  let nodes := nodes.wake registry
  { nodes with due := [] }.turns registry nodes.due

end NodeTasks

end PeerCluster
