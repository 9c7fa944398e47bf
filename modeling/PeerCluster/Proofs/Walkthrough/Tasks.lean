import PeerCluster.Proofs.Cluster.Emptying
import PeerCluster.Proofs.Fabric.Altering
import PeerCluster.Walkthrough.Node

/-! Node tasks take from their own streams only, and are up until they are told to stop. -/

namespace PeerCluster

namespace NodeTasks

variable {nodes left last : NodeTasks} {registry membership final : Registry} {handle : Nat}
  {task : NodeTask}

/-- The subscriptions that tasks take from, in the order of the nodes. -/
def streams (nodes : NodeTasks) : List Nat :=
  nodes.tasks.map (·.stream.upstream)

/-- Every task has a stream. -/
theorem length_streams (nodes : NodeTasks) : nodes.streams.length = nodes.tasks.length :=
  List.length_map _

/-- A task goes on as long as it was not told to stop. -/
def PhaseRuns (phase : TaskPhase) : Prop :=
  phase = .ready ∨ phase = .parked

/-- The task of a node goes on. -/
def Runs (nodes : NodeTasks) (handle : Nat) : Prop :=
  ∃ task, nodes.tasks[handle]? = some task ∧ PhaseRuns task.phase

/-- A node whose task goes on is up. -/
theorem state_of_runs (runs : nodes.Runs handle) : nodes.state handle = .up := by
  -- A task that goes on is in one of two phases, and is up in both.
  obtain ⟨task, found, ready | parked⟩ := runs
  · simp [state, found, ready]
  · simp [state, found, parked]

/-- What was done to nodes and to the membership concerns no streams but those of the nodes. -/
structure NodesOnly (nodes : NodeTasks) (registry : Registry) (left : NodeTasks)
    (membership : Registry) : Prop where
  streams : left.streams = nodes.streams
  runs : ∀ handle, nodes.Runs handle → left.Runs handle
  confines : registry.Confines (· ∈ nodes.streams) membership

namespace NodesOnly

/-- Nothing is done when nothing happens. -/
theorem refl (nodes : NodeTasks) (registry : Registry) : NodesOnly nodes registry nodes registry :=
  ⟨rfl, fun _ runs => runs, .refl _ registry⟩

/-- What is done in two steps concerns no other streams. -/
theorem trans (first : NodesOnly nodes registry left membership)
    (second : NodesOnly left membership last final) : NodesOnly nodes registry last final := by
  -- The second step concerns streams of nodes that the first one has kept.
  refine ⟨second.streams.trans first.streams, fun handle runs => ?_, first.confines.trans ?_⟩
  · exact second.runs handle (first.runs handle runs)
  · rw [← first.streams]
    exact second.confines

end NodesOnly

/-- A task that is put back in another phase goes on if it did, and takes from the same stream. -/
theorem nodesOnly_set (found : nodes.tasks[handle]? = some task) {phase : TaskPhase}
    (phaseRuns : PhaseRuns task.phase → PhaseRuns phase) (due : List Nat)
    (differs : registry.DiffersAt task.stream.upstream membership)
    (attached : registry.Attached → membership.Attached) :
    NodesOnly nodes registry ⟨nodes.tasks.set handle { task with phase }, due⟩ membership := by
  refine ⟨?_, ?_, .of_differs differs ?_ attached⟩
  · -- The task is put back with its stream, and all others are where they were.
    show (nodes.tasks.set handle { task with phase }).map (·.stream.upstream) = nodes.streams
    rw [List.map_set]
    refine List.ext_getElem? fun position => ?_
    rw [List.getElem?_set]
    split
    · rename_i same
      subst same
      obtain ⟨inside, rfl⟩ := List.getElem?_eq_some_iff.mp found
      simp [streams, inside]
    · rfl
  · rintro other ⟨rival, met, going⟩
    refine ⟨if other = handle then { task with phase } else rival, ?_, ?_⟩
    · rw [List.getElem?_set]
      by_cases same : other = handle
      · subst same
        simp [(List.getElem?_eq_some_iff.mp found).1]
      · rw [if_neg (Ne.symm same), if_neg same, met]
    · split
      · rename_i same
        subst same
        obtain rfl := Option.some.inj (found.symm.trans met)
        exact phaseRuns going
      · exact going
  · exact List.mem_map_of_mem (List.mem_of_getElem? found)

/-- A turn of a task concerns no streams but those of the nodes. -/
theorem nodesOnly_turn (nodes : NodeTasks) (registry : Registry) (handle : Nat) :
    let turned := (nodes.turn registry handle).value
    NodesOnly nodes registry turned.1 turned.2 := by
  -- A task lets go of its stream at the end or takes from it; in other phases it does nothing.
  unfold turn
  cases found : nodes.tasks[handle]? with
  | none => exact .refl nodes registry
  | some task =>
    dsimp only
    cases phase : task.phase with
    | aborted =>
      refine nodesOnly_set found ?_ nodes.due (.cancel registry task.stream.upstream)
        (·.cancel task.stream.upstream)
      rintro (ready | parked)
      · cases phase.symm.trans ready
      · cases phase.symm.trans parked
    | ready =>
      exact nodesOnly_set found (fun _ => .inr rfl) nodes.due
        (.drain registry task.stream.upstream _)
        (·.drain task.stream.upstream _)
    | parked | finished => exact .refl nodes registry

/-- Turns of tasks concern no streams but those of the nodes. -/
theorem nodesOnly_turns (nodes : NodeTasks) (registry : Registry) (handles : List Nat) :
    let turned := (nodes.turns registry handles).value
    NodesOnly nodes registry turned.1 turned.2 := by
  -- The turns follow each other, each with the streams of the nodes that it began with.
  induction handles generalizing nodes registry with
  | nil => exact .refl nodes registry
  | cons handle rest ih => exact (nodesOnly_turn nodes registry handle).trans (ih _ _)

/-- Tasks that are woken go on, and take from the same streams. -/
theorem nodesOnly_wake (nodes : NodeTasks) (registry : Registry) (due : List Nat) :
    NodesOnly nodes registry { nodes.wake registry with due } registry := by
  -- Waking changes phases only.
  refine ⟨?_, ?_, .refl _ registry⟩
  · show (nodes.tasks.map _).map (fun task : NodeTask => task.stream.upstream) = _
    rw [List.map_map]
    refine List.map_congr_left fun task _ => ?_
    dsimp only [Function.comp]
    split <;> rfl
  · rintro handle ⟨task, found, going⟩
    refine ⟨_, List.getElem?_map.trans (congrArg (Option.map _) found), ?_⟩
    dsimp only
    split
    · exact .inl rfl
    · exact going

/-- All that tasks do when they are given their turns concerns no streams but those of the nodes. -/
theorem nodesOnly_run (nodes : NodeTasks) (registry : Registry) :
    let run := (nodes.run registry).value
    NodesOnly nodes registry run.1 run.2 :=
  (nodesOnly_wake nodes registry []).trans (nodesOnly_turns _ registry _)

/-! ### What a cluster asks of them -/

/-- A node is always started, behind all others, and takes from the stream that it is given. -/
theorem launch_spec (nodes : NodeTasks) (spec : NodeSpec) (stream : EndpointEvents) :
    let reply := nodes.launch spec stream
    reply.result = .ok nodes.streams.length ∧ reply.released = [] ∧
      reply.launcher.streams = nodes.streams ++ [stream.upstream] ∧
      reply.launcher.Runs nodes.streams.length ∧
      ∀ handle, nodes.Runs handle → reply.launcher.Runs handle := by
  -- The new task comes last, so every older one is found where it was.
  refine ⟨?_, rfl, ?_, ⟨⟨spec.address.text, stream, .ready⟩, ?_, .inl rfl⟩, ?_⟩
  · simp [launch, streams]
  · simp [launch, streams]
  · simp [launch, streams]
  · rintro handle ⟨task, found, going⟩
    refine ⟨task, ?_, going⟩
    show (nodes.tasks ++ [_])[handle]? = some task
    rw [List.getElem?_append_left (List.getElem?_eq_some_iff.mp found).1, found]

/-- A node is never refused its end, and nothing becomes of the others. -/
theorem stop_spec (nodes : NodeTasks) (handle : Nat) :
    let reply := nodes.stop handle
    reply.result = .ok () ∧ reply.released = [] ∧ reply.launcher.streams = nodes.streams ∧
      ∀ other ≠ handle, nodes.Runs other → reply.launcher.Runs other := by
  -- Who is told to stop only enters another phase.
  have aborted (due : List Nat) :
      let after : NodeTasks :=
        ⟨nodes.tasks.modify handle fun task => { task with phase := .aborted }, due⟩
      after.streams = nodes.streams ∧ ∀ other ≠ handle, nodes.Runs other → after.Runs other := by
    refine ⟨?_, ?_⟩
    · refine List.ext_getElem? fun position => ?_
      simp only [streams, List.getElem?_map, List.getElem?_modify]
      cases nodes.tasks[position]? with
      | none => rfl
      | some task =>
        show some (if handle = position then _ else task).stream.upstream = _
        split <;> rfl
    · rintro other different ⟨task, found, going⟩
      refine ⟨task, ?_, going⟩
      simp [found, different.symm]
  unfold stop
  dsimp only
  split
  · exact ⟨rfl, rfl, aborted _⟩
  · exact ⟨rfl, rfl, aborted _⟩
  · exact ⟨rfl, rfl, rfl, fun _ _ runs => runs⟩

/-- All nodes stop when they are told to, one after the other. -/
theorem stopsAll (nodes : NodeTasks) (running : List (RunningNode Nat)) :
    launcher.StopsAll nodes running := by
  -- What one node answers says nothing of the others, and none of them refuses.
  induction running generalizing nodes with
  | nil => exact List.forall_mem_nil _
  | cons node rest ih =>
    exact List.forall_mem_cons.mpr ⟨(nodes.stop_spec node.handle).1, ih _⟩

/-- Nodes that were told to stop keep their streams until their next turn. -/
theorem streams_stopped (nodes : NodeTasks) (running : List (RunningNode Nat)) :
    (launcher.stopped nodes running).streams = nodes.streams := by
  -- Each one that is told to stop keeps its stream.
  induction running generalizing nodes with
  | nil => rfl
  | cons node rest ih => exact (ih _).trans (nodes.stop_spec node.handle).2.2.1

end NodeTasks

end PeerCluster
