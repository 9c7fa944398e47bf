import PeerCluster.Proofs.Cluster.Emptying
import PeerCluster.Proofs.Venue.Joining
import PeerCluster.Proofs.Walkthrough.Starting
import PeerCluster.Walkthrough

/-! Whatever the walkthrough does next, nodes are the members, and all tasks stay in order. -/

namespace PeerCluster.Walkthrough

open Cluster

namespace Scene

/-- Nodes are running and are the members, all tasks are in order, and none has another's stream. -/
structure Invariant (scene : Scene) (nodes : List (RunningNode Nat)) (launched : Nat) : Prop where
  servers : scene.cluster.servers = nodes
  members : (scene.fabric.registry membership).members = addresses nodes
  inside : membership < scene.fabric.registries.length
  lives : (scene.fabric.registry membership).lives = true
  scheduled : scene.fabric.Scheduled
  runs : ∀ node ∈ nodes, scene.cluster.launcher.Runs node.handle
  launched : scene.cluster.launcher.streams.length = launched
  strangers : ∀ stream ∈ scene.cluster.launcher.streams,
    scene.fabric.Unowned (.stream membership stream)

namespace Invariant

variable {scene : Scene} {nodes : List (RunningNode Nat)} {launched service : Nat}
  {worker : Worker} {fabric : Fabric}

/-- The membership can be reached, and sends to whoever listens. -/
theorem live (invariant : scene.Invariant nodes launched) :
    (scene.fabric.registry membership).LiveAttached :=
  ⟨invariant.lives, invariant.scheduled.attached membership⟩

/-- Every node is the member at its position. -/
theorem placed (invariant : scene.Invariant nodes launched) {position : Nat}
    {node : RunningNode Nat} (found : scene.cluster.servers[position]? = some node) :
    (scene.fabric.registry membership).members[position]? = some node.spec.address := by
  -- Nodes and members are in step, position by position.
  rw [invariant.servers] at found
  rw [invariant.members, addresses, List.getElem?_map, found]
  rfl

/-- What touches only sources and workers leaves nodes and members as they are. -/
theorem of_frame (invariant : scene.Invariant nodes launched) {touched : Place → Prop}
    (frame : Fabric.Frame touched scene.fabric fabric) (scheduled : fabric.Scheduled) :
    Invariant { scene with fabric } nodes launched := by
  -- The books of a registry are what it knows apart from the streams, and those are kept.
  have book := frame.book membership
  refine ⟨invariant.servers, ?_, ?_, ?_, scheduled, invariant.runs, invariant.launched, ?_⟩
  · exact (congrArg Registry.Book.members book).trans invariant.members
  · show membership < fabric.registries.length
    rw [frame.registries]
    exact invariant.inside
  · exact (Registry.lives_of_book _ book).trans invariant.lives
  · intro stream member id
    rw [frame.place?]
    exact invariant.strangers stream member id

/-- What is done to one service leaves nodes and members as they are. -/
theorem becomes (invariant : scene.Invariant nodes launched)
    (becomes : scene.fabric.Becomes service worker fabric) :
    Invariant { scene with fabric } nodes launched :=
  invariant.of_frame becomes.toFrame becomes.scheduled

/-- Waiting leaves nodes and members as they are, and lets the task of every service rest. -/
theorem wait (invariant : scene.Invariant nodes launched) :
    scene.wait.value.Invariant nodes launched ∧ ∀ service,
      scene.wait.value.fabric.worker? service =
        (scene.fabric.worker? service).map Worker.rest := by
  -- No task of a service takes from the stream of a node, so putting those back wakes nobody.
  have nodesOnly := scene.cluster.launcher.nodesOnly_run (scene.fabric.registry membership)
  let labour := (scene.cluster.launcher.run (scene.fabric.registry membership)).value
  let put : Fabric :=
    { scene.fabric with registries := scene.fabric.registries.set membership labour.2 }
  have frame := Fabric.frame_setStreams invariant.inside nodesOnly.confines
  obtain ⟨nobody, still, workers⟩ := Fabric.scheduled_of_frame invariant.scheduled
    (by rintro _ ⟨stream, member, rfl⟩; exact invariant.strangers stream member) frame rfl rfl rfl
  obtain ⟨scheduled, further, rested⟩ := Fabric.run_worked still
  have waited : scene.wait.value =
      { scene with
        cluster := { scene.cluster with launcher := labour.1 }, fabric := put.run.value } := by
    show ({ scene with
        cluster := { scene.cluster with launcher := labour.1 }
        fabric := put.wake.run.value } : Scene) = _
    rw [nobody]
  have left := (invariant.of_frame frame still).of_frame further scheduled
  rw [waited]
  refine ⟨⟨left.servers, left.members, left.inside, left.lives, left.scheduled,
    fun node member => nodesOnly.runs _ (invariant.runs node member), ?_, ?_⟩, fun service => ?_⟩
  · exact (congrArg List.length nodesOnly.streams).trans invariant.launched
  · intro stream member
    exact left.strangers stream (nodesOnly.streams ▸ member)
  · exact (rested service).trans (congrArg _ (workers service))

/-- A resolver that is closed leaves nodes and members as they are. -/
theorem close (invariant : scene.Invariant nodes launched) (service : Nat) :
    Invariant { scene with fabric := (scene.fabric.close service).value } nodes launched := by
  cases met : scene.fabric.worker? service with
  | some worker => exact invariant.becomes (Fabric.close_becomes invariant.scheduled met)
  | none =>
    -- There is nothing to close.
    have absent : scene.fabric.services[service]? = none := Option.map_eq_none_iff.mp met
    unfold Fabric.close
    rw [absent]
    exact invariant

/-- All nodes are reported to be up. -/
theorem report (invariant : scene.Invariant nodes launched) :
    scene.cluster.report NodeTasks.launcher = nodes.mapIdx fun index node =>
      ⟨index, node.spec.address, node.spec.shutdownPort, node.spec.adminPort, .up⟩ := by
  -- The launcher is asked for each node in turn, and each one runs.
  unfold Cluster.report
  rw [invariant.servers, List.mapIdx_eq_mapIdx_iff]
  intro position inside
  have runs := invariant.runs nodes[position] (List.getElem_mem inside)
  exact congrArg (NodeReport.mk position _ _ _) (NodeTasks.state_of_runs runs)

/-- A node less is a member less when everybody is told so. -/
theorem announce (invariant : scene.Invariant nodes launched) {index : Nat}
    {cluster : Cluster NodeTasks Nat} (servers : cluster.servers = nodes.eraseIdx index)
    (runs : ∀ node ∈ nodes.eraseIdx index, cluster.launcher.Runs node.handle)
    (streams : cluster.launcher.streams = scene.cluster.launcher.streams) (event : MemberEvent) :
    let registry := scene.fabric.registry membership
    Invariant ⟨cluster, scene.fabric.setRegistry membership
      (registry.announce (registry.members.eraseIdx index) event)⟩ (nodes.eraseIdx index)
      launched := by
  -- The member leaves at the position of the node, and all listeners are told.
  intro registry
  let left := registry.announce (registry.members.eraseIdx index) event
  have live : left.LiveAttached := invariant.live.announce _ event
  have same : (scene.fabric.setRegistry membership left).registry membership = left :=
    (Fabric.registry_set invariant.inside left membership).trans (if_pos rfl)
  have shifts := Fabric.setRegistry_shifts invariant.scheduled invariant.inside live.attached
    (Nat.le_of_eq (registry.nextId_announce _ event).symm) (some event) fun id known =>
      invariant.live.attached.subscription_announce invariant.lives _ event known
  refine ⟨servers, ?_, ?_, same ▸ live.lives, shifts.scheduled, runs,
    (congrArg List.length streams).trans invariant.launched, fun stream member id => ?_⟩
  · rw [same]
    show registry.members.eraseIdx index = _
    rw [invariant.members, addresses, addresses, List.eraseIdx_map]
  · exact Nat.lt_of_lt_of_eq invariant.inside (List.length_set ..).symm
  · -- Whoever is woken takes from where it took before.
    have frame := Fabric.frame_wake (fun _ => True)
      { scene.fabric with registries := scene.fabric.registries.set membership left }
    rw [streams] at member
    exact frame.place? id ▸ invariant.strangers stream member id

/-- A node that is taken out leaves the members, and all others go on. -/
theorem remove (invariant : scene.Invariant nodes launched) {index : Nat} {node : RunningNode Nat}
    (found : nodes[index]? = some node)
    (others : ∀ other ∈ nodes.eraseIdx index, other.handle ≠ node.handle) :
    let removal := (scene.operate fun cluster registry =>
      cluster.scaleDownByOne NodeTasks.launcher registry index).value
    removal.1 = .ok node.spec.address ∧ removal.2.Invariant (nodes.eraseIdx index) launched := by
  have met : scene.cluster.servers[index]? = some node := invariant.servers ▸ found
  have placed := invariant.placed met
  have shrinking := scaleDownByOne_shrinking NodeTasks.launcher scene.cluster
    (scene.fabric.registry membership) index
  obtain ⟨stops, released, streams, runs⟩ := scene.cluster.launcher.stop_spec node.handle
  dsimp only [Scene.operate]
  generalize Cluster.scaleDownByOne NodeTasks.launcher scene.cluster
    (scene.fabric.registry membership) index = outcome at shrinking
  -- The node is the member at its position, and its task is never refused its end.
  cases shrinking with
  | unknown absent => cases met.symm.trans absent
  | drifted known misplaced =>
    obtain rfl := Option.some.inj (met.symm.trans known)
    exact absurd placed misplaced
  | refused known _ asked refusal =>
    obtain rfl := Option.some.inj (met.symm.trans known)
    subst asked
    cases stops.symm.trans refusal
  | @stopped stoppedNode reply log known _ asked =>
    obtain rfl := Option.some.inj (met.symm.trans known)
    subst asked
    have nobody : (NodeTasks.launcher.stop scene.cluster.launcher node.handle).released = [] :=
      released
    rw [nobody]
    refine ⟨rfl, invariant.announce (congrArg (List.eraseIdx · index) invariant.servers) ?_ streams
      _⟩
    intro other member
    exact runs other.handle (others other member)
      (invariant.runs other (List.mem_of_mem_eraseIdx member))

/-- All nodes stop in the end. -/
theorem shutdown (invariant : scene.Invariant nodes launched) :
    let ended := (scene.operate (Cluster.shutdown NodeTasks.launcher)).value
    ended.1 = .ok () ∧ ended.2.cluster.size = 0 ∧
      ended.2.cluster.launcher.streams.length = launched := by
  -- The outcome of emptying the cluster tells what was asked of the launcher and what is left.
  have shutdownOutcome : ShutdownOutcome NodeTasks.launcher scene.cluster
      (scene.fabric.registry membership)
      (Cluster.shutdown NodeTasks.launcher scene.cluster
        (scene.fabric.registry membership)).value := scaleDownLast_outcome invariant.live rfl
  dsimp only [Scene.operate]
  generalize Cluster.shutdown NodeTasks.launcher scene.cluster
    (scene.fabric.registry membership) = outcome at shutdownOutcome
  obtain ⟨⟨result, left, after⟩, log⟩ := outcome
  -- Every node is the member at its position, and no task is refused its end.
  have done := shutdownOutcome.ok_iff.mpr ⟨fun _ _ found => invariant.placed found,
    scene.cluster.launcher.stopsAll _⟩
  obtain ⟨asked, _, told⟩ := shutdownOutcome.exists_asked
  refine ⟨done, ?_, ?_⟩
  · subst done
    cases shutdownOutcome with
    | emptied fromEnd => exact congrArg Cluster.size fromEnd.left_eq
  · show left.launcher.streams.length = launched
    rw [told, NodeTasks.streams_stopped, invariant.launched]

end Invariant

end Scene

end PeerCluster.Walkthrough
