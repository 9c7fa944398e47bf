import PeerCluster.Proofs.Walkthrough.Resolving

/-! The course of the walkthrough: with room for three nodes it comes to its end. -/

namespace PeerCluster.Walkthrough

open Cluster

/-! ### What there is to show -/

/-- The address of the node at a place. -/
def peerAt (config : ClusterConfig) (place : Nat) : PeerAddress :=
  (NodePorts.startingAt (firstPort config place)).peerAddress config.hostName

/-- The endpoint at which the node at a place is registered. -/
def endpointAt (config : ClusterConfig) (place : Nat) : Endpoint :=
  ⟨config.hostName, .ofNat (firstPort config place)⟩

/-- The report that the node at a place is up. -/
def upAt (config : ClusterConfig) (index place : Nat) : NodeReport :=
  let ports := NodePorts.startingAt (firstPort config place)
  ⟨index, peerAt config place, ports.shutdown, ports.admin, .up⟩

/-- The walkthrough came to its end, and has shown three nodes. -/
structure Completed (config : ClusterConfig) (outcome : Outcome) : Prop where
  /-- All nodes have had their turn, and the first one had another. -/
  picks : outcome.picks = [0, 1, 2, 0].map (endpointAt config)
  removed : outcome.removed? = some (peerAt config 1)
  nodes : outcome.nodes = [upAt config 0 0, upAt config 1 2]
  launched : outcome.launched = 3
  remaining : outcome.remaining = 0
  error : outcome.error? = none

/-! ### Stages -/

namespace Scene

/-- Endpoints are resolved, and then comes the second half. -/
def resolve (scene : Scene) (service : Nat) : Logged Outcome := do
  let (picks, error?, scene) ← scene.picks service 4
  match error? with
  | some error => return scene.failed picks error
  | none => scene.finish service picks

/-- A resolver is created, if nodes were started, and endpoints are resolved through it. -/
def proceed (scene : Scene) : Except ClusterError (List Nat) → Logged Outcome
  | .error error => .quiet (scene.failed [] error)
  | .ok _ => do
    let (created, fabric) ← scene.fabric.follow membership (.ofRole .registration) true
    match created with
    | .error error => return { scene with fabric }.failed [] error
    | .ok service => resolve { scene with fabric } service

/-- The task of a resolver has applied nothing yet, so that a pick has to wait. -/
structure NothingApplied (scene : Scene) (service : Nat) : Prop where
  idle : ∃ worker, scene.fabric.worker? service = some worker ∧ worker.resolver.changes = 0 ∧
    worker.balancer = .empty
  waits : (scene.fabric.pollPick service .fresh).1.1 = .pending

end Scene

variable {config : ClusterConfig} {cluster : Cluster NodeTasks Nat} {registry : Registry}

/-- The scene when nodes were started. -/
def opening (cluster : Cluster NodeTasks Nat) (registry : Registry) : Scene :=
  ⟨cluster, ⟨[registry], [], [], [], []⟩⟩

/-- The walkthrough starts nodes, and all that comes after it depends on what this has come to. -/
theorem run_eq (config : ClusterConfig) :
    run config = (do
      let (launched, cluster, registry) ←
        Cluster.scaleUp NodeTasks.launcher 3 (.ofConfig config .empty) .empty
      (opening cluster registry).proceed launched) := rfl

/-! ### The second half -/

/-- One node leaves, the others are up, and all stop in the end. -/
theorem Scene.Invariant.finish {scene : Scene} {nodes : List (RunningNode Nat)} {launched : Nat}
    (invariant : scene.Invariant nodes launched) {node : RunningNode Nat}
    (found : nodes[1]? = some node)
    (others : ∀ other ∈ nodes.eraseIdx 1, other.handle ≠ node.handle) (service : Nat)
    (picks : List Endpoint) :
    (scene.finish service picks).value = ⟨picks, some node.spec.address,
      (nodes.eraseIdx 1).mapIdx fun index node =>
        ⟨index, node.spec.address, node.spec.shutdownPort, node.spec.adminPort, .up⟩,
      launched, 0, none⟩ := by
  -- All stages leave the nodes and their tasks as the next one needs them.
  obtain ⟨removed, fewer⟩ := invariant.remove found others
  unfold Scene.finish
  rw [Logged.bind_eq]
  generalize scene.operate _ = removal at removed fewer ⊢
  obtain ⟨⟨_, later⟩, log⟩ := removal
  obtain rfl : _ = Except.ok node.spec.address := removed
  obtain ⟨waited, _⟩ := fewer.wait
  obtain ⟨stopped, remaining, streams⟩ := (waited.close service).shutdown
  simp only [Logged.bind_eq, waited.report]
  generalize Scene.operate _ _ = ended at stopped remaining streams ⊢
  obtain ⟨⟨_, last⟩, more⟩ := ended
  obtain rfl : _ = Except.ok () := stopped
  rw [NodeTasks.length_streams] at streams
  exact congrArg₂ (fun launched remaining => Outcome.mk picks _ _ launched remaining none) streams
    remaining

/-! ### From the start -/

/-- Nodes that were started are members with tasks of their own, and nobody else has one. -/
theorem NodesStarted.invariant {count : Nat}
    (nodesStarted : NodesStarted config count cluster registry) :
    (opening cluster registry).Invariant (firstNodes config count) count where
  servers := nodesStarted.servers
  members := nodesStarted.members
  inside := Nat.zero_lt_one
  lives := nodesStarted.live.lives
  scheduled := by
    refine ⟨⟨fun id => ?_, List.nodup_nil, List.nodup_nil, nofun⟩, nofun, List.nodup_nil, ?_⟩
    · cases id with
      | zero => exact nodesStarted.live.attached
      | succ => exact Registry.attached_empty
    · exact fun id => iff_of_false nofun nofun
  runs node member := by
    obtain ⟨place, below, rfl⟩ := List.mem_map.mp member
    exact nodesStarted.runs place (List.mem_range.mp below)
  launched := nodesStarted.launched
  strangers _ _ _ := nofun

/-- Four picks among the three nodes come back to the first one. -/
theorem chooseMany_firstNodes (config : ClusterConfig) :
    let candidates := (addresses (firstNodes config 3)).map
      (Projection.ofRole .registration).project
    (RoundRobin.chooseMany 4 ⟨candidates, 0, false⟩).1 =
      ([0, 1, 2, 0].map (endpointAt config)).map some := by
  -- The pool has three slots, so the fourth turn begins another pass.
  have three : (addresses (firstNodes config 3)).map (Projection.ofRole .registration).project =
      [endpointAt config 0, endpointAt config 1, endpointAt config 2] := rfl
  simp [three, RoundRobin.chooseMany, RoundRobin.choose]

/-- Three nodes are resolved one after the other, and then the second one leaves. -/
theorem Scene.Invariant.resolve {scene : Scene}
    (invariant : scene.Invariant (firstNodes config 3) 3)
    (met : scene.fabric.worker? 0 = some (.started NetworkRole.registration.name (.stream membership
      (.ofRole .registration) (.startingAt (addresses (firstNodes config 3))) true))) :
    scene.NothingApplied 0 ∧ Completed config (scene.resolve 0).value := by
  obtain ⟨counted, pool⟩ := Worker.rest_started NetworkRole.registration.name membership
    (.ofRole .registration) (addresses (firstNodes config 3))
  -- Once the task has had its turn, all three nodes are candidates, which is news for the pick.
  obtain ⟨waits, picked, noError, last⟩ := invariant.picks_of_waiting met rfl rfl
    (by rw [counted]; rfl) (by rw [counted]; nofun) (by rw [pool]) (by rw [pool]; nofun) 3
  rw [pool, chooseMany_firstNodes] at picked
  refine ⟨⟨⟨_, met, rfl, rfl⟩, waits⟩, ?_⟩
  unfold Scene.resolve
  rw [Logged.bind_eq]
  generalize scene.picks 0 _ = resolved at picked noError last ⊢
  obtain ⟨⟨picks, error?, later⟩, log⟩ := resolved
  obtain rfl : error? = none := noError
  obtain rfl : picks = _ := List.map_injective_iff.mpr (fun _ _ => Option.some.inj) picked
  have second : (firstNodes config 3)[1]? = some (nodeAt config 1) := rfl
  have others : (firstNodes config 3).eraseIdx 1 = [nodeAt config 0, nodeAt config 2] := rfl
  have finished := last.finish second (by rw [others]; simp [nodeAt]) 0
    ([0, 1, 2, 0].map (endpointAt config))
  exact ⟨congrArg Outcome.picks finished, congrArg Outcome.removed? finished,
    congrArg Outcome.nodes finished, congrArg Outcome.launched finished,
    congrArg Outcome.remaining finished, congrArg Outcome.error? finished⟩

/-- Three nodes that were started are resolved one after the other, and the second one leaves. -/
theorem NodesStarted.proceed (nodesStarted : NodesStarted config 3 cluster registry)
    (places : List Nat) :
    ∃ (log : List LogRecord) (scene : Scene),
      (opening cluster registry).proceed (.ok places) = (do
        Logged.emitAll log
        scene.resolve 0) ∧
      scene.NothingApplied 0 ∧ Completed config (scene.resolve 0).value := by
  -- The resolver is created with the members as its replay, and its task is due.
  obtain ⟨created, invariant, met⟩ := nodesStarted.invariant.follow nodesStarted.known
    (.ofRole .registration)
  unfold Scene.proceed
  generalize (opening cluster registry).fabric.follow membership _ true = followed
    at created invariant met ⊢
  obtain ⟨⟨_, fabric⟩, log⟩ := followed
  obtain rfl : _ = Except.ok 0 := created
  exact ⟨log, ⟨cluster, fabric⟩, rfl, invariant.resolve met⟩

/-- Nodes for which there is no room are missed at once, and nothing but the error is shown. -/
theorem NodesStarted.failed {count : Nat}
    (nodesStarted : NodesStarted config count cluster registry) (error : ClusterError) :
    (opening cluster registry).failed [] error = ⟨[], none, [], count, count, some error⟩ := by
  -- Each launched node has a task, and those that started are the size of the cluster.
  show Outcome.mk [] none [] cluster.launcher.tasks.length cluster.size (some error) = _
  rw [← NodeTasks.length_streams, nodesStarted.launched, nodesStarted.size]

/--
The walkthrough comes to its end if there is room for three nodes, and fails otherwise.

With room, the first endpoint is asked for before the resolver knows of any, and all the same all
are resolved in their order. Without room, the error is about the first node that has none, those
before it were launched, and nothing happens after that.
-/
theorem walks_where_there_is_room (config : ClusterConfig) :
    if firstPort config 2 ≤ 65531 then
      (∃ (log : List LogRecord) (scene : Scene),
        run config = (do
          Logged.emitAll log
          scene.resolve 0) ∧
        scene.NothingApplied 0) ∧
      Completed config (run config).value ∧
      ∀ place ≤ 2, (endpointAt config place).port.toNat = firstPort config place
    else
      let growth := Cluster.scaleUp NodeTasks.launcher 3 (.ofConfig config .empty) .empty
      ∃ place ≤ 2, 65531 < firstPort config place ∧
        (∀ earlier < place, firstPort config earlier ≤ 65531) ∧
        let error := ClusterError.portSpaceExhausted (firstPort config place) config.ports.stride
        growth.value.1 = .error error ∧
          run config = growth.map fun _ => ⟨[], none, [], place, place, some error⟩ := by
  -- The growth decides: all three nodes have started, or one had no block and ended it.
  obtain ⟨started, fit, nodesStarted, ended⟩ := (nodesStarted_empty config).scaleUp 3
  rw [run_eq, Logged.bind_eq]
  generalize Cluster.scaleUp NodeTasks.launcher 3 (.ofConfig config .empty) .empty = growth
    at nodesStarted ended ⊢
  rw [Nat.zero_add] at fit nodesStarted ended
  obtain ⟨⟨result, cluster, registry⟩, log⟩ := growth
  rcases ended with ⟨rfl, places, answer⟩ | ⟨fewer, full, answer⟩
  · obtain rfl : result = .ok places := answer
    have room := fits_iff.mp (fit 2 (Nat.zero_le _) (by decide))
    rw [if_pos room]
    obtain ⟨more, scene, course, nothingApplied, completed⟩ := nodesStarted.proceed places
    dsimp only
    rw [course]
    refine ⟨⟨log ++ more, scene, ?_, nothingApplied⟩, completed, fun place within => ?_⟩
    · exact congrArg (Logged.mk _) (List.append_assoc log more _).symm
    · have below := firstPort_mono config within
      exact UInt16.toNat_ofNat_of_lt' (by unfold UInt16.size; omega)
  · -- The first node without a block is one of the three, so the last one has none either.
    obtain rfl : result = _ := answer
    have past := Nat.lt_of_not_le (mt fits_iff.mpr full)
    have late := firstPort_mono config (Nat.lt_succ_iff.mp fewer)
    rw [if_neg (by omega)]
    refine ⟨started, Nat.lt_succ_iff.mp fewer, past, fun earlier before => ?_, rfl, ?_⟩
    · exact fits_iff.mp (fit earlier (Nat.zero_le _) before)
    · show Logged.mk ((opening cluster registry).failed [] _) (log ++ []) = _
      rw [nodesStarted.failed, List.append_nil]
      rfl

end PeerCluster.Walkthrough
