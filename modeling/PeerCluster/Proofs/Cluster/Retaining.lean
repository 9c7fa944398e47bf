import PeerCluster.Proofs.Cluster.Blocks
import PeerCluster.Proofs.Cluster.Orders

/-! Who fails to stop is still held, unless it was started for a membership that had drifted. -/

namespace PeerCluster

open Machine

variable {σ η : Type} {launchers : Launcher σ η}

namespace Cluster

/-! ### Blocks to come -/

/-- Whatever the launcher was told to start since has a block behind those that were gone. -/
structure BlocksAhead (cluster left : Cluster (Journaled σ η) η) : Prop where
  config : left.config = cluster.config
  next : cluster.allocator.next ≤ left.allocator.next
  told : ∃ told, left.launcher.journal = cluster.launcher.journal ++ told ∧
    ∀ spec stream result, .launch spec stream result ∈ told → ∃ first,
      cluster.allocator.next ≤ first ∧ first + portsPerNode ≤ UInt16.size ∧
        spec = cluster.specFor (.startingAt first)

namespace BlocksAhead

variable {cluster middle left : Cluster (Journaled σ η) η}

/-- Nothing is told by doing nothing. -/
theorem refl (cluster : Cluster (Journaled σ η) η) : BlocksAhead cluster cluster :=
  ⟨rfl, Nat.le_refl _, [], (List.append_nil _).symm, nofun⟩

/-- Blocks behind later ones are behind the earlier ones as well. -/
theorem trans (first : BlocksAhead cluster middle) (second : BlocksAhead middle left) :
    BlocksAhead cluster left := by
  obtain ⟨config, next, told, journal, launches⟩ := first
  obtain ⟨config', next', told', journal', launches'⟩ := second
  -- What was told is told in two parts, and a launch is in one of them.
  refine ⟨config'.trans config, Nat.le_trans next next', told ++ told', ?_, ?_⟩
  · rw [journal', journal, List.append_assoc]
  · intro spec stream result member
    rcases List.mem_append.mp member with earlier | later
    · exact launches spec stream result earlier
    · -- The settings are still the same, so the block makes for the same node.
      obtain ⟨first, above, fits, rfl⟩ := launches' spec stream result later
      refine ⟨first, Nat.le_trans next above, fits, ?_⟩
      simp only [specFor, config]

end BlocksAhead

/-- No port of a node lies before the block that the node got. -/
theorem le_of_mem_ports (cluster : Cluster σ η) {first : Nat}
    (fits : first + portsPerNode ≤ UInt16.size) {port : UInt16}
    (member : port ∈ (cluster.specFor (.startingAt first)).ports) : first ≤ port.toNat := by
  -- The ports of a node are its first one and those next to it.
  have listed : port.toNat ∈ (NodePorts.startingAt first).toList.map UInt16.toNat :=
    List.mem_map_of_mem member
  rw [NodePorts.toNat_startingAt fits] at listed
  simp only [List.mem_cons, List.not_mem_nil, or_false] at listed
  omega

namespace Attempt

variable {cluster left : Cluster (Journaled σ η) η} {members members' : List PeerAddress}
  {stream : EndpointEvents} {call : ClusterCall} {granted : Bool} {told : List (LauncherCall η)}

/-- An attempt tells the launcher at most of the next block. -/
theorem blocksAhead
    (attempt : Attempt launchers cluster members stream call granted told left members') :
    BlocksAhead cluster left := by
  -- Every launch is of the next block, which is the first one behind those that are gone.
  cases attempt with
  | aside | full | absent => exact .refl cluster
  | refused fits | abandoned fits =>
    refine ⟨rfl, Nat.le_refl _, _, rfl, ?_⟩
    intro spec stream result member
    simp only [List.mem_cons, List.not_mem_nil, or_false, reduceCtorEq] at member
    obtain ⟨rfl, _⟩ := LauncherCall.launch.inj member
    exact ⟨_, Nat.le_refl _, fits, rfl⟩
  | started fits =>
    refine ⟨rfl, Nat.le_add_right _ _, _, rfl, ?_⟩
    intro spec stream result member
    obtain ⟨rfl, _⟩ := LauncherCall.launch.inj (List.mem_singleton.mp member)
    exact ⟨_, Nat.le_refl _, fits, rfl⟩
  -- To stop a node is no launch.
  | kept | stopped =>
    refine ⟨rfl, Nat.le_refl _, _, rfl, ?_⟩
    intro spec stream result member
    cases List.mem_singleton.mp member

/-! ### Stops that fail -/

/-- Where the next node would stand with its address, an attempt to start it stops nobody. -/
theorem up_of_placed
    (attempt : Attempt launchers cluster members stream .up granted told left members')
    (placed : members.length = cluster.size) :
    members'.length = left.size ∧ ∀ handle result, .stop handle result ∉ told := by
  -- Without room nothing is told, and where the launch fails nobody is stopped.
  cases attempt with
  | full => exact ⟨placed, nofun⟩
  | refused => exact ⟨placed, by simp⟩
  | abandoned fits asked granted misplaced => exact absurd placed misplaced
  -- The node and its address join together, so they still stand alike.
  | started => exact ⟨by simp [placed, size], by simp⟩

/-- Elsewhere no node is started for good, and the next one is the same as before. -/
theorem up_of_misplaced
    (attempt : Attempt launchers cluster members stream .up granted told left members')
    (misplaced : members.length ≠ cluster.size) :
    granted = false ∧ left.servers = cluster.servers ∧ left.nextSpec = cluster.nextSpec ∧
      left.allocator = cluster.allocator ∧ members' = members ∧
      ∀ handle error, .stop handle (.error error) ∈ told →
        cluster.allocator.next + portsPerNode ≤ UInt16.size ∧
        told = [.launch cluster.nextSpec stream (.ok handle), .stop handle (.error error)] := by
  -- By the ways in which an attempt can end; a node that is started for good is placed.
  cases attempt with
  | full => exact ⟨rfl, rfl, rfl, rfl, rfl, nofun⟩
  | refused => exact ⟨rfl, rfl, rfl, rfl, rfl, by simp⟩
  | abandoned fits =>
    refine ⟨rfl, rfl, rfl, rfl, rfl, fun handle error member => ⟨fits, ?_⟩⟩
    -- Of the two things told, only the second one is a stop, and it names the node and the error.
    simp only [List.mem_cons, List.not_mem_nil, or_false, reduceCtorEq, false_or,
      LauncherCall.stop.injEq] at member
    rw [← member.1, ← member.2]
  | started fits asked granted placed => exact absurd placed misplaced

/-- Where there is room, an attempt to start a node tells the launcher of it first. -/
theorem launch_of_fits
    (attempt : Attempt launchers cluster members stream .up granted told left members')
    (fits : cluster.allocator.next + portsPerNode ≤ UInt16.size) :
    ∃ result more, told = .launch cluster.nextSpec stream result :: more := by
  -- The only way not to tell the launcher is for lack of room.
  cases attempt with
  | full none => exact absurd fits (Nat.not_le_of_lt none)
  | refused | abandoned | started => exact ⟨_, _, rfl⟩

/-- An attempt to stop a node that fails leaves it where it stands. -/
theorem down_of_refused {index : Nat}
    (attempt : Attempt launchers cluster members stream (.down index) false told left members') :
    left.servers = cluster.servers ∧ members' = members ∧
      ∀ handle error, .stop handle (.error error) ∈ told → ∃ node,
        node.handle = handle ∧ cluster.servers[index]? = some node ∧
          members[index]? = some node.spec.address := by
  cases attempt with
  -- Whoever is not there with its address is not told to stop.
  | absent => exact ⟨rfl, rfl, nofun⟩
  | kept found placed =>
    -- Only this one node was told to stop, and it is still found with its address.
    refine ⟨rfl, rfl, fun handle error member => ⟨_, ?_, found, placed⟩⟩
    exact (LauncherCall.stop.inj (List.mem_singleton.mp member)).1.symm

/-- An attempt to stop a node that succeeds takes that one out. -/
theorem down_of_granted {index : Nat}
    (attempt : Attempt launchers cluster members stream (.down index) true told left members') :
    left.servers = cluster.servers.eraseIdx index ∧
      ∀ handle error, .stop handle (.error error) ∉ told := by
  cases attempt with
  | stopped => exact ⟨rfl, by simp⟩

/-- A node that stands with its address is what the launcher is told to stop. -/
theorem stop_of_placed {index : Nat} {node : RunningNode η}
    (attempt : Attempt launchers cluster members stream (.down index) granted told left members')
    (found : cluster.servers[index]? = some node)
    (placed : members[index]? = some node.spec.address) :
    ∃ result, told = [.stop node.handle result] := by
  cases attempt with
  -- The node does stand with its address, so it is not taken for one that does not.
  | absent none => exact absurd placed (none node found)
  | kept found' | stopped found' =>
    obtain rfl := Option.some.inj (found.symm.trans found')
    exact ⟨_, rfl⟩

end Attempt

end Cluster

/-! ### Calls -/

namespace Deployment

open Cluster

variable {deployment : Deployment (Journaled σ η) η}

/-- Whatever is asked, the launcher is only ever told of blocks behind those that were gone. -/
theorem blocksAhead_after (same : deployment.launchers = launchers.journaling)
    (calls : List ClusterCall) :
    BlocksAhead deployment.cluster (after deployment calls).cluster := by
  -- Whatever attempts are made, the blocks stay ahead of those of the start.
  have keptByCalls : KeptByCalls launchers.journaling fun left _ =>
      BlocksAhead deployment.cluster left := by
    refine ⟨?_, ?_, fun _ _ blocksAhead => blocksAhead⟩
    · intro cluster registry blocksAhead
      obtain ⟨told, attempt⟩ := attempt_scaleUpByOne launchers cluster registry
      exact blocksAhead.trans attempt.blocksAhead
    · intro cluster registry index blocksAhead
      obtain ⟨told, attempt⟩ := attempt_scaleDownByOne launchers cluster registry index
      exact blocksAhead.trans attempt.blocksAhead
  exact (keptByCalls.after same (.refl _) calls).2

/-- The ports of whoever is held lie before the next block. -/
theorem port_lt_next (launchers : Launcher σ η) {config : ClusterConfig}
    (valid : config.validate = .ok config) (launcher : σ) (calls : List ClusterCall) :
    let final := after (start launchers config launcher) calls
    ∀ node ∈ final.cluster.servers, ∀ port ∈ node.spec.ports,
      port.toNat < final.cluster.allocator.next := by
  intro final node held port member
  let begun := start launchers config launcher
  let nodes := begun.everStarted calls
  let stride := config.ports.stride.toNat
  obtain ⟨allots, running⟩ := takes_after begun calls
  -- Whoever is held has got one of the blocks that are gone.
  have started : node ∈ nodes := running node held
  obtain ⟨place, inside, rfl⟩ := List.mem_iff_getElem.mp started
  have above : port.toNat < begun.cluster.allocator.next + place * stride + portsPerNode :=
    (allots.port_bounds (List.getElem?_eq_getElem inside) member).2
  have next : final.cluster.allocator.next =
      begun.cluster.allocator.next + nodes.length * stride := allots.next
  -- A stride is wide enough for a block, and the next one is at least a stride behind.
  have apart : portsPerNode ≤ stride := config.apart_of_valid valid
  have steps := Nat.mul_le_mul_right stride (Nat.succ_le_of_lt inside)
  rw [Nat.succ_mul] at steps
  omega

/-- Somebody stands where he stood before, and his address is the member there. -/
def Retains (before final : Deployment (Journaled σ η) η) (handle : η) : Prop :=
  ∃ (index : Nat) (node : RunningNode η), node.handle = handle ∧
    before.cluster.servers[index]? = some node ∧ final.cluster.servers[index]? = some node ∧
    final.registry.members[index]? = some node.spec.address

/-- A node was started for a drifted membership and failed to stop, and nothing tells of it. -/
structure DropsDriftedNode (before final : Deployment (Journaled σ η) η)
    (told : List (LauncherCall η)) (handle : η) (error : ClusterError) : Prop where
  misplaced : before.registry.members.length ≠ before.cluster.size
  fits : before.cluster.allocator.next + portsPerNode ≤ UInt16.size
  told : told = [.launch before.cluster.nextSpec (.replicating before.registry.nextId) (.ok handle),
    .stop handle (.error error)]
  servers : final.cluster.servers = before.cluster.servers
  allocator : final.cluster.allocator = before.cluster.allocator
  nextSpec : final.cluster.nextSpec = before.cluster.nextSpec
  members : final.registry.members = before.registry.members

/-- A single request to start a node stops only who was started in vain. -/
theorem failed_stop_up (same : deployment.launchers = launchers.journaling) :
    ∃ told, (next deployment .up).cluster.launcher.journal =
        deployment.cluster.launcher.journal ++ told ∧
      ∀ handle error, .stop handle (.error error) ∈ told →
        DropsDriftedNode deployment (next deployment .up) told handle error := by
  obtain ⟨told, attempt⟩ := attempt_up same
  refine ⟨told, attempt.journal_eq, ?_⟩
  intro handle error failed
  -- Where nodes stand with members nobody is stopped, so there is nothing to tell of.
  by_cases placed : deployment.registry.members.length = deployment.cluster.size
  · exact absurd failed ((attempt.up_of_placed placed).2 handle _)
  · obtain ⟨_, servers, nextSpec, allocator, members, stops⟩ := attempt.up_of_misplaced placed
    obtain ⟨fits, told⟩ := stops handle error failed
    exact ⟨placed, fits, told, servers, allocator, nextSpec, members⟩

/-- As long as nodes stand with members, those who start several of them stop none. -/
theorem told_ups_of_placed (same : deployment.launchers = launchers.journaling)
    (placed : deployment.registry.members.length = deployment.cluster.size) (count : Nat) :
    ∃ told, (after deployment (deployment.ups count)).cluster.launcher.journal =
        deployment.cluster.launcher.journal ++ told ∧
      ∀ handle result, .stop handle result ∉ told := by
  -- By induction on the number of nodes, as long as all of them stand with members.
  induction count generalizing deployment with
  | zero => exact ⟨[], (List.append_nil _).symm, nofun⟩
  | succ count ih =>
    obtain ⟨told, attempt⟩ := attempt_up same
    obtain ⟨still, launches⟩ := attempt.up_of_placed placed
    rw [ups, after]
    split
    · -- The others start where the first one stands with its address as well.
      obtain ⟨more, journal, launches'⟩ := ih ((launchers_next ..).trans same) still
      refine ⟨told ++ more, ?_, ?_⟩
      · rw [journal, attempt.journal_eq, List.append_assoc]
      · intro handle result member
        rcases List.mem_append.mp member with first | later
        · exact launches handle result first
        · exact launches' handle result later
    · -- The first attempt fails, and no other one is made.
      exact ⟨told, attempt.journal_eq, launches⟩

/-- Nodes that stop in a row stay where they stand once one of them fails to. -/
theorem failed_stop_downs (same : deployment.launchers = launchers.journaling) (count : Nat) :
    let final := after deployment (deployment.downs count)
    ∃ told, final.cluster.launcher.journal = deployment.cluster.launcher.journal ++ told ∧
      ∀ handle error, .stop handle (.error error) ∈ told → ∃ index node, index < count ∧
        node.handle = handle ∧ deployment.cluster.servers[index]? = some node ∧
        final.cluster.servers[index]? = some node ∧
        final.registry.members[index]? = some node.spec.address := by
  -- By induction on the number of stops, which go on until one of them fails.
  induction count generalizing deployment with
  | zero => exact ⟨[], (List.append_nil _).symm, nofun⟩
  | succ count ih =>
    obtain ⟨told, attempt⟩ := attempt_down same count
    rw [downs, after]
    split
    · -- The last one is gone, so the failure is that of somebody before it.
      rename_i granted
      rw [granted] at attempt
      obtain ⟨servers, stops⟩ := attempt.down_of_granted
      obtain ⟨more, journal, fails⟩ := ih ((launchers_next ..).trans same)
      refine ⟨told ++ more, ?_, ?_⟩
      · rw [journal, attempt.journal_eq, List.append_assoc]
      · intro handle error member
        have later := (List.mem_append.mp member).resolve_left (stops handle error)
        obtain ⟨index, node, below, own, found, rest⟩ := fails handle error later
        rw [servers, List.getElem?_eraseIdx_of_lt below] at found
        exact ⟨index, node, Nat.lt_succ_of_lt below, own, found, rest⟩
    · rename_i refused
      rw [Bool.eq_false_iff.mpr refused] at attempt
      -- The failure is that of this node, which stays where it stands.
      obtain ⟨servers, members, fails⟩ := attempt.down_of_refused
      refine ⟨told, attempt.journal_eq, fun handle error failed => ?_⟩
      obtain ⟨node, own, found, placed⟩ := fails handle error failed
      exact ⟨count, node, Nat.lt_succ_self _, own, found, servers ▸ found, members ▸ placed⟩

/-- Whoever fails to stop is retained, unless it was started for a drifted membership. -/
theorem failed_stop (same : deployment.launchers = launchers.journaling) (call : ClusterCall) :
    ∃ told, (next deployment call).cluster.launcher.journal =
        deployment.cluster.launcher.journal ++ told ∧
      ∀ handle error, .stop handle (.error error) ∈ told →
        Retains deployment (next deployment call) handle ∨
          DropsDriftedNode deployment (next deployment call) told handle error := by
  cases call with
  | up =>
    obtain ⟨told, journal, fails⟩ := failed_stop_up same
    exact ⟨told, journal, fun handle error failed => .inr (fails handle error failed)⟩
  | upMany count =>
    rw [← after_ups]
    by_cases placed : deployment.registry.members.length = deployment.cluster.size
    · obtain ⟨told, journal, launches⟩ := told_ups_of_placed same placed count
      -- All of them are started side by side with their addresses, so none is stopped.
      exact ⟨told, journal, fun handle error failed => absurd failed (launches handle _)⟩
    · cases count with
      | zero => exact ⟨[], (List.append_nil _).symm, nofun⟩
      | succ count =>
        -- Already the first attempt fails, and it is the only one.
        obtain ⟨_, attempt⟩ := attempt_up same
        obtain ⟨refused, _⟩ := attempt.up_of_misplaced placed
        obtain ⟨told, journal, fails⟩ := failed_stop_up same
        rw [ups, refused]
        exact ⟨told, journal, fun handle error failed => .inr (fails handle error failed)⟩
  | down index =>
    obtain ⟨told, attempt⟩ := attempt_down same index
    refine ⟨told, attempt.journal_eq, fun handle error failed => .inl ?_⟩
    -- A stop that succeeds tells of no failure.
    cases granted : (answerTo deployment (.down index)).granted with
    | true =>
      rw [granted] at attempt
      exact absurd failed (attempt.down_of_granted.2 handle error)
    | false =>
      -- One that fails leaves the node where it stands.
      rw [granted] at attempt
      obtain ⟨servers, members, fails⟩ := attempt.down_of_refused
      obtain ⟨node, own, found, placed⟩ := fails handle error failed
      exact ⟨index, node, own, found, servers ▸ found, members ▸ placed⟩
  | shutdown =>
    rw [← after_attempts]
    obtain ⟨told, journal, fails⟩ := failed_stop_downs same deployment.cluster.size
    refine ⟨told, journal, fun handle error failed => .inl ?_⟩
    -- Several stops in a row leave whoever fails to stop, as one does.
    obtain ⟨index, node, _, retained⟩ := fails handle error failed
    exact ⟨index, node, retained⟩
  | membership asked =>
    rw [cluster_of_membership]
    -- A call past the cluster tells the launcher nothing.
    exact ⟨[], (List.append_nil _).symm, nofun⟩

/--
Who fails to stop is still held, unless it was started for a membership that had drifted.

Whoever is held stands where it stood. It is reported there, the next request for this position
tells the launcher to stop it again, and no node that is started from then on gets one of its ports.
But a node that was started where it cannot stand with its address is dropped if it cannot be
stopped: nobody holds it, and its ports are offered to the next one.
-/
theorem failed_stop_retains_unless_drifted (launchers : Launcher σ η) {config : ClusterConfig}
    (valid : config.validate = .ok config) (launcher : σ) (calls : List ClusterCall)
    (call : ClusterCall) :
    let begun : Deployment (Journaled σ η) η := start launchers.journaling config ⟨launcher, []⟩
    let before := after begun calls
    let final := next before call
    let journal := final.cluster.launcher.journal
    ∃ told, journal = before.cluster.launcher.journal ++ told ∧
      ∀ handle error, .stop handle (.error error) ∈ told →
        (∃ index node, node.handle = handle ∧ before.cluster.servers[index]? = some node ∧
          final.cluster.servers[index]? = some node ∧
          (final.cluster.report final.launchers)[index]? = some ⟨index, node.spec.address,
            node.spec.shutdownPort, node.spec.adminPort,
            final.launchers.state final.cluster.launcher handle⟩ ∧
          (∃ result, (next final (.down index)).cluster.launcher.journal =
            journal ++ [.stop handle result]) ∧
          ∀ more spec stream result,
            .launch spec stream result ∈
              (after final more).cluster.launcher.journal.drop journal.length →
            ∀ port ∈ node.spec.ports, port ∉ spec.ports) ∨
        (before.registry.members.length ≠ before.cluster.size ∧
          told = [.launch before.cluster.nextSpec (.replicating before.registry.nextId)
            (.ok handle), .stop handle (.error error)] ∧
          final.cluster.servers = before.cluster.servers ∧
          ∃ stream result more, (next final .up).cluster.launcher.journal =
            journal ++ .launch before.cluster.nextSpec stream result :: more) := by
  intro begun before final journal
  have same : before.launchers = launchers.journaling := launchers_after ..
  have same' : final.launchers = launchers.journaling := (launchers_next before call).trans same
  obtain ⟨told, written, fails⟩ := failed_stop same call
  refine ⟨told, written, fun handle error failed => ?_⟩
  rcases fails handle error failed with ⟨index, node, rfl, held, still, placed⟩ | dropsNode
  · refine .inl ⟨index, node, rfl, held, still, ?_, ?_, ?_⟩
    · -- The report goes through the nodes in their order.
      simp only [report, List.getElem?_mapIdx]
      rw [still]
      rfl
    · -- It stands with its address, so the launcher is told of it again.
      obtain ⟨told, attempt⟩ := attempt_down same' index
      obtain ⟨result, rfl⟩ := attempt.stop_of_placed still placed
      exact ⟨result, attempt.journal_eq⟩
    · intro more spec stream result launched port member taken
      obtain ⟨_, _, told, written, launches⟩ := blocksAhead_after same' more
      rw [written, List.drop_left] at launched
      obtain ⟨first, above, fits, rfl⟩ := launches spec stream result launched
      -- Its ports lie before the next block, and those of newcomers do not.
      have below : port.toNat < final.cluster.allocator.next := by
        have reached : final = after begun (calls ++ [call]) :=
          (after_append begun calls [call]).symm
        rw [reached]
        exact port_lt_next launchers.journaling valid _ _ node
          (reached ▸ List.mem_of_getElem? still) port member
      have beyond := le_of_mem_ports final.cluster fits taken
      omega
  · refine .inr ⟨dropsNode.misplaced, dropsNode.told, dropsNode.servers, ?_⟩
    -- Its block was not taken, so it is the one that the next attempt tells of.
    obtain ⟨told, attempt⟩ := attempt_up same'
    obtain ⟨result, more, rfl⟩ := attempt.launch_of_fits (dropsNode.allocator ▸ dropsNode.fits)
    rw [attempt.journal_eq, dropsNode.nextSpec]
    exact ⟨_, result, more, rfl⟩

/-- A node starts, somebody else joins behind it, and the launcher fails to stop the first node. -/
theorem failed_stop_retains_unless_drifted_of_three_calls :
    let stuck := ClusterError.launcher "stop" "stuck"
    let begun : Deployment (Journaled Recorder Nat) Nat := start Recorder.launcher.journaling
      .standard ⟨{ Recorder.fresh true with stopScript := [some stuck] }, []⟩
    let before := after begun [.up, .membership (.add (.sample 1))]
    let final := next before .shutdown
    ClusterConfig.standard.validate = .ok .standard ∧
      final.cluster.launcher.journal =
        before.cluster.launcher.journal ++ [.stop 0 (.error stuck)] ∧
      ∃ (index : Nat) (node : RunningNode Nat), node.handle = 0 ∧
        final.cluster.servers[index]? = some node := by
  intro stuck begun before final
  have journal : final.cluster.launcher.journal =
      before.cluster.launcher.journal ++ [.stop 0 (.error stuck)] := rfl
  refine ⟨by decide, journal, ?_⟩
  obtain ⟨told, written, fails⟩ := failed_stop_retains_unless_drifted Recorder.launcher
    (by decide : ClusterConfig.standard.validate = .ok .standard)
    { Recorder.fresh true with stopScript := [some stuck] }
    [.up, .membership (.add (.sample 1))] .shutdown
  -- The journal tells what was told, so the failure is the one stop in it.
  obtain rfl : told = _ := List.append_cancel_left (written.symm.trans journal)
  -- The second node was not launched by this call, so it is the first alternative that holds.
  rcases fails 0 stuck List.mem_cons_self with ⟨index, node, own, _, held, _⟩ | ⟨_, told, _⟩
  · exact ⟨index, node, own, held⟩
  · cases told

/-- A node that cannot be stopped over a drifted membership is dropped, and its ports are reused. -/
theorem forsakes_node_of_drift :
    let stuck := ClusterError.launcher "stop" "stuck"
    let begun : Deployment (Journaled Recorder Nat) Nat := start Recorder.launcher.journaling
      .standard ⟨{ Recorder.fresh true with stopScript := [some stuck] }, []⟩
    let final := after begun [.up, .membership (.add (.sample 1)), .up]
    let later := after final [.membership (.remove 1), .up]
    let spec := final.cluster.specFor (.startingAt 13010)
    final.cluster.launcher.journal.drop 1 =
        [.launch spec (.replicating 1) (.ok 1), .stop 1 (.error stuck)] ∧
      (∀ node ∈ final.cluster.servers, node.handle ≠ 1) ∧
      later.cluster.launcher.journal.drop 3 = [.launch spec (.replicating 2) (.ok 2)] :=
  ⟨rfl, by decide, rfl⟩

end Deployment

end PeerCluster
