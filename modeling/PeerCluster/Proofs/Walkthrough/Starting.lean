import PeerCluster.Proofs.Cluster.Blocks
import PeerCluster.Proofs.Walkthrough.Tasks

/-! As many nodes of the walkthrough start as there are blocks of ports for them. -/

namespace PeerCluster.Walkthrough

open Cluster

/-! ### Nodes and their places -/

/-- Where the block of a place begins, which may be past the last port. -/
def firstPort (config : ClusterConfig) (place : Nat) : Nat :=
  config.ports.basePort.toNat + place * config.ports.stride.toNat

/-- The block of a place ends before the ports do. -/
def Fits (config : ClusterConfig) (place : Nat) : Prop :=
  firstPort config place + portsPerNode ≤ UInt16.size

variable {config : ClusterConfig}

/-- A block fits if it begins five ports before the end, or earlier. -/
theorem fits_iff {place : Nat} : Fits config place ↔ firstPort config place ≤ 65531 := by
  unfold Fits portsPerNode UInt16.size
  omega

/-- Later places begin at later ports, or at the same. -/
theorem firstPort_mono (config : ClusterConfig) {place later : Nat} (before : place ≤ later) :
    firstPort config place ≤ firstPort config later :=
  Nat.add_le_add_left (Nat.mul_le_mul_right _ before) _

/-- The node that is started at a place. -/
def nodeAt (config : ClusterConfig) (place : Nat) : RunningNode Nat :=
  let cluster : Cluster NodeTasks Nat := .ofConfig config .empty
  ⟨cluster.specFor (.startingAt (firstPort config place)), place⟩

/-- The nodes at the first places. -/
def firstNodes (config : ClusterConfig) (count : Nat) : List (RunningNode Nat) :=
  (List.range count).map (nodeAt config)

/-- One more node comes last. -/
theorem firstNodes_succ (config : ClusterConfig) (count : Nat) :
    firstNodes config (count + 1) = firstNodes config count ++ [nodeAt config count] := by
  simp [firstNodes, List.range_succ]

/-- The addresses of nodes, in their order. -/
def addresses (nodes : List (RunningNode Nat)) : List PeerAddress :=
  nodes.map fun node => node.spec.address

/-- The nodes at the first places are running, are members, and have taken all blocks so far. -/
structure NodesStarted (config : ClusterConfig) (count : Nat) (cluster : Cluster NodeTasks Nat)
    (registry : Registry) : Prop where
  settings : cluster.config = config
  allocator : cluster.allocator = ⟨config.ports, firstPort config count⟩
  servers : cluster.servers = firstNodes config count
  members : registry.members = addresses (firstNodes config count)
  live : registry.LiveAttached
  runs : ∀ handle < count, cluster.launcher.Runs handle
  launched : cluster.launcher.streams.length = count
  known : ∀ stream ∈ cluster.launcher.streams, stream < registry.nextId

/-- Nobody is running before anybody was started. -/
theorem nodesStarted_empty (config : ClusterConfig) :
    NodesStarted config 0 (.ofConfig config .empty) .empty := by
  -- There are no nodes at all, and the first block begins at the base port.
  refine ⟨rfl, ?_, rfl, rfl, ⟨rfl, Registry.attached_empty⟩, nofun, rfl, nofun⟩
  simp [ofConfig, PortAllocator.ofLayout, firstPort]

variable {count : Nat} {cluster : Cluster NodeTasks Nat} {registry : Registry}

/-- As many nodes are running as were started. -/
theorem NodesStarted.size (nodesStarted : NodesStarted config count cluster registry) :
    cluster.size = count := by
  -- The servers are listed by their places.
  simp [Cluster.size, nodesStarted.servers, firstNodes]

/-- One more node starts if there is a block of ports for it, and nothing happens otherwise. -/
theorem NodesStarted.scaleUpByOne (nodesStarted : NodesStarted config count cluster registry) :
    let outcome := (scaleUpByOne NodeTasks.launcher cluster registry).value
    (Fits config count ∧ outcome.1 = .ok count ∧
      NodesStarted config (count + 1) outcome.2.1 outcome.2.2) ∨
    (¬ Fits config count ∧ outcome =
      (.error (.portSpaceExhausted (firstPort config count) config.ports.stride), cluster,
        registry)) := by
  have size := nodesStarted.size
  obtain ⟨rfl, allocator, servers, members, live, runs, launched, known⟩ := nodesStarted
  have next : cluster.allocator.next = firstPort cluster.config count := by rw [allocator]
  by_cases fits : Fits cluster.config count
  · refine .inl ⟨fits, ?_⟩
    have room : cluster.allocator.next + portsPerNode ≤ UInt16.size := by
      rw [next]
      exact fits
    have block := PortAllocator.peek_of_fits room
    have growth := scaleUpByOne_growth NodeTasks.launcher cluster registry
    generalize Cluster.scaleUpByOne NodeTasks.launcher cluster registry = outcome at growth
    -- Node tasks are never refused, and the membership is in step with the nodes.
    cases growth with
    | full none => cases block.symm.trans none
    | refused offered asked refusal errorFree =>
      subst asked
      cases refusal
    | drifted offered asked started misplaced =>
      refine absurd ?_ misplaced
      simp [size, members, addresses, firstNodes]
    | @grown ports reply handle log offered asked started placed errorFree =>
      obtain rfl := Except.ok.inj (block.symm.trans offered)
      subst asked
      obtain ⟨handed, released, streams, own, others⟩ :=
        cluster.launcher.launch_spec (cluster.specFor (.startingAt cluster.allocator.next))
          (.replicating registry.nextId)
      rw [launched] at handed own
      obtain rfl : count = handle := Except.ok.inj (handed.symm.trans started)
      have newest : (⟨cluster.specFor (.startingAt cluster.allocator.next), count⟩ :
          RunningNode Nat) = nodeAt cluster.config count := by
        rw [next]
        rfl
      -- The next block begins a stride later, and the node comes last among servers and members.
      refine ⟨by rw [size], rfl, ?_, ?_, ?_, ?_, ?_, ?_, ?_⟩
      · simp [allocator, PortAllocator.commit, firstPort, Nat.succ_mul, Nat.add_assoc]
      · show cluster.servers ++ [_] = _
        rw [newest, servers, firstNodes_succ]
      · show registry.members ++ [_] = _
        rw [members, firstNodes_succ, addresses, addresses, List.map_append, List.map_singleton,
          ← newest]
      · exact liveAttached_joinedBy live _ _
      · -- The launched node has a handle of its own, and the others run as before.
        intro handle below
        rcases Nat.lt_succ_iff_lt_or_eq.mp below with older | rfl
        · exact others handle (runs handle older)
        · exact own
      · have streams :
            (cluster.launcher.launch _ (.replicating registry.nextId)).launcher.streams = _ :=
          streams
        exact (congrArg List.length streams).trans (by simp [launched])
      · intro stream member
        -- The stream of the node was opened last, so its number is below the next one.
        have opened : (joinedBy cluster registry (.startingAt cluster.allocator.next) []).nextId =
            registry.nextId + 1 := by
          unfold joinedBy
          rw [Registry.nextId_announce]
          exact Registry.nextId_subscribe _
        show stream < (joinedBy cluster registry _ []).nextId
        rw [opened]
        rcases List.mem_append.mp (streams ▸ member) with older | newest
        · exact Nat.lt_succ_of_lt (known stream older)
        · rw [List.mem_singleton.mp newest]
          exact Nat.lt_succ_self _
  · refine .inr ⟨fits, ?_⟩
    -- There is no block to offer, so the attempt ends before anybody is asked.
    have full : UInt16.size < cluster.allocator.next + portsPerNode := by
      rw [next]
      exact Nat.lt_of_not_le fits
    rw [scaleUpByOne_of_full NodeTasks.launcher cluster registry full, allocator]

/-- Nodes start one after the other, up to the first for which there is no block of ports. -/
theorem NodesStarted.scaleUp (nodesStarted : NodesStarted config count cluster registry)
    (wanted : Nat) :
    let outcome := (scaleUp NodeTasks.launcher wanted cluster registry).value
    ∃ started, (∀ place, count ≤ place → place < count + started → Fits config place) ∧
      NodesStarted config (count + started) outcome.2.1 outcome.2.2 ∧
      (started = wanted ∧ (∃ places, outcome.1 = .ok places) ∨
        started < wanted ∧ ¬ Fits config (count + started) ∧ outcome.1 = .error
          (.portSpaceExhausted (firstPort config (count + started)) config.ports.stride)) := by
  -- The others start from where the first one has left cluster and membership.
  induction wanted generalizing count cluster registry with
  | zero => exact ⟨0, by omega, nodesStarted, .inl ⟨rfl, [], rfl⟩⟩
  | succ wanted ih =>
    rw [Cluster.scaleUp, Logged.bind_eq]
    have one := nodesStarted.scaleUpByOne
    generalize Cluster.scaleUpByOne NodeTasks.launcher cluster registry = first at one
    obtain ⟨⟨result, cluster, registry⟩, log⟩ := first
    rcases one with ⟨fits, rfl, grown⟩ | ⟨full, same⟩
    · obtain ⟨started, fit, left, ended⟩ := ih grown
      rw [Nat.add_right_comm] at fit left ended
      refine ⟨started + 1, ?_, left, ?_⟩
      · intro place above below
        rcases Nat.eq_or_lt_of_le above with rfl | behind
        · exact fits
        · exact fit place behind (by omega)
      · rcases ended with ⟨rfl, places, answer⟩ | ⟨fewer, full, answer⟩
        · exact .inl ⟨rfl, count :: places, congrArg (Except.map (count :: ·)) answer⟩
        · exact .inr ⟨by omega, full, congrArg (Except.map (count :: ·)) answer⟩
    · obtain ⟨rfl, rfl, rfl⟩ : result = _ ∧ cluster = _ ∧ registry = _ := by simpa using same
      exact ⟨0, by omega, nodesStarted, .inr ⟨by omega, full, rfl⟩⟩

end PeerCluster.Walkthrough
