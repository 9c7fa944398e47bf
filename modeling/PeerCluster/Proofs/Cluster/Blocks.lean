import PeerCluster.Cluster.Recorder
import PeerCluster.Proofs.Cluster.Journal
import PeerCluster.Proofs.Cluster.Sending
import PeerCluster.Proofs.Ports

/-! Every node has a block of ports to itself, and no block is ever handed out to two nodes. -/

namespace PeerCluster

open Machine

variable {σ η : Type}

/-- The ports of a node in the order of its block. -/
def NodeSpec.ports (spec : NodeSpec) : List UInt16 :=
  [spec.address.registrationPort, spec.address.discoveryPort, spec.address.replicationPort,
    spec.shutdownPort, spec.adminPort]

namespace Cluster

/-- Some nodes got the next blocks of ports, in this order, and no other block is gone. -/
structure Allots (cluster left : Cluster σ η) (nodes : List (RunningNode η)) : Prop where
  config : left.config = cluster.config
  layout : left.allocator.layout = cluster.allocator.layout
  next : left.allocator.next =
    cluster.allocator.next + nodes.length * cluster.allocator.layout.stride.toNat
  block : ∀ place node, nodes[place]? = some node →
    let first := cluster.allocator.next + place * cluster.allocator.layout.stride.toNat
    first + portsPerNode ≤ UInt16.size ∧ node.spec = cluster.specFor (.startingAt first)

namespace Allots

variable {cluster middle left : Cluster σ η} {nodes more : List (RunningNode η)}

/-- No block is gone as long as neither the configuration nor the ports are touched. -/
theorem none (config : left.config = cluster.config)
    (allocator : left.allocator = cluster.allocator) : Allots cluster left [] := by
  -- Nobody has a place in the empty list.
  refine ⟨config, by rw [allocator], by simp [allocator], ?_⟩
  intro place node found
  simp at found

/-- A node gets the next block if there is one. -/
theorem one {handle : η} (fits : cluster.allocator.next + portsPerNode ≤ UInt16.size)
    (config : left.config = cluster.config)
    (allocator : left.allocator = cluster.allocator.commit) :
    Allots cluster left [⟨cluster.specFor (.startingAt cluster.allocator.next), handle⟩] := by
  refine ⟨config, by rw [allocator]; rfl, by simp [allocator, PortAllocator.commit], ?_⟩
  intro place node found
  -- There is one place only, which is the first one.
  obtain ⟨rfl, rfl⟩ : place = 0 ∧ _ = node := by
    cases place with
    | zero => simpa using found
    | succ place => simp at found
  simpa using fits

/-- Nodes that get their blocks later get those behind. -/
theorem trans (first : Allots cluster middle nodes) (second : Allots middle left more) :
    Allots cluster left (nodes ++ more) := by
  have stride := congrArg PortLayout.stride first.layout
  refine ⟨second.config.trans first.config, second.layout.trans first.layout, ?_, ?_⟩
  · rw [second.next, first.next, stride, List.length_append, Nat.add_mul, Nat.add_assoc]
  · intro place node found
    by_cases early : place < nodes.length
    · rw [List.getElem?_append_left early] at found
      exact first.block place node found
    · -- The place among all nodes is the place among the later ones, behind the others.
      obtain ⟨offset, rfl⟩ := Nat.exists_eq_add_of_le (Nat.le_of_not_lt early)
      rw [List.getElem?_append_right (Nat.le_of_not_lt early), Nat.add_sub_cancel_left] at found
      obtain ⟨fits, spec⟩ := second.block offset node found
      have told (ports : NodePorts) : middle.specFor ports = cluster.specFor ports := by
        simp only [specFor, first.config]
      have here : middle.allocator.next + offset * middle.allocator.layout.stride.toNat =
          cluster.allocator.next +
            (nodes.length + offset) * cluster.allocator.layout.stride.toNat := by
        rw [stride, first.next, Nat.add_mul, Nat.add_assoc]
      rw [here] at fits spec
      exact ⟨fits, spec.trans (told _)⟩

/-- The ports of a node follow each other from where its block starts. -/
theorem toNat_ports (allots : Allots cluster left nodes) {place : Nat} {node : RunningNode η}
    (found : nodes[place]? = some node) :
    let first := cluster.allocator.next + place * cluster.allocator.layout.stride.toNat
    node.spec.ports.map UInt16.toNat = [first, first + 1, first + 2, first + 3, first + 4] := by
  obtain ⟨fits, spec⟩ := allots.block place node found
  rw [spec]
  exact NodePorts.toNat_startingAt fits

/-- A port of a node is one of the five from where its block starts. -/
theorem port_bounds (allots : Allots cluster left nodes) {place : Nat} {node : RunningNode η}
    (found : nodes[place]? = some node) {port : UInt16} (member : port ∈ node.spec.ports) :
    let first := cluster.allocator.next + place * cluster.allocator.layout.stride.toNat
    first ≤ port.toNat ∧ port.toNat < first + portsPerNode := by
  intro first
  have listed : port.toNat ∈ node.spec.ports.map UInt16.toNat := List.mem_map_of_mem member
  rw [allots.toNat_ports found] at listed
  simp only [List.mem_cons, List.not_mem_nil, or_false] at listed
  simp only [portsPerNode]
  omega

/-- Blocks that are at least as far apart as they are long share no port. -/
theorem pairwise_disjoint (allots : Allots cluster left nodes)
    (apart : portsPerNode ≤ cluster.allocator.layout.stride.toNat) :
    nodes.Pairwise fun node other => ∀ port ∈ node.spec.ports, port ∉ other.spec.ports := by
  rw [List.pairwise_iff_getElem]
  intro place place' inside inside' before port member member'
  obtain ⟨_, above⟩ := allots.port_bounds (List.getElem?_eq_getElem inside) member
  obtain ⟨below, _⟩ := allots.port_bounds (List.getElem?_eq_getElem inside') member'
  -- The later block starts where the next one after the earlier block does, or behind that.
  have steps :=
    Nat.mul_le_mul_right cluster.allocator.layout.stride.toNat (Nat.succ_le_of_lt before)
  rw [Nat.succ_mul] at steps
  omega

/-- The block of the last node fits, so all strides up to it do. -/
theorem last_fits (allots : Allots cluster left nodes) {count : Nat}
    (size : nodes.length = count + 1) :
    cluster.allocator.next + count * cluster.allocator.layout.stride.toNat + portsPerNode ≤
      UInt16.size := by
  have inside : count < nodes.length := by omega
  exact (allots.block count _ (List.getElem?_eq_getElem inside)).1

/-- There are only so many blocks between a first port and the last one. -/
theorem length_le (allots : Allots cluster left nodes)
    (apart : portsPerNode ≤ cluster.allocator.layout.stride.toNat) :
    nodes.length ≤ if cluster.allocator.next ≤ 65531 then
        (65531 - cluster.allocator.next) / cluster.allocator.layout.stride.toNat + 1
      else 0 := by
  cases size : nodes.length with
  | zero => exact Nat.zero_le _
  | succ count =>
    have fits := allots.last_fits size
    simp only [portsPerNode, UInt16.size] at fits apart
    have strides : count ≤
        (65531 - cluster.allocator.next) / cluster.allocator.layout.stride.toNat := by
      rw [Nat.le_div_iff_mul_le (by omega)]
      omega
    rw [if_pos (by omega)]
    omega

/-- No more than one stride behind the last port is ever looked at. -/
theorem next_lt (allots : Allots cluster left nodes)
    (begins : cluster.allocator.next < UInt16.size) :
    left.allocator.next < 2 * UInt16.size := by
  have narrow := cluster.allocator.layout.stride.toNat_lt
  rw [allots.next]
  cases size : nodes.length with
  | zero => omega
  | succ count =>
    -- The next block is a stride behind the last one that is gone.
    have fits := allots.last_fits size
    rw [Nat.succ_mul]
    simp only [UInt16.size] at *
    omega

/-- Once there is no room for another block, none is handed out any more. -/
theorem eq_nil_of_full (allots : Allots cluster left nodes)
    (full : UInt16.size < cluster.allocator.next + portsPerNode) : nodes = [] := by
  cases nodes with
  | nil => rfl
  | cons node rest =>
    -- The first block that would be handed out is the one that does not fit.
    obtain ⟨fits, _⟩ := allots.block 0 node rfl
    omega

end Allots

/-! ### Single attempts -/

section Attempts

variable (launchers : Launcher σ η) (cluster : Cluster σ η) (registry : Registry)

/-- An attempt to grow takes one block for one node, or leaves ports and nodes as they were. -/
theorem scaleUpByOne_blocks :
    let outcome := (scaleUpByOne launchers cluster registry).value
    outcome.2.1.config = cluster.config ∧
    ((∃ error, outcome.1 = .error error) ∧ outcome.2.1.allocator = cluster.allocator ∧
        outcome.2.1.servers = cluster.servers ∨
      ∃ index handle, outcome.1 = .ok index ∧
        cluster.allocator.next + portsPerNode ≤ UInt16.size ∧
        outcome.2.1.allocator = cluster.allocator.commit ∧
        outcome.2.1.servers = cluster.servers ++
          [⟨cluster.specFor (.startingAt cluster.allocator.next), handle⟩]) := by
  have growth := scaleUpByOne_growth launchers cluster registry
  generalize scaleUpByOne launchers cluster registry = outcome at growth
  cases growth with
  | full | refused => exact ⟨rfl, .inl ⟨⟨_, rfl⟩, rfl, rfl⟩⟩
  | @drifted ports reply handle log undone block asked started misplaced abandoned errorFree =>
    obtain ⟨value, more⟩ := undone
    obtain rfl : value = _ := value_of_abandoned abandoned
    exact ⟨rfl, .inl ⟨⟨_, rfl⟩, rfl, rfl⟩⟩
  | @grown ports reply handle log block asked started placed errorFree =>
    -- Ports were found only because the block fits.
    have fits : cluster.allocator.next + portsPerNode ≤ UInt16.size := by
      refine Nat.le_of_not_lt fun full => ?_
      cases (PortAllocator.peek_of_full full).symm.trans block
    obtain rfl := Except.ok.inj ((PortAllocator.peek_of_fits fits).symm.trans block)
    exact ⟨rfl, .inr ⟨_, handle, rfl, fits, rfl, rfl⟩⟩

/-- Without room for another block an attempt to grow does nothing. -/
theorem scaleUpByOne_of_full (full : UInt16.size < cluster.allocator.next + portsPerNode) :
    (scaleUpByOne launchers cluster registry).value =
      (.error (.portSpaceExhausted cluster.allocator.next cluster.allocator.layout.stride), cluster,
        registry) := by
  unfold scaleUpByOne
  rw [PortAllocator.peek_of_full full]
  rfl

/-- An attempt that tells of no block left without asking its launcher has found none. -/
theorem full_of_exhausted (cluster : Cluster (Journaled σ η) η) (registry : Registry) {next : Nat}
    {stride : UInt16}
    (exhausted : (scaleUpByOne launchers.journaling cluster registry).value.1 =
      .error (.portSpaceExhausted next stride))
    (unasked : (scaleUpByOne launchers.journaling cluster registry).value.2.1.launcher.journal =
      cluster.launcher.journal) :
    UInt16.size < cluster.allocator.next + portsPerNode := by
  have growth := scaleUpByOne_growth launchers.journaling cluster registry
  generalize scaleUpByOne launchers.journaling cluster registry = outcome
    at growth exhausted unasked
  cases growth with
  | full none =>
    refine Nat.lt_of_not_le fun fits => ?_
    cases (PortAllocator.peek_of_fits fits).symm.trans none
  | refused block asked refusal errorFree =>
    -- The launcher was asked, and has written it down.
    subst asked
    have longer := congrArg List.length unasked
    simp [launchReply, Launcher.journaling, LauncherReply.noted] at longer
  | @drifted ports reply handle log undone block asked started misplaced abandoned errorFree =>
    obtain ⟨value, more⟩ := undone
    obtain rfl : value = _ := value_of_abandoned abandoned
    cases exhausted
  | grown => cases exhausted

/-- The nodes that an operation started stand behind those there were, each with its block. -/
def Started (cluster left : Cluster σ η) (nodes : List (RunningNode η)) : Prop :=
  left.servers = cluster.servers ++ nodes ∧ Allots cluster left nodes

/-- An attempt to grow starts a node if it succeeds, and only then. -/
theorem started_scaleUpByOne :
    ∃ nodes, Started cluster (scaleUpByOne launchers cluster registry).value.2.1 nodes := by
  obtain ⟨config, ⟨_, allocator, servers⟩ | ⟨index, handle, _, fits, allocator, servers⟩⟩ :=
    scaleUpByOne_blocks launchers cluster registry
  · exact ⟨[], by simp [servers], .none config allocator⟩
  · exact ⟨_, servers, .one fits config allocator⟩

/-- Attempts to grow take one block for each node that they start. -/
theorem started_scaleUp (count : Nat) :
    ∃ nodes, Started cluster (scaleUp launchers count cluster registry).value.2.1 nodes := by
  -- Each attempt goes on where the one before has left off.
  refine scaleUp_kept (fun left _ => ∃ nodes, Started cluster left nodes) ?_ count
    ⟨[], by simp, .none rfl rfl⟩
  rintro middle registry ⟨nodes, servers, allots⟩
  obtain ⟨more, grown, further⟩ := started_scaleUpByOne launchers middle registry
  exact ⟨nodes ++ more, by rw [grown, servers, List.append_assoc], allots.trans further⟩

/-- Nodes may have left, and nothing was done to the ports. -/
structure KeepsPorts (cluster left : Cluster σ η) : Prop where
  config : left.config = cluster.config
  allocator : left.allocator = cluster.allocator
  servers : left.servers.Sublist cluster.servers

/-- To stop a node touches no ports, and starts none. -/
theorem keepsPorts_scaleDownByOne (index : Nat) :
    KeepsPorts cluster (scaleDownByOne launchers cluster registry index).value.2.1 := by
  have shrinking := scaleDownByOne_shrinking launchers cluster registry index
  generalize scaleDownByOne launchers cluster registry index = outcome at shrinking
  cases shrinking with
  -- The ports are those of before in each outcome; at most one node is missing.
  | unknown | drifted | refused => exact ⟨rfl, rfl, List.Sublist.refl _⟩
  | stopped => exact ⟨rfl, rfl, List.eraseIdx_sublist _ _⟩

/-- To stop nodes one after the other touches no ports, and starts none. -/
theorem keepsPorts_scaleDownLast (count : Nat) :
    KeepsPorts cluster (scaleDownLast launchers count cluster registry).value.2.1 := by
  -- Each stop leaves the ports to the next one.
  refine scaleDownLast_kept (fun left _ => KeepsPorts cluster left) ?_ count
    ⟨rfl, rfl, List.Sublist.refl _⟩
  intro middle registry index keepsPorts
  have one := keepsPorts_scaleDownByOne launchers middle registry index
  exact ⟨one.config.trans keepsPorts.config, one.allocator.trans keepsPorts.allocator,
    one.servers.trans keepsPorts.servers⟩

end Attempts

/-- Some nodes got the next blocks of ports, and only they have come to run besides the others. -/
structure Takes (cluster left : Cluster σ η) (nodes : List (RunningNode η)) : Prop where
  allots : Allots cluster left nodes
  running : ∀ node ∈ left.servers, node ∈ cluster.servers ++ nodes

section Taking

variable {cluster middle left : Cluster σ η} {nodes more : List (RunningNode η)}

/-- Nodes that start take their blocks. -/
theorem Started.takes (started : Started cluster left nodes) : Takes cluster left nodes := by
  obtain ⟨servers, allots⟩ := started
  exact ⟨allots, fun node member => servers ▸ member⟩

/-- Nodes that stop keep theirs to themselves. -/
theorem KeepsPorts.takes (keepsPorts : KeepsPorts cluster left) : Takes cluster left [] := by
  -- Nobody has come, and whoever is left was there.
  refine ⟨.none keepsPorts.config keepsPorts.allocator, ?_⟩
  intro node member
  rw [List.append_nil]
  exact keepsPorts.servers.subset member

namespace Takes

/-- No block is taken by doing nothing. -/
theorem refl (cluster : Cluster σ η) : Takes cluster cluster [] :=
  KeepsPorts.takes ⟨rfl, rfl, List.Sublist.refl _⟩

/-- Nodes that come later take the blocks behind. -/
theorem trans (first : Takes cluster middle nodes) (second : Takes middle left more) :
    Takes cluster left (nodes ++ more) := by
  refine ⟨first.allots.trans second.allots, ?_⟩
  intro node member
  rw [← List.append_assoc]
  -- Whoever runs at the end was running in between, or has come since.
  rcases List.mem_append.mp (second.running node member) with before | newer
  · exact List.mem_append_left _ (first.running node before)
  · exact List.mem_append_right _ newer

end Takes

end Taking

end Cluster

/-! ### Runs -/

namespace Deployment

open Cluster

/-- The nodes that a call started and left running. -/
def newcomers (deployment : Deployment σ η) (call : ClusterCall) : List (RunningNode η) :=
  (next deployment call).cluster.servers.drop deployment.cluster.size

/-- The nodes that calls ever started, in the order of starting, whether or not they still run. -/
def everStarted (deployment : Deployment σ η) : List ClusterCall → List (RunningNode η)
  | [] => []
  | call :: rest => deployment.newcomers call ++ everStarted (next deployment call) rest

/-- Nodes that stand behind those there were are the newcomers. -/
theorem newcomers_eq {deployment : Deployment σ η} {call : ClusterCall}
    {nodes : List (RunningNode η)}
    (servers : (next deployment call).cluster.servers = deployment.cluster.servers ++ nodes) :
    deployment.newcomers call = nodes := by
  unfold newcomers
  -- What stands behind the nodes of before are the newcomers.
  rw [servers]
  exact List.drop_left

/-- Every call takes one block for each node that it starts, and no other one. -/
theorem takes_next (deployment : Deployment σ η) (call : ClusterCall) :
    Takes deployment.cluster (next deployment call).cluster (deployment.newcomers call) := by
  have grew {nodes : List (RunningNode η)}
      (started : Started deployment.cluster (next deployment call).cluster nodes) :
      Takes deployment.cluster (next deployment call).cluster (deployment.newcomers call) :=
    newcomers_eq started.1 ▸ started.takes
  have shrank (keepsPorts : KeepsPorts deployment.cluster (next deployment call).cluster) :
      Takes deployment.cluster (next deployment call).cluster (deployment.newcomers call) := by
    have none : deployment.newcomers call = [] :=
      List.drop_of_length_le keepsPorts.servers.length_le
    rw [none]
    exact keepsPorts.takes
  -- A call either adds nodes at the end or takes some out; none does both.
  obtain ⟨launchers, cluster, registry⟩ := deployment
  cases call with
  | up =>
    obtain ⟨nodes, started⟩ := started_scaleUpByOne launchers cluster registry
    exact grew started
  | upMany count =>
    obtain ⟨nodes, started⟩ := started_scaleUp launchers cluster registry count
    exact grew started
  | down index => exact shrank (keepsPorts_scaleDownByOne launchers cluster registry index)
  | shutdown => exact shrank (keepsPorts_scaleDownLast launchers cluster registry _)
  | membership call =>
    -- Nothing that is asked of the membership reaches the nodes.
    refine shrank ?_
    show KeepsPorts cluster (consult _ call).value.2.cluster
    unfold consult
    split <;> exact ⟨rfl, rfl, List.Sublist.refl _⟩

/-- Calls take one block for each node that they start, and no other one. -/
theorem takes_after (deployment : Deployment σ η) (calls : List ClusterCall) :
    Takes deployment.cluster (after deployment calls).cluster (deployment.everStarted calls) := by
  -- What was ever started is what the first call started, and then the rest.
  induction calls generalizing deployment with
  | nil => exact .refl deployment.cluster
  | cons call rest ih => exact (deployment.takes_next call).trans (ih (next deployment call))

/-- A request for one more node starts one, or it fails and leaves the ports as they were. -/
theorem up_blocks (deployment : Deployment σ η) :
    (∃ index node, answerTo deployment .up = .index index ∧
      deployment.newcomers .up = [node]) ∨
    (∃ error, answerTo deployment .up = .failed error) ∧ deployment.newcomers .up = [] ∧
      (next deployment .up).cluster.allocator = deployment.cluster.allocator := by
  -- The attempt is seen from the side of the cluster, with its outcome split open.
  have attempt := scaleUpByOne_blocks deployment.launchers deployment.cluster deployment.registry
  unfold newcomers answerTo next
  rw [perform_up]
  generalize scaleUpByOne deployment.launchers deployment.cluster deployment.registry = outcome
    at attempt ⊢
  obtain ⟨⟨result, left, registry⟩, log⟩ := outcome
  simp only at attempt
  obtain ⟨_, ⟨⟨error, rfl⟩, allocator, servers⟩ | ⟨index, handle, rfl, _, _, servers⟩⟩ := attempt
  · -- An attempt that failed has added nobody.
    refine .inr ⟨⟨error, rfl⟩, ?_, allocator⟩
    show left.servers.drop deployment.cluster.servers.length = []
    rw [servers, List.drop_length]
  · obtain ⟨node, grown⟩ : ∃ node, left.servers = deployment.cluster.servers ++ [node] :=
      ⟨_, servers⟩
    refine .inl ⟨index, node, rfl, ?_⟩
    show left.servers.drop deployment.cluster.servers.length = [node]
    rw [grown, List.drop_left]

/-- Without room for another block nobody gets a node, and nothing changes. -/
theorem up_of_full (deployment : Deployment σ η)
    (full : UInt16.size < deployment.cluster.allocator.next + portsPerNode) :
    answerTo deployment .up = .failed (.portSpaceExhausted deployment.cluster.allocator.next
      deployment.cluster.allocator.layout.stride) ∧ next deployment .up = deployment := by
  -- The attempt ends at the peek for a block.
  have attempt :=
    scaleUpByOne_of_full deployment.launchers deployment.cluster deployment.registry full
  unfold answerTo next
  rw [perform_up]
  generalize scaleUpByOne deployment.launchers deployment.cluster deployment.registry = outcome
    at attempt ⊢
  obtain ⟨value, log⟩ := outcome
  obtain rfl : value = _ := attempt
  exact ⟨rfl, rfl⟩

/-- Whoever is told that no ports are left, and the launcher was not asked, is told the truth. -/
theorem full_of_up {launchers : Launcher σ η} {deployment : Deployment (Journaled σ η) η}
    (same : deployment.launchers = launchers.journaling) {first : Nat} {stride : UInt16}
    (answer : answerTo deployment .up = .failed (.portSpaceExhausted first stride))
    (unasked : (next deployment .up).cluster.launcher.journal =
      deployment.cluster.launcher.journal) :
    UInt16.size < deployment.cluster.allocator.next + portsPerNode := by
  unfold answerTo at answer
  unfold next at unasked
  rw [perform_up, same] at answer unasked
  -- The answer is the error of the attempt, which was refused for want of ports.
  have exhausted : (scaleUpByOne launchers.journaling deployment.cluster
      deployment.registry).value.1 = .error (.portSpaceExhausted first stride) := by
    generalize scaleUpByOne launchers.journaling deployment.cluster deployment.registry = outcome
      at answer
    obtain ⟨⟨result, left, registry⟩, log⟩ := outcome
    cases result with
    | ok index => cases answer
    | error error => exact congrArg Except.error (ClusterAnswer.failed.inj answer)
  exact full_of_exhausted launchers deployment.cluster deployment.registry exhausted unasked

/--
Every node has a block of ports to itself, and no block is ever handed out to two nodes.

Blocks are counted in the order in which their nodes were started, and a node keeps its number when
it is stopped. An attempt that fails takes no block, so the next one is offered the same. Once no
block is left the launcher is no longer asked, and that is for good; a launcher that answers as if
there were none left can be told by its having been asked. No sum of machine words is too large.
-/
theorem blocks_never_collide (launchers : Launcher σ η) (config : ClusterConfig) (launcher : σ)
    (calls : List ClusterCall) (positive : config.ports.basePort ≠ 0)
    (apart : portsPerNode ≤ config.ports.stride.toNat) :
    let begun : Deployment (Journaled σ η) η := start launchers.journaling config ⟨launcher, []⟩
    let final := after begun calls
    let base := config.ports.basePort.toNat
    let stride := config.ports.stride.toNat
    let nodes := begun.everStarted calls
    let ports := final.cluster.allocator
    let exhausted := ClusterAnswer.failed (.portSpaceExhausted ports.next config.ports.stride)
    ports.next = base + nodes.length * stride ∧
    (∀ place node, nodes[place]? = some node →
      let first := base + place * stride
      node.spec.ports.map UInt16.toNat = [first, first + 1, first + 2, first + 3, first + 4] ∧
        ∀ port ∈ node.spec.ports, 1 ≤ port.toNat ∧ port.toNat ≤ 65535) ∧
    nodes.Pairwise (fun node other => ∀ port ∈ node.spec.ports, port ∉ other.spec.ports) ∧
    (∀ node ∈ final.cluster.servers, node ∈ nodes) ∧
    ((∃ index node, answerTo final .up = .index index ∧ final.newcomers .up = [node]) ∨
      (∃ error, answerTo final .up = .failed error) ∧ final.newcomers .up = [] ∧
        (next final .up).cluster.allocator = ports) ∧
    (65531 < base + nodes.length * stride ↔ answerTo final .up = exhausted ∧
      (next final .up).cluster.launcher.journal = final.cluster.launcher.journal) ∧
    (65531 < base + nodes.length * stride → ∀ more,
      let later := after final more
      answerTo later .up = exhausted ∧ next later .up = later) ∧
    nodes.length ≤ (if base ≤ 65531 then (65531 - base) / stride + 1 else 0) ∧
    ∃ words : WordAllocator, words.Holds ports ∧ words.peek = some ports.peek ∧
      ∀ block, ports.peek = .ok block → ∃ left, words.commit = some left ∧
        left.Holds ports.commit := by
  intro begun final base stride nodes ports exhausted
  obtain ⟨allots, running⟩ := takes_after begun calls
  have cursor : ports.next = base + nodes.length * stride := allots.next
  have layout : ports.layout = config.ports := allots.layout
  -- A block that begins behind this port would end behind the last one.
  have full_iff :
      65531 < base + nodes.length * stride ↔ UInt16.size < ports.next + portsPerNode := by
    rw [cursor]
    simp only [UInt16.size, portsPerNode]
    omega
  refine ⟨cursor, ?_, allots.pairwise_disjoint apart, ?_, ?_, ?_, ?_, allots.length_le apart, ?_⟩
  · intro place node found first
    refine ⟨allots.toNat_ports found, ?_⟩
    intro port member
    -- The block starts at the base port or behind it, and that is not zero.
    obtain ⟨below, _⟩ := allots.port_bounds found member
    have above : 0 < base := Nat.pos_of_ne_zero fun zero => positive (UInt16.toNat.inj zero)
    have within := port.toNat_lt
    have start : begun.cluster.allocator.next = base := rfl
    omega
  · exact running
  · exact up_blocks final
  · -- Without room nothing is done at all; an answer that was not the launcher's tells of no room.
    rw [full_iff]
    constructor
    · intro full
      obtain ⟨answer, same⟩ := up_of_full final full
      rw [same, answer, layout]
      exact ⟨rfl, rfl⟩
    · rintro ⟨answer, unasked⟩
      exact full_of_up (launchers_after ..) answer unasked
  · intro past more later
    have full := full_iff.mp past
    -- No later call can take a block any more, so the next one stays the same.
    have further := (takes_after final more).allots
    have none := further.eq_nil_of_full full
    rw [none] at further
    have here : later.cluster.allocator.next = ports.next := by simpa using further.next
    have there : later.cluster.allocator.layout = config.ports := further.layout.trans layout
    obtain ⟨answer, same⟩ := up_of_full later (by rw [here]; exact full)
    rw [here, there] at answer
    exact ⟨answer, same⟩
  · -- The next port is never so far behind the last one that a machine word could not hold it.
    exact WordAllocator.exists_holds (allots.next_lt config.ports.basePort.toNat_lt)

/-- The only block that fits is handed out, its node stops, and no other block is ever found. -/
theorem blocks_never_collide_of_two_calls :
    let config : ClusterConfig := { ClusterConfig.standard with ports := ⟨65525, 10⟩ }
    let begun : Deployment (Journaled Recorder Nat) Nat :=
      start Recorder.launcher.journaling config ⟨.fresh true, []⟩
    let final := after begun [.up, .down 0]
    config.ports.basePort ≠ 0 ∧ portsPerNode ≤ config.ports.stride.toNat ∧
      final.cluster.size = 0 ∧ (begun.everStarted [.up, .down 0]).length = 1 ∧
      ∀ more, answerTo (after final more) .up = .failed (.portSpaceExhausted 65535 10) := by
  refine ⟨by decide, by decide, by decide, by decide, ?_⟩
  intro more
  obtain ⟨_, _, _, _, _, _, for_good, _⟩ := blocks_never_collide Recorder.launcher
    { ClusterConfig.standard with ports := ⟨65525, 10⟩ } (.fresh true) [.up, .down 0] (by decide)
    (by decide)
  -- The exhaustion lasts, whatever is asked for afterwards.
  exact (for_good (by decide) more).1

/-- A launcher may answer as if no block were left; the next attempt succeeds all the same. -/
theorem launcher_feigns_exhaustion :
    let scripted := some (ClusterError.portSpaceExhausted 13000 10)
    let begun := start Recorder.launcher .standard
      { Recorder.fresh true with launchScript := [scripted] }
    let layout := begun.cluster.config.ports
    let exhausted := ClusterAnswer.failed
      (.portSpaceExhausted begun.cluster.allocator.next layout.stride)
    ¬ (answerTo begun .up = exhausted ↔
        65531 < layout.basePort.toNat + (begun.everStarted []).length * layout.stride.toNat) ∧
      answerTo begun .up = exhausted ∧ answerTo (next begun .up) .up = .index 0 := by
  decide

end Deployment

end PeerCluster
