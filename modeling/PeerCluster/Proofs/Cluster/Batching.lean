import PeerCluster.Proofs.Cluster.Retaining

/-! A request for several nodes is single attempts in a row, which end with the ports at last. -/

namespace PeerCluster

open Machine Cluster

variable {σ η : Type} {launchers : Launcher σ η}

/-- The end of several streams opens none. -/
theorem Registry.nextId_cancelAll (registry : Registry) (ids : List Nat) :
    (registry.cancelAll ids).value.nextId = registry.nextId := by
  -- One stream ends after the other, and none of them opens another one.
  induction ids generalizing registry with
  | nil => rfl
  | cons id rest ih => exact (ih _).trans (registry.nextId_cancel id)

/-- The answer to a request for several nodes, of which only the first one is not told yet. -/
def ClusterAnswer.behind (index : Nat) : ClusterAnswer → ClusterAnswer
  | indices rest => .indices (index :: rest)
  | other => other

namespace Cluster

/-- For a node that joins one stream was opened, whatever its launcher has let go of. -/
theorem nextId_joinedBy (cluster : Cluster σ η) (registry : Registry) (ports : NodePorts)
    (released : List Nat) :
    (joinedBy cluster registry ports released).nextId = registry.nextId + 1 := by
  unfold joinedBy Registry.handOut
  rw [Registry.nextId_announce, Registry.nextId_cancelAll, Registry.nextId_subscribe]

/-- A node that is started gets the next block, stands last, and joins the members behind all. -/
theorem Attempt.up_of_granted {cluster left : Cluster (Journaled σ η) η}
    {members members' : List PeerAddress} {stream : EndpointEvents} {told : List (LauncherCall η)}
    (attempt : Attempt launchers cluster members stream .up true told left members') :
    ∃ handle, told = [.launch cluster.nextSpec stream (.ok handle)] ∧
      left.servers = cluster.servers ++ [⟨cluster.nextSpec, handle⟩] ∧
      members' = members ++ [cluster.nextSpec.address] ∧ members.length = cluster.size ∧
      Allots cluster left [⟨cluster.nextSpec, handle⟩] := by
  -- Only a launch that succeeds is granted, and it tells all of this.
  cases attempt with
  | started fits asked granted placed =>
    exact ⟨_, rfl, rfl, rfl, placed, .one fits rfl rfl⟩

/-- An attempt to start a node that fails leaves the nodes, the members and the ports alone. -/
theorem Attempt.up_of_refused {cluster left : Cluster (Journaled σ η) η}
    {members members' : List PeerAddress} {stream : EndpointEvents} {told : List (LauncherCall η)}
    (attempt : Attempt launchers cluster members stream .up false told left members') :
    left.servers = cluster.servers ∧ left.allocator = cluster.allocator ∧ members' = members := by
  -- Whatever the reason is, what an attempt undoes is all that it had done.
  cases attempt with
  | full | refused | abandoned => exact ⟨rfl, rfl, rfl⟩

end Cluster

namespace Deployment

/-! ### Single attempts -/

/-- The launches of nodes that were given streams in a row. -/
def launches (first : Nat) (nodes : List (RunningNode η)) : List (LauncherCall η) :=
  nodes.mapIdx fun place node => .launch node.spec (.replicating (first + place)) (.ok node.handle)

/-- Nodes were started one after the other, each with the next block of ports, and have joined. -/
structure Grew (before left : Deployment (Journaled σ η) η) (nodes : List (RunningNode η)) :
    Prop where
  launchers : left.launchers = before.launchers
  servers : left.cluster.servers = before.cluster.servers ++ nodes
  members : left.registry.members = before.registry.members ++ nodes.map (·.spec.address)
  placed : nodes ≠ [] → before.registry.members.length = before.cluster.size
  allots : Allots before.cluster left.cluster nodes
  streams : left.registry.nextId = before.registry.nextId + nodes.length
  journal : left.cluster.launcher.journal =
    before.cluster.launcher.journal ++ launches before.registry.nextId nodes

variable {before middle left : Deployment (Journaled σ η) η}

/-- Nothing grows by doing nothing. -/
theorem Grew.refl (before : Deployment (Journaled σ η) η) : Grew before before [] where
  launchers := rfl
  servers := (List.append_nil _).symm
  members := (List.append_nil _).symm
  placed := nofun
  allots := .none rfl rfl
  streams := rfl
  journal := (List.append_nil _).symm

/-- One node that starts and others that start later are several nodes. -/
theorem Grew.cons {node : RunningNode η} {nodes : List (RunningNode η)}
    (first : Grew before middle [node]) (later : Grew middle left nodes) :
    Grew before left (node :: nodes) where
  launchers := later.launchers.trans first.launchers
  servers := by rw [later.servers, first.servers, List.append_assoc, List.singleton_append]
  members := by
    rw [later.members, first.members, List.append_assoc, ← List.map_append, List.singleton_append]
  placed _ := first.placed (List.cons_ne_nil node [])
  allots := first.allots.trans later.allots
  streams := by
    -- The streams are counted on from behind the first one.
    rw [later.streams, first.streams, List.length_singleton, List.length_cons]
    omega
  journal := by
    -- The streams of the later nodes are counted from behind the first one's.
    have shifted : launches before.registry.nextId (node :: nodes) =
        launches before.registry.nextId [node] ++ launches (before.registry.nextId + 1) nodes := by
      simp [launches, List.mapIdx_cons, Nat.add_assoc, Nat.add_comm 1]
    rw [later.journal, first.journal, first.streams, List.append_assoc, shifted]
    rfl

/-- There is one node more for each that was started. -/
theorem Grew.size {nodes : List (RunningNode η)} (grew : Grew before left nodes) :
    left.cluster.size = before.cluster.size + nodes.length := by
  -- Nobody who was there has gone, so the sizes add up.
  simp [Cluster.size, grew.servers]

/-- Once a node was started, the next one would stand where its address does. -/
theorem Grew.still_placed {nodes : List (RunningNode η)} (grew : Grew before left nodes)
    (started : nodes ≠ []) : left.registry.members.length = left.cluster.size := by
  -- Both the nodes and the members have grown by as many as were started.
  rw [grew.size, grew.members, ← grew.placed started]
  simp

/-- There are no more attempts than blocks of ports, and one besides for which there is none. -/
theorem Grew.attempts_le {nodes : List (RunningNode η)} (grew : Grew before left nodes)
    (apart : portsPerNode ≤ before.cluster.allocator.layout.stride.toNat) :
    let first := before.cluster.allocator.next
    let stride := before.cluster.allocator.layout.stride.toNat
    nodes.length + 1 ≤ if first ≤ 65531 then (65531 - first) / stride + 2 else 1 := by
  intro first stride
  -- The blocks bound the nodes; one attempt more is the one that finds none left.
  have few := grew.allots.length_le apart
  by_cases room : first ≤ 65531
  · rw [if_pos room] at few ⊢
    exact Nat.succ_le_succ few
  · rw [if_neg room] at few ⊢
    exact Nat.succ_le_succ few

/-- An attempt to start a node is answered by its position, which is the last one, or it fails. -/
theorem answerTo_up (deployment : Deployment σ η) :
    (answerTo deployment .up = .index deployment.cluster.size ∧
      (next deployment .up).registry.nextId = deployment.registry.nextId + 1) ∨
    ∃ error, answerTo deployment .up = .failed error := by
  have growth :=
    scaleUpByOne_growth deployment.launchers deployment.cluster deployment.registry
  unfold answerTo next
  rw [perform_up]
  generalize scaleUpByOne deployment.launchers deployment.cluster deployment.registry = outcome
    at growth
  -- All outcomes but one are failures, and the one that is none stands last.
  cases growth with
  | full | refused | drifted => exact .inr ⟨_, rfl⟩
  | grown => exact .inl ⟨rfl, nextId_joinedBy ..⟩

/-- An attempt starts a node, or it fails and leaves no trace but in the launcher's journal. -/
theorem up_attempted (same : before.launchers = launchers.journaling) :
    (∃ node, answerTo before .up = .index before.cluster.size ∧
      Grew before (next before .up) [node]) ∨
    ∃ error told, answerTo before .up = .failed error ∧
      Attempt launchers before.cluster before.registry.members
        (.replicating before.registry.nextId) .up false told (next before .up).cluster
        (next before .up).registry.members := by
  obtain ⟨told, attempt⟩ := attempt_up same
  -- What the attempt comes to is told by its answer.
  rcases answerTo_up before with ⟨answer, streams⟩ | ⟨error, answer⟩
  · rw [answer] at attempt
    obtain ⟨handle, rfl, servers, members, placed, allots⟩ := attempt.up_of_granted
    exact .inl ⟨_, answer, launchers_next .., servers, members, fun _ => placed, allots, streams,
      attempt.journal_eq⟩
  · rw [answer] at attempt
    exact .inr ⟨error, told, answer, attempt⟩

/-! ### Several attempts -/

variable (deployment : Deployment σ η) (count : Nat)

/-- Whoever wants several nodes has the first attempt only, if that one fails. -/
theorem perform_upMany_of_failed {error : ClusterError}
    (failed : answerTo deployment .up = .failed error) :
    Machine.perform deployment (.upMany (count + 1)) = Machine.perform deployment .up := by
  unfold answerTo at failed
  rw [perform_up] at failed ⊢
  rw [perform_upMany, scaleUp, Logged.bind_eq]
  generalize deployment.cluster.scaleUpByOne deployment.launchers deployment.registry = first
    -- The rest of the request depends on the result of the first attempt only.
    at failed ⊢
  obtain ⟨⟨result, cluster, registry⟩, log⟩ := first
  cases result with
  | ok index => cases failed
  | error error => simp [conclude, Logged.map]

/-- Whoever wants several nodes and gets the first one wants the others from there. -/
theorem perform_upMany_of_index {index : Nat}
    (granted : answerTo deployment .up = .index index) :
    let others := Machine.perform (next deployment .up) (.upMany count)
    Machine.perform deployment (.upMany (count + 1)) =
      ⟨(others.value.1.behind index, others.value.2),
        (exchange deployment .up).log ++ others.log⟩ := by
  -- Request and single attempt begin by the same operation, whose outcome is given a name.
  cases attempted :
    deployment.cluster.scaleUpByOne deployment.launchers deployment.registry with
  | mk value log =>
    obtain ⟨result, cluster, registry⟩ := value
    have first : Machine.perform deployment .up = deployment.conclude .index _ :=
      (perform_up deployment).trans (congrArg _ attempted)
    have reached : next deployment .up = ⟨deployment.launchers, cluster, registry⟩ := by
      unfold next
      rw [first]
      rfl
    have logged : (exchange deployment .up).log = log := by
      unfold exchange
      rw [first]
      rfl
    unfold answerTo at granted
    rw [first] at granted
    cases result with
    | error error => cases granted
    -- The others are asked for where the first one has left everything.
    | ok position =>
      obtain rfl : position = index := ClusterAnswer.index.inj granted
      rw [reached, logged, perform_upMany, perform_upMany, scaleUp, Logged.bind_eq, attempted]
      simp only
      generalize scaleUp deployment.launchers count cluster registry = others
      obtain ⟨⟨rest, left, membership⟩, more⟩ := others
      -- The others are granted or refused, and the first one is put before their positions.
      cases rest <;> rfl

/-- Requests for one more node, so many in a row. -/
def repeated (count : Nat) : List ClusterCall :=
  List.replicate count .up

/-- A request for several nodes was granted, and came to so many single attempts. -/
structure Granted (before : Deployment (Journaled σ η) η) (nodes : List (RunningNode η)) :
    Prop where
  grew : Grew before (after before (repeated nodes.length)) nodes
  answers : (exchanges before (repeated nodes.length)).map Exchange.answer =
    (List.range' before.cluster.size nodes.length).map .index

/-- Attempts that start some nodes in a row follow one that starts the node before them. -/
theorem Granted.cons {node : RunningNode η} {nodes : List (RunningNode η)}
    (answer : answerTo before .up = .index before.cluster.size)
    (first : Grew before (next before .up) [node]) (later : Granted (next before .up) nodes) :
    Granted before (node :: nodes) where
  grew := first.cons later.grew
  answers := by
    show answerTo before .up :: (exchanges (next before .up) (repeated nodes.length)).map _ = _
    rw [answer, later.answers, first.size]
    rfl

/-- A request for several nodes comes to single attempts, of which none but the last one fails. -/
theorem upMany_attempted (same : before.launchers = launchers.journaling) (count : Nat) :
    ∃ nodes, Granted before nodes ∧
      let reached := after before (repeated nodes.length)
      (nodes.length = count ∧
        Machine.perform before (.upMany count) =
          ⟨(.indices (List.range' before.cluster.size count), reached),
            (exchanges before (repeated count)).flatMap Exchange.log⟩ ∨
      ∃ error told, nodes.length < count ∧ answerTo reached .up = .failed error ∧
        Attempt launchers reached.cluster reached.registry.members
          (.replicating reached.registry.nextId) .up false told (next reached .up).cluster
          (next reached .up).registry.members ∧
        Machine.perform before (.upMany count) =
          ⟨(.failed error, next reached .up),
            (exchanges before (repeated (nodes.length + 1))).flatMap Exchange.log⟩) := by
  -- The first attempt decides whether there are others, which start where it has ended.
  induction count generalizing before with
  | zero =>
    -- Nobody is wanted, so nobody is asked.
    refine ⟨[], ⟨.refl before, rfl⟩, .inl ⟨rfl, ?_⟩⟩
    rw [perform_upMany]
    rfl
  | succ count ih =>
    -- The first attempt succeeds and the others follow from there, or it is the last one.
    rcases up_attempted same with ⟨node, answer, first⟩ | ⟨error, told, answer, attempt⟩
    · obtain ⟨nodes, granted, rest⟩ := ih ((launchers_next ..).trans same)
      refine ⟨node :: nodes, granted.cons answer first, ?_⟩
      rw [perform_upMany_of_index before count answer]
      rcases rest with ⟨all, rest⟩ | ⟨error, told, some, failed, attempt, rest⟩
      · refine .inl ⟨congrArg Nat.succ all, ?_⟩
        rw [rest, first.size]
        rfl
      · refine .inr ⟨error, told, Nat.succ_lt_succ some, failed, attempt, ?_⟩
        rw [rest]
        rfl
    · refine ⟨[], ⟨.refl before, rfl⟩, .inr ⟨error, told, Nat.succ_pos count, answer, attempt, ?_⟩⟩
      -- The request stops at this failure, and its log is that of the one attempt.
      rw [perform_upMany_of_failed before count answer, ← answer]
      exact congrArg (Logged.mk _) (List.append_nil _).symm

/--
A request for several nodes is requests for one in a row, and it ends however many are wanted.

There are requests for one until all nodes are started or one request fails, and there is none after
that; what is left, what the launcher was told and what was logged is the same. The answer lists the
positions behind the nodes that there were, or it is the error. The nodes that were started until
then run, their addresses are members in the same order, and their blocks of ports are gone. At last
no block is left for the next one, which bounds the number of requests. Nothing is assumed of the
membership.
-/
theorem upMany_repeats_up (launchers : Launcher σ η) (config : ClusterConfig) (launcher : σ)
    (calls : List ClusterCall) (registry : Registry) (count : Nat)
    (valid : config.validate = .ok config) :
    let begun : Deployment (Journaled σ η) η := start launchers.journaling config ⟨launcher, []⟩
    let before : Deployment (Journaled σ η) η := { after begun calls with registry }
    let answer := answerTo before (.upMany count)
    let final := next before (.upMany count)
    let size := before.cluster.size
    let first := before.cluster.allocator.next
    let stride := config.ports.stride.toNat
    ∃ attempts nodes told,
      let tried := exchanges before (repeated attempts)
      final = after before (repeated attempts) ∧
      (exchange before (.upMany count)).log = tried.flatMap Exchange.log ∧
      attempts ≤ count ∧
      attempts ≤ (if first ≤ 65531 then (65531 - first) / stride + 2 else 1) ∧
      (attempts = count ∧ nodes.length = count ∧ told = [] ∧
          answer = .indices (List.range' size count) ∧
          tried.map Exchange.answer = (List.range' size count).map .index ∨
        ∃ error, attempts = nodes.length + 1 ∧ answer = .failed error ∧
          tried.map Exchange.answer =
            (List.range' size nodes.length).map .index ++ [.failed error]) ∧
      final.cluster.servers = before.cluster.servers ++ nodes ∧
      final.registry.members = registry.members ++ nodes.map (·.spec.address) ∧
      (nodes ≠ [] → registry.members.length = size) ∧
      final.cluster.allocator.next = first + nodes.length * stride ∧
      (∀ place node, nodes[place]? = some node →
        let start := first + place * stride
        start + portsPerNode ≤ UInt16.size ∧
          node.spec = before.cluster.specFor (.startingAt start)) ∧
      final.cluster.launcher.journal =
        before.cluster.launcher.journal ++ launches registry.nextId nodes ++ told ∧
      ∀ handle result, .stop handle result ∈ told → nodes = [] := by
  intro begun before answer final size first stride
  have same : before.launchers = launchers.journaling := launchers_after ..
  have layout : before.cluster.allocator.layout = config.ports :=
    (takes_after begun calls).allots.layout
  have apart : portsPerNode ≤ before.cluster.allocator.layout.stride.toNat := by
    rw [layout]
    exact config.apart_of_valid valid
  -- Nodes that were started, and maybe one attempt that failed after them.
  obtain ⟨nodes, ⟨grew, answers⟩, rest⟩ := upMany_attempted same count
  have bounded := grew.attempts_le apart
  have cursor := grew.allots.next
  have blocks := grew.allots.block
  rw [layout] at bounded cursor blocks
  -- All nodes were started, or one request for one more has failed.
  rcases rest with ⟨all, outcome⟩ | ⟨error, told, some, failed, attempt, outcome⟩
  · have reached : final = after before (repeated nodes.length) := congrArg (·.value.2) outcome
    refine ⟨count, nodes, [], ?_, congrArg (·.log) outcome, Nat.le_refl _,
      all ▸ Nat.le_of_succ_le bounded,
      .inl ⟨rfl, all, rfl, congrArg (·.value.1) outcome, all ▸ answers⟩, ?_⟩
    · rw [reached, all]
    · rw [reached]
      refine ⟨grew.servers, grew.members, grew.placed, cursor, blocks, ?_, nofun⟩
      rw [List.append_nil]
      exact grew.journal
  · -- The last attempt starts where the nodes have joined, and leaves all that as it is.
    have reached : final = next (after before (repeated nodes.length)) .up :=
      congrArg (·.value.2) outcome
    have split : repeated (nodes.length + 1) = repeated nodes.length ++ [.up] :=
      List.replicate_succ'
    obtain ⟨servers, allocator, members⟩ := attempt.up_of_refused
    refine ⟨nodes.length + 1, nodes, told, ?_, congrArg (·.log) outcome, some, bounded,
      .inr ⟨error, rfl, congrArg (·.value.1) outcome, ?_⟩, ?_⟩
    · rw [reached, split, after_append]
      rfl
    · rw [split, exchanges_append, List.map_append, answers]
      exact congrArg _ (congrArg (fun answer => [answer]) failed)
    · rw [reached]
      refine ⟨servers.trans grew.servers, members.trans grew.members, grew.placed, ?_, blocks, ?_,
        ?_⟩
      · rw [allocator]
        exact cursor
      · rw [attempt.journal_eq, grew.journal]
      · intro handle result stops
        -- Had anybody been started, an attempt could not have found the membership drifted.
        by_contra started
        exact (attempt.up_of_placed (grew.still_placed started)).2 handle result stops

/-- Three blocks of ports are left, so the fourth attempt fails at last, and nobody asks again. -/
theorem upMany_repeats_up_of_endless_request :
    let config : ClusterConfig := { ClusterConfig.standard with ports := ⟨65521, 5⟩ }
    let begun := start Recorder.launcher.journaling config ⟨.fresh true, []⟩
    let before : Deployment (Journaled Recorder Nat) Nat := { begun with registry := .empty }
    let asked : ClusterCall := .upMany (UInt64.size - 1)
    config.validate = .ok config ∧ ∃ attempts error, attempts ≤ 4 ∧
      next before asked = after before (repeated attempts) ∧
      answerTo before asked = .failed error := by
  refine ⟨by decide, ?_⟩
  obtain ⟨attempts, nodes, told, same, _, _, bounded, answered, _⟩ :=
    upMany_repeats_up Recorder.launcher { ClusterConfig.standard with ports := ⟨65521, 5⟩ }
      (.fresh true) [] .empty (UInt64.size - 1) (by decide)
  -- The bound is the fourth attempt: three blocks and one request that finds none.
  have few : attempts ≤ 4 := bounded
  rcases answered with ⟨all, _⟩ | ⟨error, _, failed, _⟩
  · exact absurd (all ▸ few) (by decide)
  · exact ⟨attempts, error, few, same, failed⟩

end Deployment

end PeerCluster
