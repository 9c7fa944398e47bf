import Mathlib.Data.List.InsertIdx
import PeerCluster.Cluster.Recorder
import PeerCluster.Proofs.Cluster.Attempts
import PeerCluster.Proofs.Cluster.Calls

/-! While only the cluster changes a membership, every node stands where its address does. -/

namespace PeerCluster

/-- An error that a launcher answers to some launch or to some stop. -/
def Launcher.Answers {σ η : Type} (launchers : Launcher σ η) (error : ClusterError) : Prop :=
  (∃ launcher spec stream, (launchers.launch launcher spec stream).result = .error error) ∨
  (∃ launcher handle, (launchers.stop launcher handle).result = .error error)

namespace Cluster

variable {σ η α β : Type} {launchers : Launcher σ η} {cluster : Cluster σ η} {registry : Registry}

/-- Every node stands where its address stands in the membership. -/
def Aligned (cluster : Cluster σ η) (registry : Registry) : Prop :=
  cluster.servers.map (·.spec.address) = registry.members

/-- The membership has no drift to answer for: another is at fault, or has asked too much. -/
inductive NotDrift (launchers : Launcher σ η) : ClusterError → Prop where
  /-- The launcher itself answered so. -/
  | launcher {error : ClusterError} (answers : launchers.Answers error) : NotDrift launchers error
  /-- There is no room for another block of ports. -/
  | full (next : Nat) (stride : UInt16) : NotDrift launchers (.portSpaceExhausted next stride)
  /-- There are not so many nodes. -/
  | unknown {index size : Nat} (outside : size ≤ index) :
      NotDrift launchers (.peerIndexOutOfRange index size)

/-- An error that may be logged while cluster and membership agree. -/
def ordinaryFaults : List String :=
  ["node launch failed", "scale down requested for an unknown node"]

/-- An operation kept cluster and membership in step, and neither answered nor logged a drift. -/
structure KeepsAligned (launchers : Launcher σ η)
    (outcome : Logged (Except ClusterError α × Cluster σ η × Registry)) : Prop where
  aligned : outcome.value.2.1.Aligned outcome.value.2.2
  notDrift : ∀ error, outcome.value.1 = .error error → NotDrift launchers error
  faults : ∀ entry ∈ outcome.log, entry.level = .error → entry.message ∈ ordinaryFaults

namespace Aligned

/-- There are as many nodes as members. -/
theorem size_eq (aligned : cluster.Aligned registry) : cluster.size = registry.members.length := by
  -- The two lists are equal, so they are equally long.
  rw [← aligned, List.length_map]
  rfl

/-- The member at the position of a node is its address. -/
theorem found (aligned : cluster.Aligned registry) {index : Nat} {node : RunningNode η}
    (found : cluster.servers[index]? = some node) :
    registry.members[index]? = some node.spec.address := by
  rw [← aligned, List.getElem?_map, found]
  rfl

end Aligned

/-! ### Single operations -/

/-- Ports run out only for want of room. -/
theorem notDrift_of_peek {error : ClusterError} (none : cluster.allocator.peek = .error error) :
    NotDrift launchers error := by
  -- An offer fails only where the next block would end past the last port.
  unfold PortAllocator.peek at none
  split at none
  · cases none
  · cases none
    exact .full _ _

/-- A log without errors has none but ordinary faults. -/
theorem faults_of_errorFree {log : List LogRecord} (errorFree : ErrorFree log) :
    ∀ entry ∈ log, entry.level = .error → entry.message ∈ ordinaryFaults := by
  intro entry member level
  exact absurd level (errorFree entry member)

/-- A node that starts, or fails to, leaves cluster and membership in step. -/
theorem keepsAligned_scaleUpByOne (aligned : cluster.Aligned registry) :
    KeepsAligned launchers (scaleUpByOne launchers cluster registry) := by
  have growth := scaleUpByOne_growth launchers cluster registry
  generalize scaleUpByOne launchers cluster registry = outcome at growth
  cases growth with
  | full none =>
    -- Nothing has changed, and the error is the allocator's.
    refine ⟨aligned, ?_, by simp⟩
    rintro error ⟨⟩
    exact notDrift_of_peek none
  | @refused ports reply error log block asked refusal errorFree =>
    -- Only the streams have changed, and the error is the launcher's.
    refine ⟨?_, ?_, ?_⟩
    · show _ = (registry.handOut reply.released).members
      rw [Registry.members_handOut]
      exact aligned
    · rintro error ⟨⟩
      exact .launcher (.inl ⟨_, _, _, by rw [← refusal, ← asked]; rfl⟩)
    · intro entry member level
      rcases List.mem_append.mp member with earlier | last
      · exact absurd level (errorFree entry earlier)
      · obtain rfl := List.mem_singleton.mp last
        simp [launchFault, record, ordinaryFaults]
  | drifted block asked started misplaced =>
    -- The membership has as many members as the cluster has nodes, so this cannot be.
    exact absurd aligned.size_eq.symm misplaced
  | grown block asked started placed errorFree =>
    refine ⟨?_, ?_, faults_of_errorFree errorFree⟩
    · -- The new node and its address were both put last.
      show List.map _ (cluster.servers ++ [_]) = registry.members ++ [_]
      rw [List.map_append, aligned]
      rfl
    · rintro error ⟨⟩

/-- A node that stops, or fails to, leaves cluster and membership in step. -/
theorem keepsAligned_scaleDownByOne (aligned : cluster.Aligned registry) (index : Nat) :
    KeepsAligned launchers (scaleDownByOne launchers cluster registry index) := by
  have shrinking := scaleDownByOne_shrinking launchers cluster registry index
  generalize scaleDownByOne launchers cluster registry index = outcome at shrinking
  cases shrinking with
  | unknown absent =>
    -- Nothing has changed, and the index is past all nodes.
    refine ⟨aligned, ?_, ?_⟩
    · rintro error ⟨⟩
      exact .unknown (List.getElem?_eq_none_iff.mp absent)
    · intro entry member _
      obtain rfl := List.mem_singleton.mp member
      simp [unknownFault, record, ordinaryFaults]
  | drifted found misplaced =>
    -- The member at the position of a node is its address, so this cannot be.
    exact absurd (aligned.found found) misplaced
  | @refused node reply error log found placed asked refusal errorFree =>
    refine ⟨?_, ?_, faults_of_errorFree errorFree⟩
    · -- The membership has lost streams only, and those are not what nodes stand with.
      show _ = (registry.cancelAll reply.released).value.members
      rw [Registry.members_cancelAll]
      exact aligned
    · -- The error is what the launcher has answered.
      rintro error ⟨⟩
      exact .launcher (.inr ⟨_, _, by rw [asked, refusal]⟩)
  | stopped found placed asked agreed errorFree =>
    refine ⟨?_, ?_, faults_of_errorFree errorFree⟩
    · -- Node and address are taken out at the same position.
      show List.map _ (cluster.servers.eraseIdx index) = registry.members.eraseIdx index
      rw [← aligned]
      exact (List.eraseIdx_map _ _ _).symm
    · rintro error ⟨⟩

/-! ### Several operations in a row -/

/-- An operation that ends at the failure of its first part keeps what that part keeps. -/
theorem KeepsAligned.ended {error : ClusterError} {log : List LogRecord}
    (keepsAligned : KeepsAligned (α := α) launchers ⟨(.error error, cluster, registry), log⟩) :
    KeepsAligned (α := β) launchers ⟨(.error error, cluster, registry), log ++ []⟩ := by
  -- Nothing is logged after the failure, so there is nothing more to be said of the log.
  refine ⟨keepsAligned.aligned, ?_, ?_⟩
  · rintro error ⟨⟩
    exact keepsAligned.notDrift _ rfl
  · simpa using keepsAligned.faults

/-- An operation of two parts keeps cluster and membership in step when both parts do. -/
theorem KeepsAligned.continued {first : Except ClusterError α × Cluster σ η × Registry}
    {log : List LogRecord} {rest : Logged (Except ClusterError β × Cluster σ η × Registry)}
    (keepsAligned : KeepsAligned launchers ⟨first, log⟩) (further : KeepsAligned launchers rest) :
    KeepsAligned launchers ⟨rest.value, log ++ rest.log⟩ := by
  -- The state and the answer are those of the second part; only the logs are joined.
  refine ⟨further.aligned, further.notDrift, ?_⟩
  intro entry member level
  rcases List.mem_append.mp member with earlier | later
  · exact keepsAligned.faults entry earlier level
  · exact further.faults entry later level

/-- Several nodes that start in a row leave cluster and membership in step. -/
theorem keepsAligned_scaleUp (count : Nat) (aligned : cluster.Aligned registry) :
    KeepsAligned launchers (scaleUp launchers count cluster registry) := by
  -- The attempts follow each other, each from where the one before has left off.
  induction count generalizing cluster registry with
  | zero => exact ⟨aligned, nofun, by simp [scaleUp]⟩
  | succ count ih =>
    have one : KeepsAligned launchers (scaleUpByOne launchers cluster registry) :=
      keepsAligned_scaleUpByOne aligned
    rw [scaleUp, Logged.bind_eq]
    generalize scaleUpByOne launchers cluster registry = first at one
    obtain ⟨⟨result, cluster, registry⟩, log⟩ := first
    cases result with
    -- The first failure ends the operation; the nodes started before it stay.
    | error error => exact one.ended
    | ok index =>
      refine one.continued ?_
      obtain ⟨aligned, notDrift, faults⟩ := ih one.aligned
      refine ⟨aligned, ?_, faults⟩
      -- The indices of the others are put behind the first one; an error stays what it is.
      intro error failed
      refine notDrift error ?_
      simp only [Logged.value_map] at failed
      generalize (scaleUp launchers count cluster registry).value.1 = rest at failed ⊢
      cases rest with
      | error _ => exact failed
      | ok _ => cases failed

/-- Several nodes that stop in a row leave cluster and membership in step. -/
theorem keepsAligned_scaleDownLast (count : Nat) (aligned : cluster.Aligned registry) :
    KeepsAligned launchers (scaleDownLast launchers count cluster registry) := by
  -- As for the start of several nodes, but what stops is always the last one that is left.
  induction count generalizing cluster registry with
  | zero => exact ⟨aligned, nofun, by simp [scaleDownLast]⟩
  | succ count ih =>
    have one : KeepsAligned launchers (scaleDownByOne launchers cluster registry count) :=
      keepsAligned_scaleDownByOne aligned count
    rw [scaleDownLast, Logged.bind_eq]
    generalize scaleDownByOne launchers cluster registry count = first at one
    obtain ⟨⟨result, cluster, registry⟩, log⟩ := first
    cases result with
    | error error => exact one.ended
    | ok _ => exact one.continued (ih one.aligned)

/-! ### What other faults would tell of -/

/-- Nobody undoes a launch without saying so. -/
theorem fault_of_abandonLaunch (registered : Nat) (spec : NodeSpec) (handle : η) :
    ∃ entry ∈ (abandonLaunch launchers cluster registry registered spec handle).log,
      entry.level = .error ∧ entry.message ∉ ordinaryFaults := by
  -- The drift is the first thing that is logged.
  refine ⟨_, List.mem_cons_self, rfl, ?_⟩
  simp [record, ordinaryFaults]

/-- No removal fails without saying so. -/
theorem fault_of_remove {index : Nat} {error : ClusterError}
    (failed : (registry.remove index).value.1 = .error error) :
    ∃ entry ∈ (registry.remove index).log,
      entry.level = .error ∧ entry.message ∉ ordinaryFaults := by
  cases found : registry.members[index]? with
  -- The index was past all members, which is a fault of its own.
  | none =>
    unfold Registry.remove
    rw [found]
    exact ⟨_, List.mem_cons_self, rfl, by simp [ordinaryFaults]⟩
  | some peer =>
    -- Whoever is found is removed.
    rw [(Registry.remove_of_found found).1] at failed
    cases failed

end Cluster

/-! ### Runs -/

/-- A call that asks for no change of the membership makes none, and is worth no error. -/
theorem Registry.unchanged_perform (registry : Registry) {call : RegistryCall}
    (own : (ClusterCall.membership call).bypassesCluster = false) :
    (registry.perform call).value.2.members = registry.members ∧
      ErrorFree (registry.perform call).log := by
  -- By the kind of the call, of which only two change the membership.
  unfold perform
  split
  · exact ⟨rfl, .nil⟩
  · cases call with
    -- These two are the ones that were ruled out.
    | add | remove => cases own
    | subscribe => exact ⟨rfl, registry.errorFree_subscribe⟩
    | retain | release => exact ⟨rfl, .nil⟩
    | poll id =>
      refine ⟨?_, .nil⟩
      -- To be polled is no change to anything but the stream.
      show (registry.poll id).2.members = _
      rw [poll_frame]
    | cancel id =>
      refine ⟨?_, registry.errorFree_cancel id⟩
      show (registry.cancel id).value.members = _
      rw [cancel_frame]

namespace Deployment

open Machine Cluster

variable {σ η α : Type} {launchers : Launcher σ η} {deployment : Deployment σ η}

/-- The launcher works as it always did, and cluster and membership are in step. -/
structure InStep (launchers : Launcher σ η) (deployment : Deployment σ η) : Prop where
  launchers_eq : deployment.launchers = launchers
  aligned : deployment.cluster.Aligned deployment.registry

/-- The answer is not a drift, and no drift is logged. -/
structure DriftFree (launchers : Launcher σ η) (entry : Exchange ClusterCall ClusterAnswer) :
    Prop where
  notDrift : ∀ error, entry.answer = .failed error → NotDrift launchers error
  faults : ∀ record ∈ entry.log, record.level = .error → record.message ∈ ordinaryFaults

/-- An operation that keeps them aligned is not answered with a drift. -/
theorem conclude_driftFree (same : deployment.launchers = launchers) {answer : α → ClusterAnswer}
    (succeeds : ∀ value error, answer value ≠ .failed error)
    {outcome : Logged (Except ClusterError α × Cluster σ η × Registry)}
    (keepsAligned : KeepsAligned launchers outcome) (call : ClusterCall) :
    let concluded := deployment.conclude answer outcome
    InStep launchers concluded.value.2 ∧
      DriftFree launchers ⟨call, concluded.value.1, concluded.log⟩ := by
  obtain ⟨⟨result, cluster, registry⟩, log⟩ := outcome
  refine ⟨⟨same, keepsAligned.aligned⟩, ?_, keepsAligned.faults⟩
  intro error failed
  cases result with
  | error cause =>
    obtain rfl := ClusterAnswer.failed.inj failed
    exact keepsAligned.notDrift _ rfl
  | ok value => exact absurd failed (succeeds value error)

/-- Every call that does not bypass the cluster keeps everything in step, without drift. -/
theorem step_driftFree (inStep : deployment.InStep launchers) {call : ClusterCall}
    (own : call.bypassesCluster = false) :
    InStep launchers (next deployment call) ∧ DriftFree launchers (exchange deployment call) := by
  obtain ⟨same, cluster, registry⟩ := deployment
  -- Each call of the cluster is one of the operations above.
  obtain ⟨rfl, aligned⟩ := inStep
  cases call with
  | up => exact conclude_driftFree rfl (by simp) (keepsAligned_scaleUpByOne aligned) .up
  | upMany count =>
    exact conclude_driftFree rfl (by simp) (keepsAligned_scaleUp count aligned) (.upMany count)
  | down index =>
    exact conclude_driftFree rfl (by simp) (keepsAligned_scaleDownByOne aligned index) (.down index)
  | shutdown =>
    exact conclude_driftFree rfl (by simp) (keepsAligned_scaleDownLast _ aligned) .shutdown
  | membership call =>
    -- Whatever is asked past the cluster, the members stay as they are.
    obtain ⟨members, errorFree⟩ := registry.unchanged_perform own
    let asked : Deployment σ η := ⟨same, cluster, registry⟩
    show InStep same (asked.consult call).value.2 ∧
      DriftFree same ⟨.membership call, (asked.consult call).value.1, (asked.consult call).log⟩
    unfold consult
    split
    · -- Nobody drops the handle of the cluster.
      exact ⟨⟨rfl, aligned⟩, by simp, by simp⟩
    · refine ⟨⟨rfl, ?_⟩, by simp, faults_of_errorFree errorFree⟩
      show _ = (registry.perform call).value.2.members
      rw [members]
      exact aligned

/-- The answer to a request for one more node is the position of its address. -/
theorem node_of_index {index : Nat} (grew : answerTo deployment .up = .index index) :
    ∃ node, (next deployment .up).cluster.servers = deployment.cluster.servers ++ [node] ∧
      (next deployment .up).registry.members =
        deployment.registry.members ++ [node.spec.address] ∧
      index = deployment.registry.members.length := by
  obtain ⟨working, cluster, registry⟩ := deployment
  -- Only one outcome of an attempt to grow is answered by an index.
  change (conclude _ .index (scaleUpByOne working cluster registry)).value.1 = _ at grew
  show ∃ node,
    (conclude _ .index (scaleUpByOne working cluster registry)).value.2.cluster.servers = _ ∧
    (conclude _ .index (scaleUpByOne working cluster registry)).value.2.registry.members = _ ∧ _
  have growth := scaleUpByOne_growth working cluster registry
  generalize scaleUpByOne working cluster registry = outcome at growth grew ⊢
  cases growth with
  -- All the others answer an error.
  | full | refused | drifted => cases grew
  | grown block asked started placed errorFree =>
    obtain rfl := ClusterAnswer.index.inj grew
    exact ⟨_, rfl, rfl, placed.symm⟩

/--
Every node stands where its address stands, as long as nobody bypasses the cluster.

So what is reported and answered about a node is true of the member at its position. Whatever fails
is the launcher's own failure, a want of ports, or a request for a node that there is not. To undo a
launch would be logged as a drift, and so would a failed removal be as a fault of its own; neither
is ever logged.
-/
theorem nodes_stand_with_members (launchers : Launcher σ η) (config : ClusterConfig) (launcher : σ)
    (calls : List ClusterCall) (own : ∀ call ∈ calls, call.bypassesCluster = false) :
    let begun := start launchers config launcher
    let final := after begun calls
    final.cluster.servers.map (·.spec.address) = final.registry.members ∧
    final.cluster.size = final.registry.members.length ∧
    (final.cluster.report launchers).map (fun node => (node.index, node.address)) =
      final.registry.members.mapIdx Prod.mk ∧
    (∀ index, answerTo final .up = .index index → ∃ node,
      (next final .up).cluster.servers = final.cluster.servers ++ [node] ∧
      (next final .up).registry.members = final.registry.members ++ [node.spec.address] ∧
      index = final.registry.members.length) ∧
    (∀ entry ∈ exchanges begun calls,
      (∀ error, entry.answer = .failed error → NotDrift launchers error) ∧
      ∀ record ∈ entry.log, record.level = .error → record.message ∈ ordinaryFaults) ∧
    (∀ cluster registry registered spec handle,
      ∃ record ∈ (abandonLaunch launchers cluster registry registered spec handle).log,
        record.level = .error ∧ record.message ∉ ordinaryFaults) ∧
    ∀ (registry : Registry) (index : Nat) (error : ClusterError),
      (registry.remove index).value.1 = .error error →
      ∃ record ∈ (registry.remove index).log,
        record.level = .error ∧ record.message ∉ ordinaryFaults := by
  intro begun final
  -- To be in step is what each call keeps that does not bypass the cluster.
  have kept : ∀ deployment call, InStep launchers deployment → call.bypassesCluster = false →
      InStep launchers (next deployment call) := fun _ _ inStep own => (step_driftFree inStep own).1
  have begins : begun.InStep launchers := ⟨rfl, rfl⟩
  -- The run begins with no node and no member, and these stand alike.
  have inStep : final.InStep launchers := after_of_kept kept begins own
  refine ⟨inStep.aligned, inStep.aligned.size_eq, ?_, ?_, ?_,
    fun _ _ => fault_of_abandonLaunch, fun _ _ _ => fault_of_remove⟩
  · -- The report numbers the nodes in the order in which they stand.
    rw [← inStep.aligned, Cluster.report]
    apply List.ext_getElem?
    intro index
    simp only [List.getElem?_map, List.getElem?_mapIdx, Option.map_map]
    rfl
  · intro index grew
    exact node_of_index grew
  · have driftFree : ∀ deployment call, InStep launchers deployment → call.bypassesCluster = false →
        DriftFree launchers (exchange deployment call) := fun _ _ inStep own =>
          (step_driftFree inStep own).2
    -- An entry of a run is the exchange of a deployment in step.
    intro entry member
    have driftFree := exchanges_of_kept kept driftFree begins own entry member
    exact ⟨driftFree.notDrift, driftFree.faults⟩

/-- Two nodes start, one stops, one is not there, and another starts while a stream is open. -/
theorem nodes_stand_with_members_of_five_calls :
    let calls := [.upMany 2, .membership .subscribe, .down 0, .down 7, .up]
    let final := after (start Recorder.launcher .standard (.fresh true)) calls
    (∀ call ∈ calls, call.bypassesCluster = false) ∧
      final.registry.members = [
        ⟨"localhost", 13010, 13011, 13012⟩, ⟨"localhost", 13020, 13021, 13022⟩] ∧
      final.cluster.servers.map (·.spec.address) = final.registry.members :=
  ⟨by decide, by decide, (nodes_stand_with_members Recorder.launcher .standard (.fresh true)
    [.upMany 2, .membership .subscribe, .down 0, .down 7, .up] (by decide)).1⟩

end Deployment

end PeerCluster
