import PeerCluster.Cluster
import PeerCluster.Proofs.Logged
import PeerCluster.Proofs.Registry.Effects

/-! What single attempts to grow and to shrink a cluster come to, from whatever state. -/

namespace PeerCluster

/-! ### What a launcher does to the membership -/

namespace Registry

/-- Sending a change is worth no error. -/
theorem errorFree_publish (registry : Registry) (event : MemberEvent) :
    ErrorFree (registry.publish event).log := by
  -- Only those who no longer listen are mentioned, and only in traces.
  intro entry member
  obtain ⟨id, _, rfl⟩ := List.mem_map.mp member
  simp [subscriberRecord]

/-- A member joins without an error. -/
theorem errorFree_add (registry : Registry) (peer : PeerAddress) :
    ErrorFree (registry.add peer).log := by
  exact (errorFree_publish _ _).append (.single (by simp [changeRecord]))

/-- A stream of peers to replicate from is a new subscription that is looked at so. -/
theorem replicationPeers_eq (registry : Registry) :
    registry.replicationPeers =
      ⟨(.replicating registry.nextId, registry.subscribe.value.2), registry.subscribe.log⟩ := rfl

/-- A stream is opened without an error. -/
theorem errorFree_subscribe (registry : Registry) : ErrorFree registry.subscribe.log := by
  exact .single (by simp)

/-- A member at a position leaves it, and that without an error. -/
theorem remove_of_found {registry : Registry} {index : Nat} {peer : PeerAddress}
    (found : registry.members[index]? = some peer) :
    (registry.remove index).value =
      (.ok peer, registry.announce (registry.members.eraseIdx index) (.remove peer)) ∧
    ErrorFree (registry.remove index).log := by
  -- The position decides what is removed, and somebody is found there.
  unfold remove
  rw [found]
  exact ⟨rfl, (errorFree_publish _ _).append (.single (by simp [changeRecord]))⟩

/-- A subscriber is taken off the list without an error. -/
theorem errorFree_detach (registry : Registry) (id : Nat) : ErrorFree (registry.detach id).log := by
  -- Only somebody on the list is taken off it, and this is worth a trace.
  unfold detach
  split
  · exact .single (by simp [subscriberRecord])
  · exact .nil

/-- A stream ends without an error. -/
theorem errorFree_cancel (registry : Registry) (id : Nat) : ErrorFree (registry.cancel id).log := by
  -- Whoever listens is detached, and nobody else is mentioned.
  unfold cancel
  split
  · exact .nil
  · split
    · exact .nil
    · exact errorFree_detach _ _

/-- Several streams end without an error. -/
theorem errorFree_cancelAll (registry : Registry) (ids : List Nat) :
    ErrorFree (registry.cancelAll ids).log := by
  -- They end one after the other, each without an error.
  induction ids generalizing registry with
  | nil => exact .nil
  | cons id rest ih => exact (registry.errorFree_cancel id).append (ih _)

/-- The end of streams leaves everything but subscriptions and subscribers alone. -/
theorem cancelAll_frame (registry : Registry) (ids : List Nat) :
    (registry.cancelAll ids).value =
      { registry with
        subscribers := (registry.cancelAll ids).value.subscribers
        subscriptions := (registry.cancelAll ids).value.subscriptions } := by
  -- By induction on the streams, each of which touches no other field.
  induction ids generalizing registry with
  | nil => rfl
  | cons id rest ih =>
    -- The other streams end in the registry that the first one leaves behind.
    have members : (registry.cancel id).value.members = registry.members := by rw [cancel_frame]
    have revision : (registry.cancel id).value.revision = registry.revision := by rw [cancel_frame]
    have handles : (registry.cancel id).value.handles = registry.handles := by rw [cancel_frame]
    have others := ih (registry.cancel id).value
    rw [members, revision, handles] at others
    exact others

/-- The end of streams changes no member. -/
@[simp] theorem members_cancelAll (registry : Registry) (ids : List Nat) :
    (registry.cancelAll ids).value.members = registry.members := by
  rw [cancelAll_frame]

/-- The registry once a launcher was given a new stream and has let go of others. -/
def handOut (registry : Registry) (released : List Nat) : Registry :=
  (registry.subscribe.value.2.cancelAll released).value

/-- Handing out a stream changes no member. -/
@[simp] theorem members_handOut (registry : Registry) (released : List Nat) :
    (registry.handOut released).members = registry.members := by
  unfold handOut
  rw [members_cancelAll]
  -- The stream that was opened and those that ended are not members.
  rfl

end Registry

namespace Cluster

variable {σ η : Type} (launchers : Launcher σ η) (cluster : Cluster σ η) (registry : Registry)

/-! ### Growing -/

/-- What the launcher answers when it is asked for the node of a block of ports. -/
def launchReply (ports : NodePorts) : LauncherReply σ η :=
  launchers.launch cluster.launcher (cluster.specFor ports) (.replicating registry.nextId)

/-- The record of a launch that failed. -/
def launchFault (error : ClusterError) (ports : NodePorts) : LogRecord :=
  record .error "node launch failed" [error.codeField, error.messageField,
    ("node.registration_port", .number ports.registration.toNat)]

/-- The registry when a node was started and its address has joined the membership. -/
def joinedBy (ports : NodePorts) (released : List Nat) : Registry :=
  let address := (cluster.specFor ports).address
  (registry.handOut released).announce (registry.members ++ [address]) (.add address)

/-- What an attempt to grow by one node can come to. -/
inductive Growth : Logged (Except ClusterError Nat × Cluster σ η × Registry) → Prop where
  /-- There is no room for another block of ports. -/
  | full {error : ClusterError} (none : cluster.allocator.peek = .error error) :
      Growth ⟨(.error error, cluster, registry), []⟩
  /-- The launcher fails, and keeps or lets go of the stream that it was given. -/
  | refused {ports : NodePorts} {reply : LauncherReply σ η} {error : ClusterError}
      {log : List LogRecord} (block : cluster.allocator.peek = .ok ports)
      (asked : launchReply launchers cluster registry ports = reply)
      (refusal : reply.result = .error error) (errorFree : ErrorFree log) :
      Growth ⟨(.error error, { cluster with launcher := reply.launcher },
        registry.handOut reply.released), log ++ [launchFault error ports]⟩
  /-- The new member does not stand where the new node would, and the launch is undone. -/
  | drifted {ports : NodePorts} {reply : LauncherReply σ η} {handle : η} {log : List LogRecord}
      {undone : Logged (ClusterError × Cluster σ η × Registry)}
      (block : cluster.allocator.peek = .ok ports)
      (asked : launchReply launchers cluster registry ports = reply)
      (started : reply.result = .ok handle) (misplaced : registry.members.length ≠ cluster.size)
      (abandoned : abandonLaunch launchers { cluster with launcher := reply.launcher }
        (joinedBy cluster registry ports reply.released) registry.members.length
        (cluster.specFor ports) handle = undone) (errorFree : ErrorFree log) :
      Growth ⟨(.error undone.value.1, undone.value.2.1, undone.value.2.2), log ++ undone.log⟩
  /-- A node is started and stands where its address stands in the membership. -/
  | grown {ports : NodePorts} {reply : LauncherReply σ η} {handle : η} {log : List LogRecord}
      (block : cluster.allocator.peek = .ok ports)
      (asked : launchReply launchers cluster registry ports = reply)
      (started : reply.result = .ok handle) (placed : registry.members.length = cluster.size)
      (errorFree : ErrorFree log) :
      Growth ⟨(.ok cluster.size, { cluster with
          launcher := reply.launcher
          allocator := cluster.allocator.commit
          servers := cluster.servers ++ [⟨cluster.specFor ports, handle⟩] },
        joinedBy cluster registry ports reply.released), log⟩

/-- The address of a node joins behind all members when its launcher has let go of streams. -/
theorem add_handOut (ports : NodePorts) (released : List Nat) :
    ((registry.handOut released).add (cluster.specFor ports).address).value =
      (registry.members.length, joinedBy cluster registry ports released) := by
  -- The launcher has let go of streams only, so the newcomer comes behind the same members.
  have members := registry.members_handOut released
  unfold joinedBy
  rw [← members]
  rfl

/-- Every attempt to grow by one node comes to one of these. -/
theorem scaleUpByOne_growth :
    Growth launchers cluster registry (scaleUpByOne launchers cluster registry) := by
  -- The branches of the operation in order: the ports, the launch, the position.
  unfold scaleUpByOne
  cases block : cluster.allocator.peek with
  | error error => exact .full block
  | ok ports =>
    generalize asked : launchReply launchers cluster registry ports = reply
    -- The launch is known under two names, and the branches below speak of this one.
    have told : launchers.launch cluster.launcher (cluster.specFor ports)
        (.replicating registry.nextId) = reply := asked
    -- Up to here nothing that was logged is an error.
    have followed : ErrorFree (registry.subscribe.log ++
        (registry.subscribe.value.2.cancelAll reply.released).log) :=
      registry.errorFree_subscribe.append (Registry.errorFree_cancelAll _ _)
    have size : ({ cluster with launcher := reply.launcher } : Cluster σ η).size =
        cluster.size := rfl
    cases started : reply.result with
    | error error =>
      -- The launch failed: the stream stays with the launcher, and the fault is logged last.
      have refused := Growth.refused block asked started followed
      rw [List.append_assoc] at refused
      simp only [Logged.bind_eq, Registry.replicationPeers_eq, told, started]
      exact refused
    | ok handle =>
      -- The node is started, so its address joins before its position is looked at.
      have joined := add_handOut cluster registry ports reply.released
      have welcomed := followed.append
        ((registry.handOut reply.released).errorFree_add (cluster.specFor ports).address)
      unfold Registry.handOut at joined welcomed
      simp only [Logged.bind_eq, Registry.replicationPeers_eq, told, started, joined, size]
      -- The position of the new member decides whether the node is kept.
      by_cases placed : registry.members.length = cluster.size
      · simp only [ne_eq, placed, not_true_eq_false, if_false]
        simp only [Logged.log_emit, Logged.log_pure, List.append_nil, ← List.append_assoc]
        exact .grown block asked started placed (welcomed.append (.single (by simp [record])))
      · -- Undoing the launch is left to its own operation; only the logs are put together.
        simp only [ne_eq, placed, not_false_eq_true, if_true]
        have drifted := Growth.drifted block asked started placed rfl welcomed
        simp only [List.append_assoc] at drifted
        simp only [Logged.log_pure, List.append_nil]
        exact drifted

/-! ### Shrinking -/

/-- The record of a request to stop a node that there is not. -/
def unknownFault (index : Nat) : LogRecord :=
  record .error "scale down requested for an unknown node" [
    (ClusterError.peerIndexOutOfRange index cluster.size).codeField,
    ("node.index", .number index), ("cluster.size", .number cluster.size)]

/-- The record of a request to stop a node that is not the member at its position. -/
def driftFault (index : Nat) (spec : NodeSpec) : LogRecord :=
  record .error "registry position does not match the server index" [
    (driftError index spec).codeField, ("node.index", .number index),
    ("membership.size", .number registry.members.length)]

/-- What an attempt to stop the node at a position can come to. -/
inductive Shrinking (index : Nat) :
    Logged (Except ClusterError PeerAddress × Cluster σ η × Registry) → Prop where
  /-- There is no such node. -/
  | unknown (absent : cluster.servers[index]? = none) :
      Shrinking index ⟨(.error (.peerIndexOutOfRange index cluster.size), cluster, registry),
        [unknownFault cluster index]⟩
  /-- The node is not the member at its position. -/
  | drifted {node : RunningNode η} (found : cluster.servers[index]? = some node)
      (misplaced : registry.members[index]? ≠ some node.spec.address) :
      Shrinking index ⟨(.error (driftError index node.spec), cluster, registry),
        [driftFault registry index node.spec]⟩
  /-- The launcher fails, and keeps or lets go of streams. -/
  | refused {node : RunningNode η} {reply : LauncherReply σ Unit} {error : ClusterError}
      {log : List LogRecord} (found : cluster.servers[index]? = some node)
      (placed : registry.members[index]? = some node.spec.address)
      (asked : launchers.stop cluster.launcher node.handle = reply)
      (refusal : reply.result = .error error) (errorFree : ErrorFree log) :
      Shrinking index ⟨(.error error, { cluster with launcher := reply.launcher },
        (registry.cancelAll reply.released).value), log⟩
  /-- The node stops, and its address leaves the membership. -/
  | stopped {node : RunningNode η} {reply : LauncherReply σ Unit} {log : List LogRecord}
      (found : cluster.servers[index]? = some node)
      (placed : registry.members[index]? = some node.spec.address)
      (asked : launchers.stop cluster.launcher node.handle = reply)
      (agreed : reply.result = .ok ()) (errorFree : ErrorFree log) :
      Shrinking index ⟨(.ok node.spec.address, { cluster with
          launcher := reply.launcher
          servers := cluster.servers.eraseIdx index },
        (registry.cancelAll reply.released).value.announce (registry.members.eraseIdx index)
          (.remove node.spec.address)), log⟩

/-- Every attempt to stop a node comes to one of these; the membership always lets the node go. -/
theorem scaleDownByOne_shrinking (index : Nat) :
    Shrinking launchers cluster registry index
      (scaleDownByOne launchers cluster registry index) := by
  -- The branches of the operation in order: the node, its position, the stop, the removal.
  unfold scaleDownByOne
  cases found : cluster.servers[index]? with
  | none => exact .unknown found
  | some node =>
    -- The launcher is asked only where the node is the member at its position.
    by_cases placed : registry.members[index]? = some node.spec.address
    · generalize asked : launchers.stop cluster.launcher node.handle = reply
      have released := registry.errorFree_cancelAll reply.released
      simp only [ne_eq, placed, not_true_eq_false, if_false, Logged.bind_eq, asked]
      cases agreed : reply.result with
      -- The launcher refuses, and what it let go of is all that has changed.
      | error error =>
        simp only [Logged.log_pure, List.append_nil]
        exact .refused found placed asked agreed released
      | ok _ =>
        -- Letting go of streams moved no member, so the removal finds the one looked for.
        have still : (registry.cancelAll reply.released).value.members[index]? =
            some node.spec.address := by
          rw [Registry.members_cancelAll]
          exact placed
        obtain ⟨removed, errorFree⟩ := Registry.remove_of_found still
        have stopped := released.append errorFree
        rw [Registry.members_cancelAll] at removed
        simp only [removed]
        simp only [Logged.log_emit, Logged.log_pure, List.append_nil, ← List.append_assoc]
        exact .stopped found placed asked agreed (stopped.append (.single (by simp [record])))
    · simp only [ne_eq, placed, not_false_eq_true, if_true]
      exact .drifted found placed

end Cluster

end PeerCluster
