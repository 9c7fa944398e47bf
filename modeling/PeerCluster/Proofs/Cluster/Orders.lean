import PeerCluster.Cluster.Recorder
import PeerCluster.Proofs.Cluster.Alignment
import PeerCluster.Proofs.Cluster.Journal
import PeerCluster.Proofs.Cluster.Sending
import PeerCluster.Proofs.Cluster.Unfolding
import PeerCluster.Proofs.Ports

/-! What a launcher is told in an attempt, and what comes of the nodes and the members by it. -/

namespace PeerCluster

variable {σ η : Type}

/-! ### Journals -/

namespace LauncherCall

/-- The node that was started, if one was. -/
def started? : LauncherCall η → Option (RunningNode η)
  | launch spec _ (.ok handle) => some ⟨spec, handle⟩
  | _ => none

/-- The handle of the node that was stopped, if one was. -/
def stopped? : LauncherCall η → Option η
  | stop handle (.ok _) => some handle
  | _ => none

end LauncherCall

/-- The nodes that a launcher has started, by its journal, in the order of starting. -/
def startedIn (journal : List (LauncherCall η)) : List (RunningNode η) :=
  journal.filterMap LauncherCall.started?

/-- The handles that a launcher has stopped, by its journal, in the order of stopping. -/
def stoppedIn (journal : List (LauncherCall η)) : List η :=
  journal.filterMap LauncherCall.stopped?

/-- What is written later comes later. -/
@[simp] theorem startedIn_append (journal more : List (LauncherCall η)) :
    startedIn (journal ++ more) = startedIn journal ++ startedIn more :=
  List.filterMap_append

/-- What is written later comes later. -/
@[simp] theorem stoppedIn_append (journal more : List (LauncherCall η)) :
    stoppedIn (journal ++ more) = stoppedIn journal ++ stoppedIn more :=
  List.filterMap_append

section Entries

variable (spec : NodeSpec) (stream : EndpointEvents) (handle : η) (error : ClusterError)

/-- A launch that succeeds starts a node. -/
@[simp] theorem startedIn_launch_ok :
    startedIn [.launch spec stream (.ok handle)] = [⟨spec, handle⟩] := rfl

/-- A launch that fails starts none. -/
@[simp] theorem startedIn_launch_error :
    startedIn [.launch (η := η) spec stream (.error error)] = [] := rfl

/-- To stop a node starts none. -/
@[simp] theorem startedIn_stop (result : Except ClusterError Unit) :
    startedIn [.stop handle result] = [] := rfl

/-- To start a node stops none. -/
@[simp] theorem stoppedIn_launch (result : Except ClusterError η) :
    stoppedIn [.launch spec stream result] = [] := rfl

/-- A stop that succeeds stops a node. -/
@[simp] theorem stoppedIn_stop_ok (value : Unit) :
    stoppedIn [.stop handle (.ok value)] = [handle] := rfl

/-- A stop that fails stops none. -/
@[simp] theorem stoppedIn_stop_error : stoppedIn [.stop handle (.error error)] = [] := rfl

end Entries

/-! ### Orders -/

/-- What a launcher can be told to do. -/
inductive LauncherOrder (η : Type) where
  | launch (spec : NodeSpec) (stream : EndpointEvents)
  | stop (handle : η)

/-- A launcher with a journal after it was told to do something. -/
def Launcher.carryOut (launchers : Launcher σ η) (state : Journaled σ η) :
    LauncherOrder η → Journaled σ η
  | .launch spec stream => (launchers.journaling.launch state spec stream).launcher
  | .stop handle => (launchers.journaling.stop state handle).launcher

/-- Whatever a launcher is told to do, no two nodes that it starts get the same handle. -/
def Launcher.Fresh (launchers : Launcher σ η) (launcher : σ) : Prop :=
  ∀ orders : List (LauncherOrder η),
    ((startedIn (orders.foldl launchers.carryOut ⟨launcher, []⟩).journal).map (·.handle)).Nodup

namespace Recorder

/-- The nodes in a recorder's journal have handles of their own, all below the next one. -/
def Numbers (state : Journaled Recorder Nat) : Prop :=
  ((startedIn state.journal).map (·.handle)).Nodup ∧
    ∀ node ∈ startedIn state.journal, node.handle < state.launcher.launched.size

/-- Whatever a recorder is told to do, it numbers its nodes. -/
theorem numbers_carryOut {state : Journaled Recorder Nat} (numbers : Numbers state)
    (order : LauncherOrder Nat) : Numbers (launcher.carryOut state order) := by
  obtain ⟨recorder, journal⟩ := state
  obtain ⟨distinct, below⟩ := numbers
  cases order with
  | stop handle =>
    -- To stop a node starts none, and the number of those started stays.
    have same : (recorder.stop handle).launcher.launched = recorder.launched := by
      unfold stop
      split <;> rfl
    have none : startedIn (launcher.carryOut ⟨recorder, journal⟩ (.stop handle)).journal =
        startedIn journal := by simp [Launcher.carryOut, Launcher.journaling, LauncherReply.noted]
    refine ⟨none ▸ distinct, fun node member => ?_⟩
    show node.handle < (recorder.stop handle).launcher.launched.size
    rw [same]
    exact below node (none ▸ member)
  | launch spec stream =>
    show Numbers ((recorder.launch spec stream).noted journal (.launch spec stream)).launcher
    unfold launch
    split
    · -- A launch that fails starts nothing.
      rename_i error _ _
      have none : startedIn (journal ++ [LauncherCall.launch spec stream (.error error)]) =
          startedIn journal := by simp
      exact ⟨none ▸ distinct, fun node member => below node (none ▸ member)⟩
    · -- One that succeeds takes the number of those before it, which is above all of theirs.
      let newest : RunningNode Nat := ⟨spec, recorder.launched.size⟩
      have one : startedIn (journal ++ [LauncherCall.launch spec stream (.ok newest.handle)]) =
          startedIn journal ++ [newest] := by simp [newest]
      have fresh : ∀ handle ∈ (startedIn journal).map (·.handle),
          handle ≠ recorder.launched.size := by
        intro handle member
        obtain ⟨node, listed, rfl⟩ := List.mem_map.mp member
        exact Nat.ne_of_lt (below node listed)
      have unique : ((startedIn journal ++ [newest]).map (·.handle)).Nodup := by
        rw [List.map_append, List.nodup_append]
        refine ⟨distinct, List.pairwise_singleton _ _, fun handle member other last => ?_⟩
        obtain rfl := List.mem_singleton.mp last
        exact fresh handle member
      have bounded : ∀ node ∈ startedIn journal ++ [newest],
          node.handle < (recorder.launched.push spec).size := by
        intro node member
        rw [Array.size_push]
        rcases List.mem_append.mp member with earlier | last
        · exact Nat.lt_succ_of_lt (below node earlier)
        · obtain rfl := List.mem_singleton.mp last
          exact Nat.lt_succ_self _
      split
      · exact ⟨one ▸ unique, fun node member => bounded node (one ▸ member)⟩
      · exact ⟨one ▸ unique, fun node member => bounded node (one ▸ member)⟩

/-- A recorder gives every node that it starts a handle of its own. -/
theorem fresh_launcher (recorder : Recorder) : launcher.Fresh recorder := by
  intro orders
  suffices kept : ∀ state, Numbers state → Numbers (orders.foldl launcher.carryOut state) from
    (kept ⟨recorder, []⟩ ⟨List.nodup_nil, nofun⟩).1
  induction orders with
  | nil => exact fun state numbers => numbers
  | cons order rest ih => exact fun state numbers => ih _ (numbers_carryOut numbers order)

end Recorder

/-! ### Attempts -/

namespace Cluster

/-- What a launcher is told about the next node. -/
def nextSpec (cluster : Cluster σ η) : NodeSpec :=
  cluster.specFor (.startingAt cluster.allocator.next)

/-- The cluster whose launcher has answered some calls, and has changed with them. -/
def answered (cluster : Cluster (Journaled σ η) η) (launcher : σ) (told : List (LauncherCall η)) :
    Cluster (Journaled σ η) η :=
  { cluster with launcher := ⟨launcher, cluster.launcher.journal ++ told⟩ }

/-- Calls that are answered one after the other stand in the journal in this order. -/
theorem answered_answered (cluster : Cluster (Journaled σ η) η) (launcher launcher' : σ)
    (told more : List (LauncherCall η)) :
    (cluster.answered launcher told).answered launcher' more =
      cluster.answered launcher' (told ++ more) := by
  simp [answered]

/--
What a call that makes one attempt at most can come to.

Told are: whether it is granted, what the launcher writes down, and the cluster and the members that
it leaves.
-/
inductive Attempt (launchers : Launcher σ η) (cluster : Cluster (Journaled σ η) η)
    (members : List PeerAddress) (stream : EndpointEvents) :
    ClusterCall → Bool → List (LauncherCall η) → Cluster (Journaled σ η) η → List PeerAddress →
      Prop where
  /-- The call is not about a node, and changes no member. -/
  | aside (call : RegistryCall) :
      Attempt launchers cluster members stream (.membership call) false [] cluster members
  /-- There is no room for another block of ports. -/
  | full (none : UInt16.size < cluster.allocator.next + portsPerNode) :
      Attempt launchers cluster members stream .up false [] cluster members
  /-- A node is not started. -/
  | refused {reply : LauncherReply σ η} {error : ClusterError}
      (fits : cluster.allocator.next + portsPerNode ≤ UInt16.size)
      (asked : launchers.launch cluster.launcher.launcher cluster.nextSpec stream = reply)
      (refusal : reply.result = .error error) :
      Attempt launchers cluster members stream .up false
        [.launch cluster.nextSpec stream (.error error)]
        (cluster.answered reply.launcher [.launch cluster.nextSpec stream (.error error)]) members
  /-- A node is started, and told to stop again since its address is not where it would stand. -/
  | abandoned {reply : LauncherReply σ η} {reply' : LauncherReply σ Unit} {handle : η}
      (fits : cluster.allocator.next + portsPerNode ≤ UInt16.size)
      (asked : launchers.launch cluster.launcher.launcher cluster.nextSpec stream = reply)
      (granted : reply.result = .ok handle) (misplaced : members.length ≠ cluster.size)
      (asked' : launchers.stop reply.launcher handle = reply') :
      Attempt launchers cluster members stream .up false
        [.launch cluster.nextSpec stream (.ok handle), .stop handle reply'.result]
        (cluster.answered reply'.launcher
          [.launch cluster.nextSpec stream (.ok handle), .stop handle reply'.result]) members
  /-- A node is started, and its address stands where it does. -/
  | started {reply : LauncherReply σ η} {handle : η}
      (fits : cluster.allocator.next + portsPerNode ≤ UInt16.size)
      (asked : launchers.launch cluster.launcher.launcher cluster.nextSpec stream = reply)
      (granted : reply.result = .ok handle) (placed : members.length = cluster.size) :
      Attempt launchers cluster members stream .up true
        [.launch cluster.nextSpec stream (.ok handle)]
        { cluster.answered reply.launcher [.launch cluster.nextSpec stream (.ok handle)] with
          allocator := cluster.allocator.commit
          servers := cluster.servers ++ [⟨cluster.nextSpec, handle⟩] }
        (members ++ [cluster.nextSpec.address])
  /-- There is no node at the position, or not where its address is. -/
  | absent {index : Nat} (none : ∀ node, cluster.servers[index]? = some node →
        members[index]? ≠ some node.spec.address) :
      Attempt launchers cluster members stream (.down index) false [] cluster members
  /-- A node is not stopped. -/
  | kept {index : Nat} {node : RunningNode η} {reply : LauncherReply σ Unit}
      {error : ClusterError} (found : cluster.servers[index]? = some node)
      (placed : members[index]? = some node.spec.address)
      (asked : launchers.stop cluster.launcher.launcher node.handle = reply)
      (refusal : reply.result = .error error) :
      Attempt launchers cluster members stream (.down index) false
        [.stop node.handle (.error error)]
        (cluster.answered reply.launcher [.stop node.handle (.error error)]) members
  /-- A node is stopped, and its address is no member any more. -/
  | stopped {index : Nat} {node : RunningNode η} {reply : LauncherReply σ Unit}
      (found : cluster.servers[index]? = some node)
      (placed : members[index]? = some node.spec.address)
      (asked : launchers.stop cluster.launcher.launcher node.handle = reply)
      (granted : reply.result = .ok ()) :
      Attempt launchers cluster members stream (.down index) true [.stop node.handle (.ok ())]
        { cluster.answered reply.launcher [.stop node.handle (.ok ())] with
          servers := cluster.servers.eraseIdx index }
        (members.eraseIdx index)

variable (launchers : Launcher σ η) (cluster : Cluster (Journaled σ η) η) (registry : Registry)

/-- An attempt to start a node comes to one of these. -/
theorem attempt_scaleUpByOne :
    let outcome := (scaleUpByOne launchers.journaling cluster registry).value
    ∃ told, Attempt launchers cluster registry.members (.replicating registry.nextId) .up
      outcome.1.toBool told outcome.2.1 outcome.2.2.members := by
  have growth := scaleUpByOne_growth launchers.journaling cluster registry
  generalize scaleUpByOne launchers.journaling cluster registry = outcome at growth
  -- The reply with a journal is the one without, whose call is written down.
  generalize asked' : launchers.launch cluster.launcher.launcher cluster.nextSpec
    (.replicating registry.nextId) = reply'
  have noted : launchReply launchers.journaling cluster registry
      (.startingAt cluster.allocator.next) =
        reply'.noted cluster.launcher.journal (.launch cluster.nextSpec
          (.replicating registry.nextId)) := by
    rw [← asked']
    rfl
  obtain ⟨result, launcher, released⟩ := reply'
  -- The outcome of the code is the outcome with the journal, case by case.
  cases growth with
  | full none =>
    -- Where a block fits the peek does not fail.
    refine ⟨_, .full (Nat.lt_of_not_le fun fits => ?_)⟩
    cases (PortAllocator.peek_of_fits fits).symm.trans none
  | refused block asked refusal errorFree =>
    obtain ⟨fits, rfl⟩ := PortAllocator.startingAt_of_peek block
    obtain rfl := noted.symm.trans asked
    obtain rfl : result = _ := refusal
    show ∃ told, Attempt _ _ _ _ _ false told _ (registry.handOut released).members
    rw [Registry.members_handOut]
    exact ⟨_, .refused fits asked' rfl⟩
  | @drifted ports reply handle log undone block asked started misplaced abandoned errorFree =>
    obtain ⟨fits, rfl⟩ := PortAllocator.startingAt_of_peek block
    obtain rfl := noted.symm.trans asked
    obtain rfl : result = _ := started
    rw [value_of_abandoned abandoned]
    show ∃ told, Attempt _ _ _ _ _ false told _ (leftBy cluster registry _ released _).members
    rw [members_leftBy]
    -- Two calls in a row are written down as one list.
    have twice := cluster.answered_answered launcher (launchers.stop launcher handle).launcher
      [.launch cluster.nextSpec (.replicating registry.nextId) (.ok handle)]
      [.stop handle (launchers.stop launcher handle).result]
    have abandoned : Attempt launchers cluster registry.members (.replicating registry.nextId)
        _ _ _ _ _ :=
      .abandoned fits asked' rfl misplaced rfl
    exact ⟨_, twice ▸ abandoned⟩
  | grown block asked started placed errorFree =>
    obtain ⟨fits, rfl⟩ := PortAllocator.startingAt_of_peek block
    obtain rfl := noted.symm.trans asked
    obtain rfl : result = _ := started
    exact ⟨_, .started fits asked' rfl placed⟩

/-- An attempt to stop a node comes to one of these. -/
theorem attempt_scaleDownByOne (index : Nat) :
    let outcome := (scaleDownByOne launchers.journaling cluster registry index).value
    ∃ told, Attempt launchers cluster registry.members (.replicating registry.nextId)
      (.down index) outcome.1.toBool told outcome.2.1 outcome.2.2.members := by
  have shrinking := scaleDownByOne_shrinking launchers.journaling cluster registry index
  generalize scaleDownByOne launchers.journaling cluster registry index = outcome at shrinking
  cases shrinking with
  -- Nobody stands at the position, so nobody could stand where the address is.
  | unknown absent => exact ⟨_, .absent fun node found => by cases absent.symm.trans found⟩
  | drifted found misplaced =>
    refine ⟨_, .absent fun node found' => ?_⟩
    obtain rfl := Option.some.inj (found.symm.trans found')
    exact misplaced
  | @refused node reply error log found placed asked refusal errorFree =>
    subst asked
    show ∃ told, Attempt _ _ _ _ _ false told _ (registry.cancelAll _).value.members
    rw [Registry.members_cancelAll]
    have kept : Attempt launchers cluster registry.members (.replicating registry.nextId)
        _ _ _ _ _ :=
      .kept found placed rfl refusal
    rw [← show _ = Except.error error from refusal] at kept
    exact ⟨_, kept⟩
  | @stopped node reply log found placed asked agreed errorFree =>
    subst asked
    have stopped : Attempt launchers cluster registry.members (.replicating registry.nextId)
        _ _ _ _ _ :=
      .stopped found placed rfl agreed
    rw [← show _ = Except.ok () from agreed] at stopped
    exact ⟨_, stopped⟩

namespace Attempt

variable {launchers cluster} {left : Cluster (Journaled σ η) η}
  {members members' : List PeerAddress} {stream : EndpointEvents} {call : ClusterCall}
  {granted : Bool} {told : List (LauncherCall η)}

/-- What the launcher is told is written behind its journal. -/
theorem journal_eq
    (attempt : Attempt launchers cluster members stream call granted told left members') :
    left.launcher.journal = cluster.launcher.journal ++ told := by
  -- What is written down is what the launcher was told, if it was told anything.
  cases attempt with
  | aside | full | absent => exact (List.append_nil _).symm
  | refused | abandoned | started | kept | stopped => rfl

/-- In an attempt a launcher does nothing but what it is told. -/
theorem carriedOut
    (attempt : Attempt launchers cluster members stream call granted told left members') :
    ∃ orders, left.launcher = List.foldl launchers.carryOut cluster.launcher orders := by
  -- The orders are those in the journal, and each is carried out from where the last one has left.
  cases attempt with
  | aside | full | absent => exact ⟨[], rfl⟩
  | refused fits asked refusal =>
    subst asked
    refine ⟨[.launch cluster.nextSpec stream], ?_⟩
    rw [← refusal]
    rfl
  | @abandoned reply reply' handle fits asked granted misplaced asked' =>
    subst asked asked'
    refine ⟨[.launch cluster.nextSpec stream, .stop handle], ?_⟩
    rw [← granted, ← List.singleton_append, ← answered_answered]
    rfl
  | started fits asked granted placed =>
    subst asked
    refine ⟨[.launch cluster.nextSpec stream], ?_⟩
    rw [← granted]
    rfl
  | @kept index node reply error found placed asked refusal =>
    subst asked
    refine ⟨[.stop node.handle], ?_⟩
    rw [← refusal]
    rfl
  | @stopped index node reply found placed asked granted =>
    subst asked
    refine ⟨[.stop node.handle], ?_⟩
    rw [← granted]
    rfl

end Attempt

end Cluster

namespace Deployment

open Machine Cluster

variable {launchers : Launcher σ η} {deployment : Deployment (Journaled σ η) η}

/-- A cluster goes on with the launcher that it has. -/
theorem launchers_next (deployment : Deployment σ η) (call : ClusterCall) :
    (next deployment call).launchers = deployment.launchers := by
  have keptByCalls : KeptByCalls deployment.launchers fun _ _ => True :=
    ⟨id, fun _ => id, fun _ _ => id⟩
  exact (keptByCalls.next rfl trivial call).1

/-- A request for one more node comes to an attempt. -/
theorem attempt_up (same : deployment.launchers = launchers.journaling) :
    ∃ told, Attempt launchers deployment.cluster deployment.registry.members
      (.replicating deployment.registry.nextId) .up (answerTo deployment .up).granted told
      (next deployment .up).cluster (next deployment .up).registry.members := by
  have attempt := attempt_scaleUpByOne launchers deployment.cluster deployment.registry
  unfold answerTo next
  rw [perform_up, same]
  generalize scaleUpByOne launchers.journaling deployment.cluster deployment.registry = outcome
    at attempt ⊢
  obtain ⟨⟨result, left, registry⟩, log⟩ := outcome
  -- Granted is told by the answer, which is the result of the attempt.
  cases result <;> exact attempt

/-- A request to stop a node comes to an attempt. -/
theorem attempt_down (same : deployment.launchers = launchers.journaling) (index : Nat) :
    ∃ told, Attempt launchers deployment.cluster deployment.registry.members
      (.replicating deployment.registry.nextId) (.down index)
      (answerTo deployment (.down index)).granted told
      (next deployment (.down index)).cluster
      (next deployment (.down index)).registry.members := by
  have attempt := attempt_scaleDownByOne launchers deployment.cluster deployment.registry index
  unfold answerTo next
  rw [perform_down, same]
  generalize scaleDownByOne launchers.journaling deployment.cluster deployment.registry index =
    outcome at attempt ⊢
  obtain ⟨⟨result, left, registry⟩, log⟩ := outcome
  cases result <;> exact attempt

/-- Nothing that is asked of the membership reaches the nodes or the launcher. -/
theorem cluster_of_membership (deployment : Deployment σ η) (asked : RegistryCall) :
    (next deployment (.membership asked)).cluster = deployment.cluster := by
  show (consult deployment asked).value.2.cluster = _
  unfold consult
  -- Either nobody is asked, or the registry alone is.
  split <;> rfl

/-- A call that makes one attempt at most and bypasses no cluster comes to an attempt. -/
theorem attempt_of_single (same : deployment.launchers = launchers.journaling)
    {call : ClusterCall} (single : call.single = true) (own : call.bypassesCluster = false) :
    ∃ told, Attempt launchers deployment.cluster deployment.registry.members
      (.replicating deployment.registry.nextId) call (answerTo deployment call).granted told
      (next deployment call).cluster (next deployment call).registry.members := by
  -- Whatever makes several attempts is excluded, and so is whoever bypasses the cluster.
  cases call with
  | up => exact attempt_up same
  | down index => exact attempt_down same index
  | upMany | shutdown => cases single
  | membership asked =>
    -- The members stay as well, and the answer is not about a node.
    have members : (next deployment (.membership asked)).registry.members =
        deployment.registry.members := by
      show (consult deployment asked).value.2.registry.members = _
      unfold consult
      split
      · rfl
      · exact (deployment.registry.unchanged_perform own).1
    have refused : (answerTo deployment (.membership asked)).granted = false := by
      show (consult deployment asked).value.1.granted = false
      unfold consult
      split <;> rfl
    rw [cluster_of_membership, members, refused]
    exact ⟨[], .aside asked⟩

end Deployment

end PeerCluster
