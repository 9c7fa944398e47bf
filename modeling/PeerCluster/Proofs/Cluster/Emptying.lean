import Mathlib.Data.List.Basic
import PeerCluster.Proofs.Cluster.Journal
import PeerCluster.Proofs.Cluster.Sending

/-! A cluster stops its nodes from the last one down, and takes up again where it had to end. -/

namespace PeerCluster

open Machine Registry

variable {σ η : Type}

/-! ### A launcher that stops nodes -/

namespace Launcher

variable (launchers : Launcher σ η)

/-- What a launcher answers when it is told to stop nodes, one after the other. -/
def stops : σ → List (RunningNode η) → List (LauncherReply σ Unit)
  | _, [] => []
  | launcher, node :: rest =>
    let reply := launchers.stop launcher node.handle
    reply :: stops reply.launcher rest

/-- The launcher after it was told to stop nodes, one after the other. -/
def stopped (launcher : σ) (nodes : List (RunningNode η)) : σ :=
  nodes.foldl (fun launcher node => (launchers.stop launcher node.handle).launcher) launcher

/-- What a journal tells of nodes that were to be stopped, one after the other. -/
def stopsNoted (launcher : σ) (nodes : List (RunningNode η)) : List (LauncherCall η) :=
  (nodes.zip (launchers.stops launcher nodes)).map fun (node, reply) =>
    .stop node.handle reply.result

/-- All of the nodes stop when they are told to. -/
def StopsAll (launcher : σ) (nodes : List (RunningNode η)) : Prop :=
  ∀ reply ∈ launchers.stops launcher nodes, reply.result = .ok ()

/-- The streams that are let go of when nodes are stopped, one after the other. -/
def stopsReleased (launcher : σ) (nodes : List (RunningNode η)) : List Nat :=
  (launchers.stops launcher nodes).flatMap (·.released)

variable {launchers} {launcher : σ} {nodes more : List (RunningNode η)}

/-- Where nobody is told to stop, nobody fails to. -/
theorem StopsAll.nil : launchers.StopsAll launcher [] :=
  fun _ told => absurd told List.not_mem_nil

/-- Nodes that are stopped later are stopped by the launcher that the earlier ones left. -/
theorem stops_append : launchers.stops launcher (nodes ++ more) =
    launchers.stops launcher nodes ++
      launchers.stops (launchers.stopped launcher nodes) more := by
  -- By induction on the first nodes, along which the launcher changes.
  induction nodes generalizing launcher with
  | nil => rfl
  | cons node rest ih => exact congrArg (_ :: ·) ih

variable (launchers) in
/-- A journal tells of each node that was to be stopped, and changes nothing else. -/
theorem stopped_journaling (state : Journaled σ η) (nodes : List (RunningNode η)) :
    launchers.journaling.stopped state nodes =
      ⟨launchers.stopped state.launcher nodes,
        state.journal ++ launchers.stopsNoted state.launcher nodes⟩ := by
  induction nodes generalizing state with
  | nil => simp [stopped, stopsNoted]
  | cons node rest ih =>
    -- The first node is written down first, and the others behind it.
    refine (ih (launchers.journaling.stop state node.handle).launcher).trans ?_
    simp [journaling, LauncherReply.noted, stopped, stopsNoted, stops]

/-- Nodes that all stop are written down as stopped. -/
theorem StopsAll.noted (agreed : launchers.StopsAll launcher nodes) :
    launchers.stopsNoted launcher nodes = nodes.map fun node => .stop node.handle (.ok ()) := by
  unfold stopsNoted
  -- By induction on the nodes, each of which agrees when its turn comes.
  induction nodes generalizing launcher with
  | nil => rfl
  | cons node rest ih =>
    obtain ⟨first, others⟩ := List.forall_mem_cons.mp agreed
    simp only [stops, List.zip_cons_cons, List.map_cons, first, ih others]

end Launcher

/-! ### Stopping from the end -/

namespace Cluster

section Outcomes

variable (launchers : Launcher σ η) (cluster : Cluster σ η) (registry : Registry)

/-- The nodes behind those that are kept have stopped, the last one first, and have left. -/
structure StoppedFromEnd (kept gone asked : List (RunningNode η)) (left : Cluster σ η)
    (membership : Registry) : Prop where
  servers : cluster.servers = kept ++ gone
  left_eq : left = { cluster with
    launcher := launchers.stopped cluster.launcher asked
    servers := kept }
  members : membership.members =
    registry.members.take kept.length ++ registry.members.drop cluster.size
  /-- Each of them was the member at its position. -/
  placed : ∀ position, kept.length ≤ position → ∀ node, cluster.servers[position]? = some node →
    registry.members[position]? = some node.spec.address
  agreed : launchers.StopsAll cluster.launcher gone.reverse
  /-- Everybody was told that they left, and only the launcher has ended streams. -/
  sent : Sent (launchers.stopsReleased cluster.launcher asked)
    (gone.reverse.map fun node => .remove node.spec.address) registry membership

/-- What the end of all nodes can come to. -/
inductive ShutdownOutcome : Except ClusterError Unit × Cluster σ η × Registry → Prop where
  /-- All nodes have stopped. -/
  | emptied {left : Cluster σ η} {membership : Registry}
      (fromEnd : StoppedFromEnd launchers cluster registry [] cluster.servers
        cluster.servers.reverse left membership) :
      ShutdownOutcome (.ok (), left, membership)
  /-- A node is not the member at its position, and is not asked to stop. -/
  | drifted {kept gone : List (RunningNode η)} {node : RunningNode η} {left : Cluster σ η}
      {membership : Registry}
      (fromEnd : StoppedFromEnd launchers cluster registry (kept ++ [node]) gone gone.reverse
        left membership)
      (misplaced : registry.members[kept.length]? ≠ some node.spec.address) :
      ShutdownOutcome (.error (driftError kept.length node.spec), left, membership)
  /-- A node is asked to stop and does not. -/
  | refused {kept gone : List (RunningNode η)} {node : RunningNode η} {left : Cluster σ η}
      {membership : Registry} {error : ClusterError}
      (fromEnd : StoppedFromEnd launchers cluster registry (kept ++ [node]) gone
        (gone.reverse ++ [node]) left membership)
      (placed : registry.members[kept.length]? = some node.spec.address)
      (refusal : (launchers.stop (launchers.stopped cluster.launcher gone.reverse)
        node.handle).result = .error error) :
      ShutdownOutcome (.error error, left, membership)

end Outcomes

section LastNode

variable (launchers : Launcher σ η) (cluster : Cluster σ η) (registry : Registry)
  (front : List (RunningNode η)) (last : RunningNode η)

/-- The cluster when the last of its nodes has stopped. -/
def withoutLast : Cluster σ η :=
  { cluster with
    launcher := (launchers.stop cluster.launcher last.handle).launcher
    servers := front }

/-- The membership when the last node has stopped and its address has left. -/
def membersWithoutLast : Registry :=
  let released := (launchers.stop cluster.launcher last.handle).released
  (registry.cancelAll released).value.announce (registry.members.eraseIdx front.length)
    (.remove last.spec.address)

end LastNode

variable {launchers : Launcher σ η} {cluster : Cluster σ η} {registry : Registry}
  {front kept gone asked : List (RunningNode η)} {last node : RunningNode η} {left : Cluster σ η}
  {membership : Registry}

namespace StoppedFromEnd

/-- Whoever stands before the last node stands where it did when that one has stopped. -/
theorem getElem?_members {position : Nat} (before : position < front.length) :
    (membersWithoutLast launchers cluster registry front last).members[position]? =
      registry.members[position]? :=
  List.getElem?_eraseIdx_of_lt before

/-- A node that is kept stands before the last one. -/
theorem length_lt (fromEnd : StoppedFromEnd launchers (withoutLast launchers cluster front last)
    registry (kept ++ [node]) gone asked left membership) :
    kept.length < front.length := by
  have servers : front = kept ++ [node] ++ gone := fromEnd.servers
  simp only [servers, List.length_append, List.length_cons]
  omega

/-- The others are stopped from where the stop of the last node has left everything. -/
theorem cons (live : registry.LiveAttached) (split : cluster.servers = front ++ [last])
    (placed : registry.members[front.length]? = some last.spec.address)
    (agreed : (launchers.stop cluster.launcher last.handle).result = .ok ())
    (fromEnd : StoppedFromEnd launchers (withoutLast launchers cluster front last)
      (membersWithoutLast launchers cluster registry front last) kept gone asked left membership) :
    StoppedFromEnd launchers cluster registry kept (gone ++ [last])
      (last :: asked) left membership := by
  obtain ⟨servers, left_eq, members, stood, others, sent⟩ := fromEnd
  -- What is left is told of the cluster without its last node, which has the others in front.
  change front = kept ++ gone at servers
  change membership.members = (registry.members.eraseIdx front.length).take kept.length ++
    (registry.members.eraseIdx front.length).drop front.length at members
  have inside : front.length < registry.members.length := (List.getElem?_eq_some_iff.mp placed).1
  have within : kept.length ≤ front.length := by simp [servers]
  refine ⟨by rw [split, servers, List.append_assoc], left_eq, ?_, ?_, ?_, ?_⟩
  · -- The member that went stood behind those who are kept, and before those past all nodes.
    have size : cluster.size = front.length + 1 := by simp [size, split]
    have cut : (registry.members.take front.length).length = front.length := by simp; omega
    rw [members, size, List.eraseIdx_eq_take_drop_succ, List.take_append_of_le_length (by omega),
      List.take_take, Nat.min_eq_left within, List.drop_append_of_le_length (by omega)]
    simp
  · -- The last node stood where it was found; all others stand as they do when it has gone.
    intro position behind node found
    rw [split] at found
    rcases Nat.lt_or_ge position front.length with before | after
    · rw [List.getElem?_append_left before] at found
      rw [← getElem?_members before]
      exact stood position behind node found
    · have bound := (List.getElem?_eq_some_iff.mp found).1
      rw [List.length_append, List.length_singleton] at bound
      obtain rfl : position = front.length := by omega
      obtain rfl : last = node := by simpa using found
      exact placed
  · -- The last node agrees first, and the others agree to what it has left.
    rw [List.reverse_concat']
    exact List.forall_mem_cons.mpr ⟨agreed, others⟩
  · -- The news of the last node comes first.
    rw [List.reverse_concat']
    exact (Sent.cancelAll_announce live _ _ _).trans sent

end StoppedFromEnd

/-- The end of all nodes goes on where the stop of the last one has left them. -/
theorem ShutdownOutcome.cons (live : registry.LiveAttached)
    (split : cluster.servers = front ++ [last])
    (placed : registry.members[front.length]? = some last.spec.address)
    (agreed : (launchers.stop cluster.launcher last.handle).result = .ok ())
    {outcome : Except ClusterError Unit × Cluster σ η × Registry}
    (rest : ShutdownOutcome launchers (withoutLast launchers cluster front last)
      (membersWithoutLast launchers cluster registry front last) outcome) :
    ShutdownOutcome launchers cluster registry outcome := by
  -- Each way of ending for the others is the same way of ending for all.
  cases rest with
  | emptied fromEnd =>
    have more := fromEnd.cons live split placed agreed
    refine .emptied ?_
    rw [split, List.reverse_concat']
    exact more
  | @drifted kept gone node left membership fromEnd misplaced =>
    have more := fromEnd.cons live split placed agreed
    -- The node out of place stands before the last one, so it was out of place from the start.
    rw [← List.reverse_concat'] at more
    rw [StoppedFromEnd.getElem?_members fromEnd.length_lt] at misplaced
    exact .drifted more misplaced
  | @refused kept gone node left membership error fromEnd stood refusal =>
    have more := fromEnd.cons live split placed agreed
    -- The last node was stopped first, so it stands in front of those the launcher was told of.
    rw [← List.cons_append, ← List.reverse_concat'] at more
    rw [StoppedFromEnd.getElem?_members fromEnd.length_lt] at stood
    refine .refused more stood ?_
    rw [List.reverse_concat']
    exact refusal

/-- Whoever stops all nodes stops them from the last one on. -/
theorem scaleDownLast_outcome (live : registry.LiveAttached) {count : Nat}
    (size : cluster.size = count) :
    ShutdownOutcome launchers cluster registry
      (scaleDownLast launchers count cluster registry).value := by
  -- After the last node has stopped, the others are stopped from the one before it on.
  induction count generalizing cluster registry with
  -- Without nodes there is nothing to do.
  | zero =>
    obtain ⟨config, launcher, allocator, servers⟩ := cluster
    obtain rfl : servers = [] := List.eq_nil_of_length_eq_zero size
    exact .emptied ⟨rfl, rfl, by simp [Cluster.size], by simp, .nil, .refl registry⟩
  | succ count ih =>
    obtain ⟨front, last, split⟩ : ∃ front last, cluster.servers = front ++ [last] := by
      rcases List.eq_nil_or_concat cluster.servers with none | ⟨front, last, split⟩
      · simp [Cluster.size, none] at size
      · exact ⟨front, last, by simpa using split⟩
    obtain rfl : count = front.length := by simpa [Cluster.size, split] using size.symm
    have here : cluster.servers[front.length]? = some last := by simp [split]
    -- Unless the last node stops, all nodes are kept, and nobody stands behind them.
    have all : cluster.servers = front ++ [last] ++ [] := by simp [split]
    -- Nobody has left yet, so cutting the members behind the last node loses nobody.
    have whole : registry.members =
        registry.members.take (front ++ [last]).length ++ registry.members.drop cluster.size := by
      rw [size, List.length_append, List.length_singleton, List.take_append_drop]
    have nobody : ∀ position, (front ++ [last]).length ≤ position → ∀ node,
        cluster.servers[position]? = some node →
        registry.members[position]? = some node.spec.address := by
      intro position behind node found
      rw [← split] at behind
      cases (List.getElem?_eq_none behind).symm.trans found
    have shrinking := scaleDownByOne_shrinking launchers cluster registry front.length
    rw [scaleDownLast, Logged.bind_eq]
    generalize scaleDownByOne launchers cluster registry front.length = first at shrinking
    cases shrinking with
    -- There is a node at the position, so it cannot be unknown.
    | unknown absent => cases absent.symm.trans here
    -- The node is out of place, so it is kept and the loop ends here.
    | drifted found misplaced =>
      obtain rfl := Option.some.inj (here.symm.trans found)
      refine .drifted ⟨all, ?_, whole, nobody, .nil, .refl registry⟩ misplaced
      rw [← split]
      rfl
    -- The launcher refuses, so the node is kept, though some streams may have ended.
    | refused found placed told refusal errorFree =>
      obtain rfl := Option.some.inj (here.symm.trans found)
      subst told
      refine .refused ⟨all, ?_, ?_, nobody, .nil, ?_⟩ placed refusal
      · rw [← split]
        rfl
      · rw [members_cancelAll]
        exact whole
      · simpa [Launcher.stopsReleased, Launcher.stops] using Sent.cancelAll live _
    -- The last node has stopped, and the loop goes on with those before it.
    | stopped found placed told agreed errorFree =>
      obtain rfl := Option.some.inj (here.symm.trans found)
      subst told
      have fewer : cluster.servers.eraseIdx front.length = front := by
        rw [split, List.eraseIdx_append_of_length_le (Nat.le_refl _)]
        simp
      rw [fewer]
      have still : (membersWithoutLast launchers cluster registry front last).LiveAttached :=
        (live.cancelAll _).announce _ _
      have rest : ShutdownOutcome launchers (withoutLast launchers cluster front last)
          (membersWithoutLast launchers cluster registry front last) _ := ih still rfl
      exact rest.cons live split placed agreed

/-! ### The loop -/

namespace ShutdownOutcome

variable {result : Except ClusterError Unit}

/-- The nodes are told to stop from the last one down, and none of them twice. -/
theorem exists_asked (shutdownOutcome : ShutdownOutcome launchers cluster registry
    (result, left, membership)) :
    ∃ asked, asked <+: cluster.servers.reverse ∧
      left.launcher = launchers.stopped cluster.launcher asked := by
  cases shutdownOutcome with
  -- All nodes are told.
  | emptied fromEnd => exact ⟨_, List.prefix_refl _, congrArg Cluster.launcher fromEnd.left_eq⟩
  -- Only those behind the node out of place are told.
  | drifted fromEnd misplaced =>
    refine ⟨_, ?_, congrArg Cluster.launcher fromEnd.left_eq⟩
    rw [fromEnd.servers, List.reverse_append]
    exact List.prefix_append _ _
  -- Those behind the node are told, and the node itself.
  | refused fromEnd placed refusal =>
    refine ⟨_, ?_, congrArg Cluster.launcher fromEnd.left_eq⟩
    rw [fromEnd.servers, List.reverse_append, List.reverse_concat']
    exact (List.prefix_append_right_inj _).mpr ⟨_, rfl⟩

/-- All nodes stop if and only if each stands where it should and none fails to stop. -/
theorem ok_iff (shutdownOutcome : ShutdownOutcome launchers cluster registry
    (result, left, membership)) :
    result = .ok () ↔
      (∀ (position : Nat) (node : RunningNode η), cluster.servers[position]? = some node →
        registry.members[position]? = some node.spec.address) ∧
      launchers.StopsAll cluster.launcher cluster.servers.reverse := by
  cases shutdownOutcome with
  | emptied fromEnd =>
    -- Where all have stopped, both sides hold.
    exact iff_of_true rfl
      ⟨fun position => fromEnd.placed position (Nat.zero_le _), fromEnd.agreed⟩
  -- The node out of place contradicts the first condition.
  | @drifted kept gone node left membership fromEnd misplaced =>
    refine iff_of_false nofun fun ⟨placed, _⟩ => misplaced (placed kept.length node ?_)
    simp [fromEnd.servers]
  | @refused kept gone node left membership error fromEnd placed refusal =>
    -- The node that refuses is the next to be told after those that are gone.
    refine iff_of_false nofun fun ⟨_, agreed⟩ => ?_
    have told : launchers.stop (launchers.stopped cluster.launcher gone.reverse) node.handle ∈
        launchers.stops cluster.launcher cluster.servers.reverse := by
      rw [fromEnd.servers, List.reverse_append, List.reverse_concat', Launcher.stops_append]
      exact List.mem_append_right _ List.mem_cons_self
    cases refusal.symm.trans (agreed _ told)

end ShutdownOutcome

end Cluster

end PeerCluster
