import PeerCluster.Cluster.Recorder
import PeerCluster.Proofs.Cluster.Journal
import PeerCluster.Proofs.Cluster.Sending
import PeerCluster.Proofs.Ports

/-! A node that is started joins the membership and keeps its ports, or all of it is undone. -/

namespace PeerCluster

open Machine Registry

variable {σ η : Type}

/-- A launcher that fails to start a node lets go of the stream that it was given for it. -/
def Launcher.ReleasesFailed (launchers : Launcher σ η) : Prop :=
  ∀ launcher spec stream error, (launchers.launch launcher spec stream).result = .error error →
    stream.upstream ∈ (launchers.launch launcher spec stream).released

/-- A recorder keeps no stream of a node that it did not start. -/
theorem Recorder.releasesFailed_launcher : launcher.ReleasesFailed := by
  intro recorder spec stream error failed
  show stream.upstream ∈ (recorder.launch spec stream).released
  change (recorder.launch spec stream).result = .error error at failed
  unfold launch at failed ⊢
  -- Only a failure that was asked for is one, and it gives the stream back.
  split at failed
  · exact List.mem_singleton_self stream.upstream
  · split at failed <;> cases failed

namespace Deployment

/--
A node that is started joins the membership and keeps its ports, or all of it is undone.

Whatever has happened to the membership behind the back of the cluster, there are four cases, and
each of them excludes the others. The launcher is asked once to start a node unless there are no
ports for it. It is asked once to stop that node again when the membership had drifted, and whether
it does so makes no difference to anything but the streams of which it lets go. In each case those
streams end of which the launcher lets go, be they new or older ones, and all others are sent just
what is told. Its journal tells what it was asked, and is kept unnoticed.
-/
theorem started_node_joins (launchers : Launcher σ η) (releases : launchers.ReleasesFailed)
    (config : ClusterConfig) (launcher : σ) (calls : List ClusterCall) :
    let begun : Deployment (Journaled σ η) η := start launchers.journaling config ⟨launcher, []⟩
    let before := after begun calls
    let answer := answerTo before .up
    let final := next before .up
    let servers := before.cluster.servers
    let members := before.registry.members
    let ports := before.cluster.allocator
    let stream : EndpointEvents := .replicating before.registry.nextId
    let opened := before.registry.subscribe.value.2
    let awaited id := if id = stream.upstream then members.map .add else before.registry.awaiting id
    let spec := before.cluster.specFor (.startingAt ports.next)
    let launch := launchers.launch before.cluster.launcher.launcher spec stream
    let journal := before.cluster.launcher.journal ++ [.launch spec stream launch.result]
    (UInt16.size < ports.next + portsPerNode ∧
      answer = .failed (.portSpaceExhausted ports.next ports.layout.stride) ∧ final = before) ∨
    (ports.next + portsPerNode ≤ UInt16.size ∧
      ((∃ error, launch.result = .error error ∧
        answer = .failed error ∧
        final.cluster = { before.cluster with launcher := ⟨launch.launcher, journal⟩ } ∧
        final.registry.members = members ∧
        Sent launch.released [] before.registry final.registry ∧
        (∀ id ∈ final.registry.subscribers,
          final.registry.awaiting id = before.registry.awaiting id) ∧
        ((∀ id ∈ launch.released, id ∉ before.registry.subscribers) →
          final.registry.subscribers = before.registry.subscribers)) ∨
      (∃ handle, launch.result = .ok handle ∧ members.length = servers.length ∧
        answer = .index servers.length ∧
        final.cluster = { before.cluster with
          launcher := ⟨launch.launcher, journal⟩
          allocator := ports.commit
          servers := servers ++ [⟨spec, handle⟩] } ∧
        final.registry.members = members ++ [spec.address] ∧
        Sent launch.released [.add spec.address] opened final.registry ∧
        ∀ id ∈ final.registry.subscribers, final.registry.awaiting id =
          awaited id ++ [.add spec.address]) ∨
      (∃ handle, launch.result = .ok handle ∧ members.length ≠ servers.length ∧
        let stop := launchers.stop launch.launcher handle
        answer = .failed (.membershipDrift servers.length spec.address.text) ∧
        final.cluster = { before.cluster with
          launcher := ⟨stop.launcher, journal ++ [.stop handle stop.result]⟩ } ∧
        final.registry.members = members ∧
        Sent (launch.released ++ stop.released) [.add spec.address, .remove spec.address] opened
          final.registry ∧
        ∀ id ∈ final.registry.subscribers, final.registry.awaiting id =
          awaited id ++ [.add spec.address, .remove spec.address]))) := by
  intro begun before
  have same : before.launchers = launchers.journaling := launchers_after ..
  have live : before.registry.LiveAttached := liveAttached_after ..
  clear_value before
  obtain ⟨working, cluster, registry⟩ := before
  obtain rfl := same
  intro answer final servers members ports stream opened awaited spec launch journal
  have growth := Cluster.scaleUpByOne_growth launchers.journaling cluster registry
  have answered : answer = (conclude _ .index (Cluster.scaleUpByOne _ _ _)).value.1 := rfl
  have left : final = (conclude _ .index (Cluster.scaleUpByOne _ _ _)).value.2 := rfl
  clear_value answer final
  generalize Cluster.scaleUpByOne launchers.journaling cluster registry = outcome
    at growth answered left
  subst answered left
  -- The node's own stream starts at the members before it, and all others go on.
  have queued (id : Nat) : opened.awaiting id = awaited id := registry.awaiting_subscribe id
  by_cases fits : ports.next + portsPerNode ≤ UInt16.size
  · -- There are ports, so the launcher is asked, and its reply and the members decide.
    have offered := PortAllocator.peek_of_fits fits
    refine .inr ⟨fits, ?_⟩
    cases growth with
    | full none => cases offered.symm.trans none
    | @refused block' reply error log block asked refusal errorFree =>
      obtain rfl := Except.ok.inj (offered.symm.trans block)
      obtain rfl := asked
      have sent := Sent.handOut live (releases _ _ _ _ refusal)
      refine .inl ⟨error, refusal, rfl, rfl, registry.members_handOut _, sent, ?_, ?_⟩
      · -- Whoever is still a subscriber was sent nothing.
        intro id attached
        exact (sent.awaiting live attached).trans (List.append_nil _)
      · -- Whoever was a subscriber is still one.
        intro others
        refine sent.subscribers.trans (List.filter_eq_self.mpr fun id member => ?_)
        exact decide_eq_true fun released => others id released member
    | @drifted block' reply handle log undone block asked started misplaced abandoned errorFree =>
      obtain rfl := Except.ok.inj (offered.symm.trans block)
      obtain rfl := asked
      let stop := launchers.stop launch.launcher handle
      have sent : Sent (launch.released ++ stop.released) [.add spec.address, .remove spec.address]
          opened (cluster.leftBy registry (.startingAt ports.next) launch.released stop.released) :=
        Cluster.sent_leftBy live _ _ _
      obtain ⟨left, more⟩ := undone
      obtain rfl : left = _ := Cluster.value_of_abandoned abandoned
      refine .inr (.inr ⟨handle, started, misplaced, rfl, rfl, ?_, sent, ?_⟩)
      · exact Cluster.members_leftBy _ _ _
      · intro id attached
        rw [← queued]
        exact sent.awaiting live.subscribe attached
    | @grown block' reply handle log block asked started placed errorFree =>
      obtain rfl := Except.ok.inj (offered.symm.trans block)
      obtain rfl := asked
      have sent : Sent launch.released [.add spec.address] opened _ :=
        Cluster.sent_joinedBy live (.startingAt ports.next) launch.released
      refine .inr (.inl ⟨handle, started, placed, rfl, rfl, rfl, sent, ?_⟩)
      intro id attached
      rw [← queued]
      exact sent.awaiting live.subscribe attached
  · -- Without ports nobody is asked anything.
    have full := PortAllocator.peek_of_full (Nat.lt_of_not_le fits)
    cases growth with
    | full none =>
      obtain rfl := Except.error.inj (full.symm.trans none)
      exact .inl ⟨Nat.lt_of_not_le fits, rfl, rfl⟩
    | refused block | drifted block | grown block => cases full.symm.trans block

/-- A node starts, somebody takes it out of the membership, and the next one is not kept. -/
theorem started_node_joins_of_two_calls :
    let begun : Deployment (Journaled Recorder Nat) Nat :=
      start Recorder.launcher.journaling .standard ⟨.fresh false, []⟩
    let before := after begun [.up, .membership (.remove 0)]
    let final := next before .up
    Recorder.launcher.ReleasesFailed ∧ before.cluster.size = 1 ∧ before.registry.members = [] ∧
      answerTo before .up = .failed (.membershipDrift 1
        "localhost[registration=13010, discovery=13011, replication=13012]") ∧
      final.registry.members = [] ∧ final.cluster.launcher.launcher.stopped = [1] := by
  refine ⟨Recorder.releasesFailed_launcher, by decide, by decide, ?_⟩
  rcases started_node_joins Recorder.launcher Recorder.releasesFailed_launcher .standard
    (.fresh false)
    [.up, .membership (.remove 0)] with
    ⟨full, _⟩ | ⟨_, ⟨error, failed, _⟩ | ⟨handle, _, placed, _⟩ |
      ⟨handle, started, misplaced, answer, cluster, members, _⟩⟩
  · exact absurd full (by decide)
  · cases failed
  · exact absurd placed (by decide)
  · cases started
    have text : ((NodePorts.startingAt 13010).peerAddress "localhost").text =
        "localhost[registration=13010, discovery=13011, replication=13012]" := by decide
    refine ⟨text ▸ answer, members, ?_⟩
    rw [cluster]
    rfl

/-- A launcher that starts one node, and lets go of all streams when it fails to start another. -/
def startsOneNode : Launcher Bool Unit where
  launch started _ stream :=
    if started then ⟨.error (.launcher "launch" "no room"), true, [0, stream.upstream]⟩
    else ⟨.ok (), true, []⟩
  stop started _ := ⟨.ok (), started, []⟩
  state _ _ := .up

/--
Not all of a launch that comes to nothing is undone, if the launcher does not see to it.

One that lets go of the stream it was given may let go of others with it. One that fails to stop a
node for which the membership had drifted keeps that node's stream, which stays a subscriber.
-/
theorem launcher_keeps_and_drops_streams :
    let stuck := ClusterError.launcher "stop" "stuck"
    let failing := next (start startsOneNode .standard false) .up
    let begun := start Recorder.launcher .standard
      { Recorder.fresh false with stopScript := [some stuck] }
    let drifted := after begun [.up, .membership (.add (.sample 1))]
    startsOneNode.ReleasesFailed ∧
      (answerTo failing .up = .failed (.launcher "launch" "no room") ∧
        failing.registry.subscribers = [0] ∧ (next failing .up).registry.subscribers = []) ∧
      answerTo drifted .up = .failed (.membershipDrift 1
        "localhost[registration=13010, discovery=13011, replication=13012]") ∧
      drifted.registry.subscribers = [0] ∧ (next drifted .up).registry.subscribers = [0, 1] := by
  refine ⟨?_, by decide⟩
  rintro started spec stream error failed
  cases started with
  | true => exact List.mem_cons_of_mem _ List.mem_cons_self
  | false => cases failed

end Deployment

end PeerCluster
