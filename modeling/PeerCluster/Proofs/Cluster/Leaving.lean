import PeerCluster.Cluster.Recorder
import PeerCluster.Proofs.Cluster.Journal
import PeerCluster.Proofs.Cluster.Sending

/-! A node that is stopped leaves the membership with it, or nothing but streams can change. -/

namespace PeerCluster

open Machine Registry

variable {σ η : Type}

namespace Deployment

/--
A node that is stopped leaves the membership with it, or nothing changes.

Whatever has happened to the membership behind the back of the cluster, there are four cases, and
each of them excludes those before it. The launcher is asked to stop a node only in the last two,
and only the node at that position, and once. Whether it stops the node or fails, those streams end
of which the launcher lets go in that; all others are told of the leave, or of nothing if it fails.
Its journal tells what it was asked, and is kept unnoticed.
-/
theorem stopped_node_leaves (launchers : Launcher σ η) (config : ClusterConfig) (launcher : σ)
    (calls : List ClusterCall) (index : Nat) :
    let begun : Deployment (Journaled σ η) η := start launchers.journaling config ⟨launcher, []⟩
    let before := after begun calls
    let answer := answerTo before (.down index)
    let final := next before (.down index)
    let servers := before.cluster.servers
    let members := before.registry.members
    let journal := before.cluster.launcher.journal
    let stop (node : RunningNode η) := launchers.stop before.cluster.launcher.launcher node.handle
    let asked (node : RunningNode η) : Journaled σ η :=
      ⟨(stop node).launcher, journal ++ [.stop node.handle (stop node).result]⟩
    ((∃ address, answer = .address address) ↔ ∃ node, servers[index]? = some node ∧
      members[index]? = some node.spec.address ∧ (stop node).result = .ok ()) ∧
    ((servers.length ≤ index ∧
        answer = .failed (.peerIndexOutOfRange index servers.length) ∧ final = before) ∨
      (∃ node, servers[index]? = some node ∧ members[index]? ≠ some node.spec.address ∧
        answer = .failed (.membershipDrift index node.spec.address.text) ∧ final = before) ∨
      (∃ node error, servers[index]? = some node ∧ members[index]? = some node.spec.address ∧
        (stop node).result = .error error ∧
        answer = .failed error ∧
        final.cluster = { before.cluster with launcher := asked node } ∧
        final.registry.members = members ∧
        Sent (stop node).released [] before.registry final.registry ∧
        (∀ id ∈ final.registry.subscribers,
          final.registry.awaiting id = before.registry.awaiting id) ∧
        ((stop node).released = [] → final.registry = before.registry)) ∨
      (∃ node, servers[index]? = some node ∧ members[index]? = some node.spec.address ∧
        (stop node).result = .ok () ∧
        answer = .address node.spec.address ∧
        final.cluster = { before.cluster with
          launcher := asked node
          servers := servers.eraseIdx index } ∧
        final.registry.members = members.eraseIdx index ∧
        Sent (stop node).released [.remove node.spec.address] before.registry final.registry ∧
        ∀ id ∈ final.registry.subscribers, final.registry.awaiting id =
          before.registry.awaiting id ++ [.remove node.spec.address])) := by
  intro begun before
  have same : before.launchers = launchers.journaling := launchers_after ..
  have live : before.registry.LiveAttached := liveAttached_after ..
  clear_value before
  obtain ⟨working, cluster, registry⟩ := before
  obtain rfl := same
  intro answer final servers members journal stop asked
  have shrinking := Cluster.scaleDownByOne_shrinking launchers.journaling cluster registry index
  have answered : answer = (conclude _ .address (Cluster.scaleDownByOne _ _ _ _)).value.1 := rfl
  have left : final = (conclude _ .address (Cluster.scaleDownByOne _ _ _ _)).value.2 := rfl
  clear_value answer final
  generalize Cluster.scaleDownByOne launchers.journaling cluster registry index = outcome
    at shrinking answered left
  subst answered left
  -- What an attempt to shrink comes to decides all of it; no two cases can hold at once.
  cases shrinking with
  | unknown absent =>
    refine ⟨⟨?_, ?_⟩, .inl ⟨List.getElem?_eq_none_iff.mp absent, rfl, rfl⟩⟩
    · rintro ⟨address, ⟨⟩⟩
    · rintro ⟨node, found, _⟩
      cases absent.symm.trans found
  | @drifted node found misplaced =>
    refine ⟨⟨?_, ?_⟩, .inr (.inl ⟨node, found, misplaced, rfl, rfl⟩)⟩
    · rintro ⟨address, ⟨⟩⟩
    · rintro ⟨other, found', placed, _⟩
      obtain rfl := Option.some.inj (found.symm.trans found')
      exact absurd placed misplaced
  | @refused node reply error log found placed told refusal errorFree =>
    obtain rfl := told
    refine ⟨⟨?_, ?_⟩,
      .inr (.inr (.inl ⟨node, error, found, placed, refusal, rfl, rfl, ?_, ?_, ?_, ?_⟩))⟩
    · rintro ⟨address, ⟨⟩⟩
    · rintro ⟨other, found', _, agreed⟩
      obtain rfl := Option.some.inj (found.symm.trans found')
      cases refusal.symm.trans agreed
    · exact members_cancelAll registry _
    · exact Sent.cancelAll live _
    · -- Whoever is still a subscriber was sent nothing.
      intro id attached
      exact ((Sent.cancelAll live _).awaiting live attached).trans (List.append_nil _)
    · -- Without a stream to end there is nothing left to be done.
      intro none
      show (registry.cancelAll (stop node).released).value = registry
      rw [none]
      rfl
  | @stopped node reply log found placed told agreed errorFree =>
    obtain rfl := told
    -- The streams end before the change is sent, and the change goes to all others.
    have sent : Sent (stop node).released [.remove node.spec.address] registry _ :=
      Sent.cancelAll_announce live _ (members.eraseIdx index) _
    refine ⟨⟨fun _ => ⟨node, found, placed, agreed⟩, fun _ => ⟨_, rfl⟩⟩,
      .inr (.inr (.inr ⟨node, found, placed, agreed, rfl, rfl, rfl, sent, ?_⟩))⟩
    intro id attached
    exact sent.awaiting live attached

/-- A launcher that lets go of the first stream of all whenever it fails to stop a node. -/
def dropsStreamOnStop : Launcher Unit Unit where
  launch _ _ _ := ⟨.ok (), (), []⟩
  stop _ _ := ⟨.error (.launcher "stop" "stuck"), (), [0]⟩
  state _ _ := .up

/--
A launcher may let go of streams in a stop, which then are told of nothing.

One that fails to stop a node takes a subscriber away all the same. A recorder that stops a node
ends its stream before the leave is announced, so that the node never sees itself leave.
-/
theorem launcher_drops_streams_in_stop :
    let failing := next (start dropsStreamOnStop .standard ()) .up
    let recorded := next (start Recorder.launcher .standard (.fresh false)) .up
    let stopped := next recorded (.down 0)
    (answerTo failing (.down 0) = .failed (.launcher "stop" "stuck") ∧
      failing.registry.subscribers = [0] ∧
      (next failing (.down 0)).registry.subscribers = []) ∧
    answerTo recorded (.down 0) = .address ⟨"localhost", 13000, 13001, 13002⟩ ∧
      recorded.registry.subscribers = [0] ∧ stopped.registry.subscribers = [] ∧
      (stopped.registry.drain 0 none).1 = ⟨[], .finished⟩ := by
  decide

end Deployment

end PeerCluster
