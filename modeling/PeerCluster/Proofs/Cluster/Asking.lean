import PeerCluster.Proofs.Cluster.Sending
import PeerCluster.Proofs.Registry.Evolving

/-! What operations of a cluster ask of its membership, which serves them as it serves anybody. -/

namespace PeerCluster

open Machine

namespace Registry

variable {registry middle left : Registry}

/-- Calls that make these changes, take no item, and leave the registry as it is then. -/
structure Asked (registry : Registry) (calls : List RegistryCall) (events : List MemberEvent)
    (left : Registry) : Prop where
  reached : after registry calls = left
  changes : registry.changes calls = events
  given : ∀ id, registry.given id calls = []

namespace Asked

variable {calls more : List RegistryCall} {events others : List MemberEvent}

/-- Nothing is asked by doing nothing. -/
theorem refl (registry : Registry) : Asked registry [] [] registry :=
  ⟨rfl, rfl, fun _ => rfl⟩

/-- What is asked later makes its changes later. -/
theorem trans (first : Asked registry calls events middle)
    (second : Asked middle more others left) :
    Asked registry (calls ++ more) (events ++ others) left := by
  -- The second list of calls begins where the first one has ended.
  obtain ⟨rfl, changes, given⟩ := first
  refine ⟨(after_append ..).trans second.reached, ?_, fun id => ?_⟩
  · rw [changes_append, changes, second.changes]
  · rw [given_append, given, second.given, List.append_nil]

/-- To open a stream is no change. -/
theorem subscribe (lives : registry.lives = true) :
    Asked registry [.subscribe] [] registry.subscribe.value.2 :=
  ⟨congrArg (·.value.2) (perform_of_lives lives .subscribe), rfl, fun _ => rfl⟩

/-- To end streams is no change. -/
theorem cancels (registry : Registry) (ids : List Nat) :
    Asked registry (ids.map .cancel) [] (registry.cancelAll ids).value := by
  refine ⟨after_cancels registry ids, ?_, fun id => ?_⟩
  · -- One stream after the other, each from where the one before has left the registry.
    induction ids generalizing registry with
    | nil => rfl
    | cons id rest ih => exact ih _
  · induction ids generalizing registry with
    | nil => rfl
    | cons other rest ih => exact ih _

/-- To make somebody a member is a change. -/
theorem add (lives : registry.lives = true) (peer : PeerAddress) :
    Asked registry [.add peer] [.add peer]
      (registry.announce (registry.members ++ [peer]) (.add peer)) := by
  have served := perform_of_lives lives (.add peer)
  refine ⟨congrArg (·.value.2) served, ?_, fun _ => rfl⟩
  -- Someone who lives is served, and what is answered to an addition is its change.
  simp only [Registry.changes, exchanges, exchange, answerTo, served]
  rfl

/-- To take a member out is a change. -/
theorem remove (lives : registry.lives = true) {index : Nat} {peer : PeerAddress}
    (found : registry.members[index]? = some peer) :
    Asked registry [.remove index] [.remove peer]
      (registry.announce (registry.members.eraseIdx index) (.remove peer)) := by
  have served := perform_of_lives lives (.remove index)
  have removed := (remove_of_found found).1
  refine ⟨?_, ?_, fun _ => rfl⟩
  · -- A removal is served, and it removes whoever was found.
    show (Machine.perform registry _).value.2 = _
    rw [served]
    exact congrArg Prod.snd removed
  · simp only [Registry.changes, exchanges, exchange, answerTo, served, serve, Logged.value_map,
      removed]
    rfl

/-- To hand a stream out and to let go of others is no change. -/
theorem handOut (live : registry.LiveAttached) (released : List Nat) :
    Asked registry (.subscribe :: released.map .cancel) [] (registry.handOut released) :=
  (subscribe live.lives).trans (cancels _ released)

/-- To end streams and then to take a member out is one change. -/
theorem stopped (live : registry.LiveAttached) {index : Nat} {peer : PeerAddress}
    (found : registry.members[index]? = some peer) (released : List Nat) :
    Asked registry (released.map .cancel ++ [.remove index]) [.remove peer]
      ((registry.cancelAll released).value.announce (registry.members.eraseIdx index)
        (.remove peer)) := by
  have members := registry.members_cancelAll released
  -- Ending streams changes no member, so the same peer is found after it.
  have leaves := remove (live.cancelAll released).lives (members.symm ▸ found)
  rw [members] at leaves
  exact (cancels registry released).trans leaves

end Asked

end Registry

namespace Cluster

open Registry

variable {σ η : Type} {launchers : Launcher σ η} {cluster : Cluster σ η} {registry : Registry}

/-- A newcomer follows the membership from before it joins. -/
theorem asked_joinedBy (cluster : Cluster σ η) (live : registry.LiveAttached) (ports : NodePorts)
    (released : List Nat) :
    let address := (cluster.specFor ports).address
    Asked registry (.subscribe :: (released.map .cancel ++ [.add address])) [.add address]
      (joinedBy cluster registry ports released) := by
  intro address
  have handed := Asked.handOut live released
  have joins := Asked.add (live.subscribe.cancelAll released).lives address
  have members : (registry.handOut released).members = registry.members :=
    registry.members_handOut released
  unfold joinedBy
  -- The members to which the newcomer is added are those from before its stream was opened.
  rw [← members]
  exact handed.trans joins

/-- A newcomer that cannot stay joins and leaves, and only then do the streams of its node end. -/
theorem asked_leftBy (cluster : Cluster σ η) (live : registry.LiveAttached) (ports : NodePorts)
    (released stopped : List Nat) :
    let address := (cluster.specFor ports).address
    ∃ calls, Asked registry calls [.add address, .remove address]
      (leftBy cluster registry ports released stopped) := by
  intro address
  have joined := asked_joinedBy cluster live ports released
  -- The newcomer is the last member, so what is removed is what was added.
  obtain ⟨found, others⟩ := newest_joinedBy cluster registry ports released
  have leaves := Asked.remove (liveAttached_joinedBy live ports released).lives found
  rw [others] at leaves
  exact ⟨_, (joined.trans leaves).trans (.cancels _ stopped)⟩

/-- Whether or not a node starts, the membership is what it makes of some calls. -/
theorem evolves_scaleUpByOne (live : registry.LiveAttached) :
    registry.Evolves (scaleUpByOne launchers cluster registry).value.2.2 := by
  have growth := scaleUpByOne_growth launchers cluster registry
  -- Each outcome of an attempt is what some calls make of the membership.
  generalize scaleUpByOne launchers cluster registry = outcome at growth
  cases growth with
  | full => exact .refl registry
  | refused => exact ⟨_, (Asked.handOut live _).reached.symm⟩
  | @drifted ports reply handle log undone block asked started misplaced abandoned errorFree =>
    rw [value_of_abandoned abandoned]
    obtain ⟨calls, asked⟩ := asked_leftBy cluster live ports reply.released
      (launchers.stop reply.launcher handle).released
    exact ⟨calls, asked.reached.symm⟩
  | grown => exact ⟨_, (asked_joinedBy cluster live _ _).reached.symm⟩

/-- Whether or not a node stops, the membership is what it makes of some calls. -/
theorem evolves_scaleDownByOne (live : registry.LiveAttached) (index : Nat) :
    registry.Evolves (scaleDownByOne launchers cluster registry index).value.2.2 := by
  have shrinking := scaleDownByOne_shrinking launchers cluster registry index
  -- Each outcome is what some calls make of the membership, or nothing was asked.
  generalize scaleDownByOne launchers cluster registry index = outcome at shrinking
  cases shrinking with
  | unknown | drifted => exact .refl registry
  | refused => exact .cancelAll registry _
  | stopped found placed => exact ⟨_, (Asked.stopped live placed _).reached.symm⟩

end Cluster

namespace Deployment

open Registry

variable {σ η : Type}

/-- What a cluster and others who ask it make of a membership is what calls make of it. -/
theorem keptByCalls_evolves (launchers : Launcher σ η) (origin : Registry) :
    KeptByCalls launchers fun _ registry => registry.LiveAttached ∧ origin.Evolves registry := by
  have keptByCalls := keptByCalls_liveAttached launchers
  -- What a cluster asks starts from a registry that is alive and attached, and leaves such a one.
  refine ⟨fun holds => ?_, fun index holds => ?_, fun {cluster} _ call spared holds => ?_⟩
  · exact ⟨keptByCalls.grows holds.1, holds.2.trans (Cluster.evolves_scaleUpByOne holds.1)⟩
  · exact ⟨keptByCalls.shrinks index holds.1,
      holds.2.trans (Cluster.evolves_scaleDownByOne holds.1 index)⟩
  · have still := @KeptByCalls.asked _ _ launchers _ keptByCalls cluster _ call spared holds.1
    exact ⟨still, holds.2.trans ⟨[call], rfl⟩⟩

/-- The membership of a cluster has a history of calls, to which later ones are added. -/
theorem exists_history (launchers : Launcher σ η) (config : ClusterConfig) (launcher : σ)
    (earlier later : List ClusterCall) :
    let begun := start launchers config launcher
    ∃ past future, (after begun earlier).registry = after Registry.empty past ∧
      (after begun (earlier ++ later)).registry = after Registry.empty (past ++ future) := by
  intro begun
  have live : Registry.empty.LiveAttached := ⟨rfl, attached_empty⟩
  have starts : begun.registry.LiveAttached ∧ Registry.empty.Evolves begun.registry :=
    ⟨live, .refl _⟩
  -- The run is cut at the earlier moment, and both parts are histories of calls.
  obtain ⟨same, still, past, reached⟩ :=
    (keptByCalls_evolves launchers .empty).after rfl starts earlier
  obtain ⟨_, _, future, ends⟩ :=
    (keptByCalls_evolves launchers (after begun earlier).registry).after same ⟨still, .refl _⟩ later
  refine ⟨past, future, reached, ?_⟩
  rw [after_append, after_append, ← reached]
  exact ends

end Deployment

end PeerCluster
