import Mathlib.Data.List.Perm.Basic
import PeerCluster.Proofs.Cluster.Retaining

/-! Every node that was ever started is either held or was stopped, and no node is stopped twice. -/

namespace PeerCluster

variable {σ η : Type}

/-! ### Accounts -/

/--
A journal accounts for the nodes that are held and for those that are gone.

Nodes come only by being started, only those that are held are ever told to stop, and they go only
once they have stopped.
-/
inductive Accounts :
    List (LauncherCall η) → List (RunningNode η) → List (RunningNode η) → Prop where
  | nothing : Accounts [] [] []
  /-- A node that is not started is none. -/
  | refused {journal : List (LauncherCall η)} {held gone : List (RunningNode η)}
      (accounts : Accounts journal held gone) (spec : NodeSpec) (stream : EndpointEvents)
      (error : ClusterError) : Accounts (journal ++ [.launch spec stream (.error error)]) held gone
  /-- A node that is started is held. -/
  | started {journal : List (LauncherCall η)} {held gone : List (RunningNode η)}
      (accounts : Accounts journal held gone) (spec : NodeSpec) (stream : EndpointEvents)
      (handle : η) :
      Accounts (journal ++ [.launch spec stream (.ok handle)]) (held ++ [⟨spec, handle⟩]) gone
  /-- A node that fails to stop is held as before. -/
  | kept {journal : List (LauncherCall η)} {held gone : List (RunningNode η)}
      (accounts : Accounts journal held gone) {index : Nat} {node : RunningNode η}
      (found : held[index]? = some node) (error : ClusterError) :
      Accounts (journal ++ [.stop node.handle (.error error)]) held gone
  /-- A node that stops is gone. -/
  | stopped {journal : List (LauncherCall η)} {held gone : List (RunningNode η)}
      (accounts : Accounts journal held gone) {index : Nat} {node : RunningNode η}
      (found : held[index]? = some node) :
      Accounts (journal ++ [.stop node.handle (.ok ())]) (held.eraseIdx index) (gone ++ [node])

namespace Accounts

variable {journal earlier later : List (LauncherCall η)} {held gone : List (RunningNode η)}

/-- The nodes that were started are those that are held and those that are gone, each once. -/
theorem startedIn_perm (accounts : Accounts journal held gone) :
    (startedIn journal).Perm (held ++ gone) := by
  -- The induction is on the accounts: one case for each kind of entry in the journal.
  induction accounts with
  | nothing => exact .nil
  | refused accounts spec stream error ih => simpa using ih
  | @started journal held gone accounts spec stream handle ih =>
    -- The newcomer comes last among those held, and so before those who are gone.
    let newest : RunningNode η := ⟨spec, handle⟩
    have behind : (held ++ gone ++ [newest]).Perm (held ++ [newest] ++ gone) := by
      rw [List.append_assoc, List.append_assoc]
      exact List.perm_append_comm.append_left held
    rw [startedIn_append, startedIn_launch_ok]
    exact (ih.append_right _).trans behind
  | kept accounts found error ih => simpa using ih
  | @stopped journal held gone accounts index node found ih =>
    obtain ⟨inside, rfl⟩ := List.getElem?_eq_some_iff.mp found
    -- Taking a node out at its place and putting it behind the others changes only the order.
    have taken : (held ++ gone).Perm (held[index] :: (held.eraseIdx index ++ gone)) :=
      (List.getElem_cons_eraseIdx_perm inside).symm.append_right gone
    have behind : (held[index] :: (held.eraseIdx index ++ gone)).Perm
        (held.eraseIdx index ++ (gone ++ [held[index]])) := by
      rw [← List.append_assoc]
      exact (List.perm_append_singleton _ _).symm
    rw [startedIn_append, startedIn_stop, List.append_nil]
    exact (ih.trans taken).trans behind

/-- The handles that were stopped are those of the nodes that are gone, in this order. -/
theorem stoppedIn_eq (accounts : Accounts journal held gone) :
    stoppedIn journal = gone.map (·.handle) := by
  -- Only a stop that succeeds adds a handle, and it adds that of the node that goes.
  induction accounts with
  | nothing => rfl
  | refused accounts spec stream error ih | started accounts spec stream handle ih
  | kept accounts found error ih | stopped accounts found ih => simp [ih]

/-- A call that stands in a longer journal is the last one, or it stands before the last one. -/
theorem split_concat {last call : LauncherCall η}
    (split : journal ++ [last] = earlier ++ call :: later) :
    (journal = earlier ∧ last = call) ∨ ∃ middle, journal = earlier ++ call :: middle := by
  -- Either nothing stands behind the call, or the last one of those that do is the last of all.
  rcases List.eq_nil_or_concat later with rfl | ⟨middle, other, rfl⟩
  · obtain ⟨same, here⟩ := List.append_inj' split rfl
    exact .inl ⟨same, List.singleton_inj.mp here⟩
  · refine .inr ⟨middle, ?_⟩
    rw [List.concat_eq_append, ← List.cons_append, ← List.append_assoc] at split
    exact (List.append_inj' split rfl).1

/-- Whoever is told to stop is held at this moment. -/
theorem held_of_stop (accounts : Accounts journal held gone) {handle : η}
    {result : Except ClusterError Unit}
    (split : journal = earlier ++ .stop handle result :: later) :
    ∃ held gone, Accounts earlier held gone ∧ handle ∈ held.map (·.handle) := by
  -- The stop is the last entry, or it stands before and the induction has it.
  induction accounts generalizing later with
  | nothing => simp at split
  | refused accounts spec stream error ih | started accounts spec stream handle ih =>
    obtain ⟨_, ⟨⟩⟩ | ⟨middle, before⟩ := split_concat split
    exact ih before
  | kept accounts found error ih | stopped accounts found ih =>
    obtain ⟨rfl, here⟩ | ⟨middle, before⟩ := split_concat split
    · -- A stop that is accounted for is one of a node that is held.
      cases here
      exact ⟨_, _, accounts, List.mem_map_of_mem (List.mem_of_getElem? found)⟩
    · exact ih before

end Accounts

/-! ### Attempts -/

namespace Cluster

variable {launchers : Launcher σ η} {cluster left : Cluster (Journaled σ η) η}
  {members members' : List PeerAddress} {stream : EndpointEvents} {call : ClusterCall}
  {granted : Bool} {told : List (LauncherCall η)} {gone : List (RunningNode η)}

/-- The accounts go on with every attempt, as long as nodes stand with members. -/
theorem Attempt.accounts
    (attempt : Attempt launchers cluster members stream call granted told left members')
    (size : members.length = cluster.size)
    (accounts : Accounts cluster.launcher.journal cluster.servers gone) :
    ∃ gone, Accounts left.launcher.journal left.servers gone := by
  -- An abandoned launch needs a drifted membership, which is excluded by the size.
  cases attempt with
  | aside | full | absent => exact ⟨gone, accounts⟩
  | refused => exact ⟨gone, accounts.refused _ _ _⟩
  | abandoned fits asked granted misplaced => exact absurd size misplaced
  | started => exact ⟨gone, accounts.started _ _ _⟩
  | kept found => exact ⟨gone, accounts.kept found _⟩
  | stopped found => exact ⟨_, accounts.stopped found⟩

/-- Whoever is started in an attempt gets the next block, as long as nodes stand with members. -/
theorem Attempt.allots
    (attempt : Attempt launchers cluster members stream call granted told left members')
    (size : members.length = cluster.size) : Allots cluster left (startedIn told) := by
  -- Only a launch takes a block, and an abandoned one is excluded again.
  cases attempt with
  | aside | full | absent | refused | kept | stopped => exact .none rfl rfl
  | abandoned fits asked granted misplaced => exact absurd size misplaced
  | started fits => exact .one fits rfl rfl

end Cluster

/-! ### Runs -/

namespace Deployment

open Machine Cluster

variable {launchers : Launcher σ η} {launcher : σ} {begun : Cluster (Journaled σ η) η}
  {deployment : Deployment (Journaled σ η) η}

/-- A cluster in step with its membership, whose nodes its launcher's journal accounts for. -/
structure Accounted (launchers : Launcher σ η) (launcher : σ) (begun : Cluster (Journaled σ η) η)
    (deployment : Deployment (Journaled σ η) η) : Prop where
  inStep : deployment.InStep launchers.journaling
  accounts : ∃ gone, Accounts deployment.cluster.launcher.journal deployment.cluster.servers gone
  allots : Allots begun deployment.cluster (startedIn deployment.cluster.launcher.journal)
  carriedOut : ∃ orders,
    deployment.cluster.launcher = List.foldl launchers.carryOut ⟨launcher, []⟩ orders

namespace Accounted

/-- A single attempt of the cluster's own keeps the accounts. -/
theorem next (accounted : deployment.Accounted launchers launcher begun) {call : ClusterCall}
    (single : call.single = true ∧ call.bypassesCluster = false) :
    (Machine.next deployment call).Accounted launchers launcher begun := by
  obtain ⟨inStep, ⟨gone, accounts⟩, allots, orders, carriedOut⟩ := accounted
  -- In step there are as many members as nodes, so no launch is abandoned.
  have size := inStep.aligned.size_eq.symm
  obtain ⟨told, attempt⟩ := attempt_of_single inStep.launchers_eq single.1 single.2
  refine ⟨(step_driftFree inStep single.2).1, attempt.accounts size accounts, ?_, ?_⟩
  · rw [attempt.journal_eq, startedIn_append]
    exact allots.trans (attempt.allots size)
  · obtain ⟨more, further⟩ := attempt.carriedOut
    exact ⟨orders ++ more, by rw [further, carriedOut, List.foldl_append]⟩

/-- A run of the cluster's own keeps the accounts from the start. -/
theorem run (launchers : Launcher σ η) (config : ClusterConfig) (launcher : σ)
    {calls : List ClusterCall} (own : ∀ call ∈ calls, call.bypassesCluster = false) :
    let begun : Deployment (Journaled σ η) η := start launchers.journaling config ⟨launcher, []⟩
    (after begun calls).Accounted launchers launcher begun.cluster := by
  intro begun
  have begins : begun.Accounted launchers launcher begun.cluster :=
    ⟨⟨rfl, rfl⟩, ⟨[], .nothing⟩, .none rfl rfl, [], rfl⟩
  exact after_of_singles_kept (fun _ _ accounted single => accounted.next single) begins own

/-- Nobody held has the handle of somebody gone, or that of another one held. -/
theorem nodup (accounted : deployment.Accounted launchers launcher begun)
    (fresh : launchers.Fresh launcher) :
    (deployment.cluster.servers.map (·.handle) ++
      stoppedIn deployment.cluster.launcher.journal).Nodup := by
  obtain ⟨_, ⟨gone, accounts⟩, _, orders, carriedOut⟩ := accounted
  have handles := accounts.startedIn_perm.map (·.handle)
  -- Those held and those stopped are those started, whose handles are all different.
  rw [accounts.stoppedIn_eq, ← List.map_append]
  exact handles.nodup_iff.mp (carriedOut ▸ fresh orders)

/-- No two nodes that were started have the same address. -/
theorem addresses_nodup (accounted : deployment.Accounted launchers launcher begun)
    (apart : portsPerNode ≤ begun.allocator.layout.stride.toNat) :
    ((startedIn deployment.cluster.launcher.journal).map (·.spec.address)).Nodup := by
  rw [List.Nodup, List.pairwise_map]
  refine (accounted.allots.pairwise_disjoint apart).imp fun {node other} disjoint same => ?_
  -- The same address has the same registration port, which is one of the node's.
  refine disjoint node.spec.address.registrationPort List.mem_cons_self ?_
  rw [same]
  exact List.mem_cons_self

end Accounted

/--
No node is lost, and none is stopped twice, as long as the cluster is not bypassed.

The handles of all nodes that were ever started are those of the nodes that are held and those that
were stopped, each once. The launcher is told to stop only whom it has started and not stopped yet.
A node that was stopped is no member any more, and every other one is held where its address stands
in the membership, also when it has just failed to stop.
-/
theorem no_node_lost_or_stopped_twice (launchers : Launcher σ η) {config : ClusterConfig}
    (valid : config.validate = .ok config) {launcher : σ} (fresh : launchers.Fresh launcher)
    {calls : List ClusterCall} (own : ∀ call ∈ calls, call.bypassesCluster = false) :
    let begun : Deployment (Journaled σ η) η := start launchers.journaling config ⟨launcher, []⟩
    let final := after begun calls
    let journal := final.cluster.launcher.journal
    let held := final.cluster.servers.map (·.handle)
    let stopped := stoppedIn journal
    ((startedIn journal).map (·.handle)).Perm (held ++ stopped) ∧ (held ++ stopped).Nodup ∧
    (∀ earlier later handle result, journal = earlier ++ .stop handle result :: later →
      handle ∈ (startedIn earlier).map (·.handle) ∧ handle ∉ stoppedIn earlier) ∧
    (∀ node ∈ startedIn journal,
      (node.handle ∈ stopped ∧ node.spec.address ∉ final.registry.members) ∨
      ∃ index : Nat, final.cluster.servers[index]? = some node ∧
        final.registry.members[index]? = some node.spec.address) ∧
    ∀ call, call.bypassesCluster = false → ∃ told,
      (next final call).cluster.launcher.journal = journal ++ told ∧
        ∀ handle error, .stop handle (.error error) ∈ told →
          final.Retains (next final call) handle := by
  intro begun final journal held stopped
  have accounted : final.Accounted launchers launcher begun.cluster :=
    .run launchers config launcher own
  have nodup : (held ++ stopped).Nodup := accounted.nodup fresh
  have addresses := accounted.addresses_nodup (config.apart_of_valid valid)
  obtain ⟨inStep, ⟨gone, accounts⟩, _, orders, carriedOut⟩ := accounted
  have perm : (startedIn journal).Perm (final.cluster.servers ++ gone) := accounts.startedIn_perm
  have ended : stopped = gone.map (·.handle) := accounts.stoppedIn_eq
  have handles : ((startedIn journal).map (·.handle)).Nodup := by
    have numbered := fresh orders
    rwa [← carriedOut] at numbered
  -- The journal accounts for everybody: who was started, who was stopped, and who is held.
  refine ⟨?_, nodup, ?_, ?_, ?_⟩
  · rw [ended, ← List.map_append]
    exact perm.map _
  · intro earlier later handle result split
    obtain ⟨held, gone, accounts, member⟩ := accounts.held_of_stop split
    -- Those started by then have handles of their own, so whoever is held is not among the stopped.
    have before : ((startedIn earlier).map (·.handle)).Nodup := by
      rw [split, startedIn_append, List.map_append] at handles
      exact (List.nodup_append.mp handles).1
    have started := accounts.startedIn_perm.map (·.handle)
    rw [List.map_append] at started
    rw [accounts.stoppedIn_eq]
    refine ⟨started.mem_iff.mpr (List.mem_append_left _ member), fun twice => ?_⟩
    exact (List.nodup_append.mp (started.nodup_iff.mp before)).2.2 _ member _ twice rfl
  · intro node member
    -- Whoever was started is still held, or is gone.
    rcases List.mem_append.mp (perm.mem_iff.mp member) with running | left
    · obtain ⟨index, inside, rfl⟩ := List.mem_iff_getElem.mp running
      have found := List.getElem?_eq_getElem inside
      exact .inr ⟨index, found, inStep.aligned.found found⟩
    · -- Its address is its own, so it is not that of anybody held, and those are the members.
      refine .inl ⟨ended ▸ List.mem_map_of_mem left, fun joined => ?_⟩
      rw [← inStep.aligned] at joined
      have apart := (perm.map (·.spec.address)).nodup_iff.mp addresses
      rw [List.map_append] at apart
      exact (List.nodup_append.mp apart).2.2 _ joined _ (List.mem_map_of_mem left) rfl
  · intro call own
    obtain ⟨told, written, fails⟩ := failed_stop inStep.launchers_eq call
    refine ⟨told, written, fun handle error failed => ?_⟩
    -- No membership of its own has drifted, so nobody is started in vain.
    exact (fails handle error failed).resolve_right fun dropsNode =>
      dropsNode.misplaced inStep.aligned.size_eq.symm

/-- Two nodes start, the first one stops only when told again, and another one starts. -/
theorem no_node_lost_or_stopped_twice_of_four_calls :
    let stuck := ClusterError.launcher "stop" "stuck"
    let recorder := { Recorder.fresh false with stopScript := [some stuck] }
    let begun : Deployment (Journaled Recorder Nat) Nat :=
      start Recorder.launcher.journaling .standard ⟨recorder, []⟩
    let calls := [.upMany 2, .down 0, .down 0, .up]
    let journal := (after begun calls).cluster.launcher.journal
    ClusterConfig.standard.validate = .ok .standard ∧ Recorder.launcher.Fresh recorder ∧
      (∀ call ∈ calls, call.bypassesCluster = false) ∧ stoppedIn journal = [0] ∧
      ((startedIn journal).map (·.handle)).Perm ([1, 2] ++ [0]) := by
  intro stuck recorder begun calls journal
  have fresh : Recorder.launcher.Fresh recorder := Recorder.fresh_launcher recorder
  exact ⟨by decide, fresh, by decide, by decide,
    (no_node_lost_or_stopped_twice Recorder.launcher (by decide) fresh (by decide)).1⟩

end Deployment

end PeerCluster
