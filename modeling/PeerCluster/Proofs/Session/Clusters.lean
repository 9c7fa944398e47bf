import PeerCluster.Proofs.Session.Services

/-! Commands about clusters lose nothing that their nodes hold, and so no command loses anything. -/

namespace PeerCluster

open SessionAction Registry

namespace SessionAction

variable {origin : Fabric} {name : String}

/-- Whoever knows a cluster may use it. -/
theorem keeps_withCluster {step : Cluster Recorder Nat → Nat → SessionAction Answer}
    (keeps : ∀ cluster home, KeepsWith origin name (.cluster cluster home) (step cluster home)) :
    Keeps origin (withCluster name step) := by
  refine keeps_named (keeps_pure _) fun object => ?_
  cases object with
  | cluster cluster home => exact keeps cluster home
  | registry | view | stream | projected | probe | balancer | feed | resolver | pick | picks =>
    exact (keeps_pure _).with

/-- A recorder that is told what to answer holds what it has held. -/
theorem keeps_onRecorder {change : Recorder → Recorder}
    (streams : ∀ recorder, (change recorder).streams = recorder.streams)
    (launched : ∀ recorder, (change recorder).launched = recorder.launched) :
    Keeps origin (onRecorder name change) := by
  refine keeps_withCluster fun cluster home => .bind (keepsWith_update rfl ?_ ?_)
    fun _ => keeps_pure _
  · -- The streams of the nodes are those of the recorder, which stay.
    intro stream member
    change stream ∈ (change cluster.launcher).held.map _
    rwa [Recorder.held, streams]
  · -- The handles of the nodes are told by the launches and the streams, which both stay.
    rintro ⟨distinct, known⟩
    refine ⟨?_, ?_⟩
    · rwa [streams]
    · rwa [streams, launched]

/-- What keeps account of the streams of the nodes of a cluster loses none of them. -/
theorem keeps_operate {α : Type}
    {operation : Cluster Recorder Nat → Registry →
      Logged (Except ClusterError α × Cluster Recorder Nat × Registry)}
    (subscribersHeld : ∀ {origin others cluster registry},
      SubscribersHeld Recorder.HandlesDistinct Recorder.held origin others cluster registry →
      SubscribersHeld Recorder.HandlesDistinct Recorder.held origin others
        (operation cluster registry).value.2.1 (operation cluster registry).value.2.2)
    (answer : α → Answer) : Keeps origin (operate name operation answer) := by
  refine keeps_withCluster fun cluster home => ?_
  -- Between the operation and the new entry of the cluster, the cluster stands for itself.
  have operates : Leads
      (fun session => session.Kept origin [] ∧
        session.slots.lookup name = some (.cluster cluster home))
      (onRegistry home fun registry =>
        (operation cluster registry).map fun outcome =>
          ((outcome.1, outcome.2.1), outcome.2.2))
      fun answer session => (session.slots.map Prod.fst).Nodup ∧ Owned origin session.fabric
        (.cluster answer.2 home :: (session.slots.filter (·.1 ≠ name)).map Prod.snd) := by
    -- The cluster is taken out of the entries, and what it and the others hold stays the same.
    rintro session ⟨kept, found⟩
    have owned := kept.owned.perm ((perm_of_lookup kept.names found).map Prod.snd)
    exact ⟨kept.names, owned.operate (subscribersHeld owned.subscribersHeld)⟩
  refine .bind operates fun answer => .bind (leads_replace name) fun _ => ?_
  -- The answer comes when the new entry stands.
  cases answer.1 with
  | ok value | error error => exact keeps_pure _

end SessionAction

variable {origin : Fabric}

/-- Commands about clusters keep what objects hold. -/
theorem ClusterCommand.keeps_run (command : ClusterCommand) : Keeps origin command.run := by
  -- The four operations keep account of the streams of nodes; the rest does not touch them.
  cases command with
  | create source dropsStreams name =>
    dsimp only [run]
    -- Settings are checked before anything is founded.
    cases source.config with
    | error error => exact keeps_pure _
    | ok config =>
      refine .bind (leads_found (.cluster (.ofConfig config (.fresh dropsStreams)))
        (fun _ => rfl) fun _ => Recorder.handlesDistinct_fresh dropsStreams) fun _ => ?_
      exact .bind (leads_put name) fun _ => keeps_pure _
  | scriptLaunches cluster results | scriptStops cluster results | setState cluster handle state =>
    dsimp only [run]
    exact keeps_onRecorder (fun _ => rfl) fun _ => rfl
  | up cluster => exact keeps_operate (SubscribersHeld.grows Recorder.tracksStreams) _
  | upMany cluster count =>
    exact keeps_operate
      (Cluster.scaleUp_kept _ (SubscribersHeld.grows Recorder.tracksStreams) count) _
  | down cluster index =>
    exact keeps_operate (fun subscribersHeld => subscribersHeld.shrinks
      Recorder.tracksStreams index) _
  | shutdown cluster =>
    exact keeps_operate (Cluster.scaleDownLast_kept _
      (fun index subscribersHeld => subscribersHeld.shrinks Recorder.tracksStreams index) _) _
  | report cluster | spec cluster handle =>
    exact keeps_withCluster fun _ _ => (keeps_pure _).with
  | inspect cluster =>
    exact keeps_withCluster fun found home => .bind .get fun _ => .pure fun _ seen => seen.1.1
  | drainNode cluster handle limit? =>
    refine keeps_withCluster fun found home => Keeps.with ?_
    -- The stream of a node stays with the node while it is drained.
    cases found.launcher.stream? handle with
    | none => exact keeps_pure _
    | some stream =>
      exact .bind (keeps_onFabric fun fabric => fabric.evolvesTo_drain home stream.upstream _)
        fun _ => keeps_pure _

/-- No command loses what anybody holds. -/
theorem Command.keeps_run (command : Command) : Keeps origin command.run := by
  -- Names are gone or changed by the commands, and a run of tasks changes the fabric only.
  cases command with
  | membership command => exact command.keeps_run
  | service command => exact command.keeps_run
  | cluster command => exact command.keeps_run
  | drop name => exact .bind (keeps_drop name) fun _ => keeps_pure _
  | runTasks => exact .bind (keeps_onFabric Fabric.evolvesTo_run) fun _ => keeps_pure _

namespace Session

instance : Machine Session Command Answer where
  perform := step

open Machine

/-- Nobody holds anything in the session without objects. -/
theorem kept_empty : empty.Kept .empty [] := by
  -- No registry is known, so there is no handle, no stream and no recorder.
  refine ⟨.nil, fun _ => .refl _, fun _ => attached_empty, nofun, nofun, nofun, nofun⟩

/-- No run loses what anybody holds. -/
theorem Kept.after {session : Session} (kept : session.Kept origin []) (commands : List Command) :
    (after session commands).Kept origin [] := by
  -- Every command keeps it, whatever was held before.
  have keeps : ∀ (session : Session) (command : Command), session.Kept origin [] → True →
      (next session command).Kept origin [] :=
    fun session command kept _ => command.keeps_run session kept
  exact after_of_kept keeps kept fun _ _ => trivial

/-- What objects hold at some moment does not depend on how the registries began. -/
theorem Kept.rebase {session : Session} (kept : session.Kept origin []) :
    session.Kept session.fabric [] :=
  ⟨kept.names, { kept.owned with evolves := fun _ => .refl _ }⟩

end Session

end PeerCluster
