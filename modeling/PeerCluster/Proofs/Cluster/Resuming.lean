import PeerCluster.Cluster.Recorder
import PeerCluster.Proofs.Cluster.Emptying

/-! The end of all nodes goes as far as it can, and what is left can be ended later. -/

namespace PeerCluster

open Machine Registry Cluster

variable {σ η : Type}

namespace Deployment

variable {launchers : Launcher σ η} {before : Deployment (Journaled σ η) η}

/-- A call for the end of all nodes stops them from the last one, and answers the error. -/
theorem shutdown_outcome (same : before.launchers = launchers.journaling)
    (live : before.registry.LiveAttached) :
    ∃ result, ShutdownOutcome launchers.journaling before.cluster before.registry
        (result, (next before .shutdown).cluster, (next before .shutdown).registry) ∧
      answerTo before .shutdown =
        match result with
        | .ok _ => .done
        | .error error => .failed error := by
  obtain ⟨working, cluster, registry⟩ := before
  -- The deployment speaks for the launcher with a journal, so the outcome is about that one.
  obtain rfl := same
  refine ⟨_, scaleDownLast_outcome live rfl, ?_⟩
  show (conclude _ (fun _ => .done)
    (scaleDownLast launchers.journaling cluster.size cluster registry)).value.1 = _
  generalize scaleDownLast launchers.journaling cluster.size cluster registry = outcome
  obtain ⟨⟨result, left, membership⟩, log⟩ := outcome
  -- What is answered is what the loop returned, whether it ended well or with an error.
  cases result <;> rfl

/-- What a launcher is told when all nodes are to end. -/
theorem exists_asked (same : before.launchers = launchers.journaling)
    (live : before.registry.LiveAttached) :
    ∃ asked, asked <+: before.cluster.servers.reverse ∧
      (next before .shutdown).cluster.launcher.journal =
        before.cluster.launcher.journal ++
          launchers.stopsNoted before.cluster.launcher.launcher asked := by
  -- Each outcome tells the launcher of a first part of the nodes, seen from the last one.
  obtain ⟨result, shutdownOutcome, _⟩ := shutdown_outcome same live
  obtain ⟨asked, first, launcher⟩ := shutdownOutcome.exists_asked
  exact ⟨asked, first, by rw [launcher, Launcher.stopped_journaling]⟩

end Deployment

end PeerCluster
