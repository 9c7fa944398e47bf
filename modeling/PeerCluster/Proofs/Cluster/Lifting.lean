import PeerCluster.Proofs.Cluster.Calls
import PeerCluster.Proofs.Logged

/-! What every single attempt of a cluster keeps holds after any of its calls, and after runs. -/

namespace PeerCluster

open Machine Cluster

variable {σ η : Type} {launchers : Launcher σ η}

namespace Cluster

variable (Holds : Cluster σ η → Registry → Prop) {cluster : Cluster σ η} {registry : Registry}

/-- What one node that starts, or fails to, keeps is kept by several of them. -/
theorem scaleUp_kept
    (grows : ∀ {cluster registry}, Holds cluster registry →
      Holds (scaleUpByOne launchers cluster registry).value.2.1
        (scaleUpByOne launchers cluster registry).value.2.2)
    (count : Nat) (holds : Holds cluster registry) :
    Holds (scaleUp launchers count cluster registry).value.2.1
      (scaleUp launchers count cluster registry).value.2.2 := by
  -- Each attempt goes on from what the one before has left, unless that one failed.
  induction count generalizing cluster registry with
  | zero => exact holds
  | succ count ih =>
    have one := grows holds
    rw [scaleUp, Logged.bind_eq]
    generalize scaleUpByOne launchers cluster registry = first at one
    obtain ⟨⟨result, cluster, registry⟩, log⟩ := first
    cases result with
    -- After a failure nothing more is attempted.
    | error error => exact one
    | ok index => exact ih one

/-- What one node that stops, or fails to, keeps is kept by several of them. -/
theorem scaleDownLast_kept
    (shrinks : ∀ {cluster registry} index, Holds cluster registry →
      Holds (scaleDownByOne launchers cluster registry index).value.2.1
        (scaleDownByOne launchers cluster registry index).value.2.2)
    (count : Nat) (holds : Holds cluster registry) :
    Holds (scaleDownLast launchers count cluster registry).value.2.1
      (scaleDownLast launchers count cluster registry).value.2.2 := by
  induction count generalizing cluster registry with
  | zero => exact holds
  -- The last node is stopped first, and a failure ends the row.
  | succ count ih =>
    have one := shrinks count holds
    rw [scaleDownLast, Logged.bind_eq]
    generalize scaleDownByOne launchers cluster registry count = first at one
    obtain ⟨⟨result, cluster, registry⟩, log⟩ := first
    cases result with
    | error error => exact one
    | ok address => exact ih one

end Cluster

/-- What a cluster and its membership keep, whatever is asked of the one or of the other. -/
structure KeptByCalls (launchers : Launcher σ η) (Holds : Cluster σ η → Registry → Prop) :
    Prop where
  /-- An attempt to start one node keeps it. -/
  grows : ∀ {cluster registry}, Holds cluster registry →
    Holds (scaleUpByOne launchers cluster registry).value.2.1
      (scaleUpByOne launchers cluster registry).value.2.2
  /-- An attempt to stop one node keeps it. -/
  shrinks : ∀ {cluster registry} index, Holds cluster registry →
    Holds (scaleDownByOne launchers cluster registry index).value.2.1
      (scaleDownByOne launchers cluster registry index).value.2.2
  /-- A call past the cluster keeps it; the last handle is not given up. -/
  asked : ∀ {cluster} {registry : Registry} call, (call = .release → 1 < registry.handles) →
    Holds cluster registry → Holds cluster (next registry call)

namespace KeptByCalls

variable {Holds : Cluster σ η → Registry → Prop}

/-- Every call keeps it. -/
theorem next (keptByCalls : KeptByCalls launchers Holds) {deployment : Deployment σ η}
    (same : deployment.launchers = launchers)
    (holds : Holds deployment.cluster deployment.registry) (call : ClusterCall) :
    let left := Machine.next deployment call
    left.launchers = launchers ∧ Holds left.cluster left.registry := by
  obtain ⟨working, cluster, registry⟩ := deployment
  subst same
  -- Several nodes are started or stopped by single attempts, which keep it.
  cases call with
  | up => exact ⟨rfl, keptByCalls.grows holds⟩
  | upMany count => exact ⟨rfl, scaleUp_kept Holds keptByCalls.grows count holds⟩
  | down index => exact ⟨rfl, keptByCalls.shrinks index holds⟩
  | shutdown => exact ⟨rfl, scaleDownLast_kept Holds keptByCalls.shrinks _ holds⟩
  | membership call =>
    let asked : Deployment σ η := ⟨working, cluster, registry⟩
    show (asked.consult call).value.2.launchers = working ∧
      Holds (asked.consult call).value.2.cluster (asked.consult call).value.2.registry
    unfold Deployment.consult
    split
    · -- Nobody gives up the handle of the cluster.
      exact ⟨rfl, holds⟩
    · -- The call is let through, so it is not the release of the last handle.
      rename_i allowed
      refine ⟨rfl, keptByCalls.asked call ?_ holds⟩
      rintro rfl
      simpa [asked] using allowed

/-- Every run keeps it. -/
theorem after (keptByCalls : KeptByCalls launchers Holds) {deployment : Deployment σ η}
    (same : deployment.launchers = launchers)
    (holds : Holds deployment.cluster deployment.registry) (calls : List ClusterCall) :
    let left := Machine.after deployment calls
    left.launchers = launchers ∧ Holds left.cluster left.registry := by
  have kept : ∀ (deployment : Deployment σ η) (call : ClusterCall),
      deployment.launchers = launchers ∧ Holds deployment.cluster deployment.registry → True →
      (Machine.next deployment call).launchers = launchers ∧
        Holds (Machine.next deployment call).cluster (Machine.next deployment call).registry :=
    fun _ call before _ => keptByCalls.next before.1 before.2 call
  -- The launcher that is worked with is part of what is kept, since each step speaks about it.
  exact after_of_kept kept ⟨same, holds⟩ fun _ _ => trivial

end KeptByCalls

/-- A cluster works with the same launcher throughout. -/
theorem Deployment.launchers_after (launchers : Launcher σ η) (config : ClusterConfig)
    (launcher : σ) (calls : List ClusterCall) :
    (Machine.after (start launchers config launcher) calls).launchers = launchers := by
  -- A launcher stays the same even if nothing else is known of the run.
  have keptByCalls : KeptByCalls launchers fun _ _ => True := ⟨id, fun _ => id, fun _ _ => id⟩
  exact (keptByCalls.after rfl trivial calls).1

end PeerCluster
