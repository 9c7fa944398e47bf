import PeerCluster.Cluster.Recorder
import PeerCluster.Proofs.Cluster.Orders
import PeerCluster.Proofs.Violations

/-! A cluster that finds its membership changed logs the drift that it answers. -/

namespace PeerCluster

variable {σ η α β : Type}

/-! ### Launchers -/

namespace Launcher

variable (launchers : Launcher σ η)

/-- A launcher after it was told to do something. -/
def follow (launcher : σ) : LauncherOrder η → σ
  | .launch spec stream => (launchers.launch launcher spec stream).launcher
  | .stop handle => (launchers.stop launcher handle).launcher

/-- Whatever a launcher is told to do, its failures are those of a collaborator. -/
def FailsAsCollaborator (launcher : σ) : Prop :=
  ∀ orders : List (LauncherOrder η),
    let launcher := orders.foldl launchers.follow launcher
    (∀ spec stream error, (launchers.launch launcher spec stream).result = .error error →
      error.category = .collaborator) ∧
    ∀ handle error, (launchers.stop launcher handle).result = .error error →
      error.category = .collaborator

/-- What a launcher keeps through all it is told, with failures that count as a collaborator's. -/
structure CollaboratorInvariant (Holds : σ → Prop) : Prop where
  follow : ∀ {launcher} order, Holds launcher → Holds (launchers.follow launcher order)
  launch : ∀ {launcher spec stream error}, Holds launcher →
    (launchers.launch launcher spec stream).result = .error error → error.category = .collaborator
  stop : ∀ {launcher handle error}, Holds launcher →
    (launchers.stop launcher handle).result = .error error → error.category = .collaborator

variable {launchers}

/-- A launcher that fails only as a collaborator goes on to do so. -/
theorem invariant_failsAsCollaborator : launchers.CollaboratorInvariant
    launchers.FailsAsCollaborator where
  -- What is told after the order is told after a longer list of orders.
  follow order collaborates orders := collaborates (order :: orders)
  launch collaborates failed := (collaborates []).1 _ _ _ failed
  stop collaborates failed := (collaborates []).2 _ _ failed

namespace CollaboratorInvariant

variable {Holds : σ → Prop} {launcher : σ}

/-- A launcher with such an invariant fails only as a collaborator. -/
theorem collaborates (invariant : launchers.CollaboratorInvariant Holds) (holds : Holds launcher) :
    launchers.FailsAsCollaborator launcher := by
  intro orders
  -- By induction on the orders, which keep the invariant until the failure is looked at.
  induction orders generalizing launcher with
  | nil => exact ⟨fun _ _ _ => invariant.launch holds, fun _ _ => invariant.stop holds⟩
  | cons order rest ih => exact ih (invariant.follow order holds)

/-- A launch that fails is no fault of a caller. -/
theorem notViolation_launch (invariant : launchers.CollaboratorInvariant Holds)
    (holds : Holds launcher) {spec : NodeSpec} {stream : EndpointEvents} {error : ClusterError}
    (failed : (launchers.launch launcher spec stream).result = .error error) :
    error.isInvariantViolation = false := by
  -- A failure of a collaborator is in a category of its own.
  simp [ClusterError.isInvariantViolation, invariant.launch holds failed]

/-- A stop that fails is no fault of a caller. -/
theorem notViolation_stop (invariant : launchers.CollaboratorInvariant Holds)
    (holds : Holds launcher) {handle : η} {error : ClusterError}
    (failed : (launchers.stop launcher handle).result = .error error) :
    error.isInvariantViolation = false := by
  simp [ClusterError.isInvariantViolation, invariant.stop holds failed]

end CollaboratorInvariant

end Launcher

namespace Recorder

/-- The failures that a recorder was told to answer by are failures of a launcher. -/
def Scripted (recorder : Recorder) : Prop :=
  ∀ result ∈ recorder.launchScript ++ recorder.stopScript, ∀ error, result = some error →
    error.category = .collaborator

/-- What is left of such scripts is such a script. -/
theorem invariant_scripted : launcher.CollaboratorInvariant Scripted := by
  -- What is left of a script was in it before.
  have fewer {before left : Recorder} (scripted : before.Scripted)
      (launches : left.launchScript ⊆ before.launchScript)
      (stops : left.stopScript ⊆ before.stopScript) : left.Scripted := by
    intro result member
    refine scripted result (List.mem_append.mpr ?_)
    exact (List.mem_append.mp member).imp (launches ·) (stops ·)
  refine ⟨fun {recorder} order scripted => ?_,
    fun {recorder spec stream error} scripted failed => ?_,
    fun {recorder handle error} scripted failed => ?_⟩
  · -- A launch takes one failure off its script, or none at all.
    cases order with
    | launch spec stream =>
      show (recorder.launch spec stream).launcher.Scripted
      unfold launch
      split
      · exact fewer scripted (fun _ => List.mem_of_mem_tail) fun _ => id
      · dsimp only
        split <;> exact fewer scripted (fun _ => List.mem_of_mem_tail) fun _ => id
    -- A stop leaves the launches that are scripted alone.
    | stop handle =>
      show (recorder.stop handle).launcher.Scripted
      unfold stop
      split <;> exact fewer scripted (fun _ => id) fun _ => List.mem_of_mem_tail
  · -- A launch fails only by an error of the script.
    change (recorder.launch spec stream).result = .error error at failed
    unfold launch at failed
    split at failed
    · rename_i cause _ script
      obtain rfl := Except.error.inj failed
      exact scripted (some cause) (by simp [script]) cause rfl
    · split at failed <;> cases failed
  · -- Nor does a stop fail otherwise.
    change (recorder.stop handle).result = .error error at failed
    unfold stop at failed
    split at failed
    · rename_i cause _ script
      obtain rfl := Except.error.inj failed
      exact scripted (some cause) (by simp [script]) cause rfl
    · cases failed

end Recorder

/-! ### Attempts -/

namespace Cluster

variable {launchers : Launcher σ η} {cluster : Cluster σ η} {registry : Registry}
  {Holds : σ → Prop}

/-- An invariant violation of the result is logged, and the launcher keeps its invariant. -/
structure ViolationLogged (Holds : σ → Prop)
    (outcome : Logged (Except ClusterError α × Cluster σ η × Registry)) : Prop where
  logsViolation : LogsViolation outcome.value.1 outcome.log
  holds : Holds outcome.value.2.1.launcher

/-- Who undoes a launch logs why before anything else. -/
theorem logsError_abandonLaunch (registered : Nat) (spec : NodeSpec) (handle : η) :
    LogsError (driftError cluster.size spec)
      (abandonLaunch launchers cluster registry registered spec handle).log :=
  -- The record of the drift is the first one, and has the code of the error.
  ⟨_, List.mem_cons_self, rfl, List.mem_cons_self⟩

/-- No node fails to start for a drift without saying so. -/
theorem violationLogged_scaleUpByOne (invariant : launchers.CollaboratorInvariant Holds)
    (holds : Holds cluster.launcher) :
    ViolationLogged Holds (scaleUpByOne launchers cluster registry) := by
  have growth := scaleUpByOne_growth launchers cluster registry
  generalize scaleUpByOne launchers cluster registry = outcome at growth
  cases growth with
  | full none =>
    -- A want of ports is an error of another category.
    refine ⟨.of_notViolation ?_, holds⟩
    unfold PortAllocator.peek at none
    split at none
    · cases none
    · obtain rfl := Except.error.inj none
      rfl
  -- The error is the launcher's, which belongs to no invariant of the cluster.
  | @refused ports reply error log block asked refusal errorFree =>
    subst asked
    exact ⟨.of_notViolation (invariant.notViolation_launch holds refusal),
      invariant.follow (.launch _ _) holds⟩
  | @drifted ports reply handle log undone block asked started misplaced abandoned errorFree =>
    subst asked
    refine ⟨.of_logsError ?_, ?_⟩
    · -- What was logged on the way stands before the record of the drift.
      rw [value_of_abandoned abandoned, ← abandoned]
      exact (logsError_abandonLaunch _ _ _).behind log
    · -- The launcher was told to start the node and to stop it again.
      rw [value_of_abandoned abandoned]
      exact invariant.follow (.stop handle) (invariant.follow (.launch _ _) holds)
  | grown block asked started placed errorFree =>
    subst asked
    exact ⟨.ok _, invariant.follow (.launch _ _) holds⟩

/-- No node fails to stop for a drift without saying so. -/
theorem violationLogged_scaleDownByOne (invariant : launchers.CollaboratorInvariant Holds)
    (holds : Holds cluster.launcher) (index : Nat) :
    ViolationLogged Holds (scaleDownByOne launchers cluster registry index) := by
  have shrinking := scaleDownByOne_shrinking launchers cluster registry index
  generalize scaleDownByOne launchers cluster registry index = outcome at shrinking
  cases shrinking with
  -- Nothing was asked of the launcher, and the record of the fault is all that is logged.
  | unknown | drifted => exact ⟨.of_logsError (.single rfl List.mem_cons_self), holds⟩
  | refused found placed asked refusal errorFree =>
    subst asked
    -- The error is the one that the launcher has answered.
    exact ⟨.of_notViolation (invariant.notViolation_stop holds refusal),
      invariant.follow (.stop _) holds⟩
  | stopped found placed asked agreed errorFree =>
    subst asked
    exact ⟨.ok _, invariant.follow (.stop _) holds⟩

/-- No node of several fails to start for a drift without saying so. -/
theorem violationLogged_scaleUp (invariant : launchers.CollaboratorInvariant Holds) (count : Nat)
    (holds : Holds cluster.launcher) :
    ViolationLogged Holds (scaleUp launchers count cluster registry) := by
  -- By induction on the number of nodes; the first failure is the answer of all.
  induction count generalizing cluster registry with
  | zero => exact ⟨.ok _, holds⟩
  | succ count ih =>
    have one : ViolationLogged Holds (scaleUpByOne launchers cluster registry) :=
      violationLogged_scaleUpByOne invariant holds
    rw [scaleUp, Logged.bind_eq]
    generalize scaleUpByOne launchers cluster registry = first at one
    obtain ⟨⟨result, cluster, registry⟩, log⟩ := first
    cases result with
    -- The failure is answered as it is, and nothing is logged after it.
    | error error => exact ⟨(one.logsViolation.map fun _ => []).before [], one.holds⟩
    | ok index =>
      have later : ViolationLogged Holds (scaleUp launchers count cluster registry) := ih one.holds
      -- An index more in the answer makes it no other error.
      exact ⟨(later.logsViolation.map _).behind log, later.holds⟩

/-- No node of several fails to stop for a drift without saying so. -/
theorem violationLogged_scaleDownLast (invariant : launchers.CollaboratorInvariant Holds)
    (count : Nat) (holds : Holds cluster.launcher) :
    ViolationLogged Holds (scaleDownLast launchers count cluster registry) := by
  -- By induction on the number of nodes, of which the last one is stopped first.
  induction count generalizing cluster registry with
  | zero => exact ⟨.ok _, holds⟩
  | succ count ih =>
    have one : ViolationLogged Holds (scaleDownByOne launchers cluster registry count) :=
      violationLogged_scaleDownByOne invariant holds count
    rw [scaleDownLast, Logged.bind_eq]
    generalize scaleDownByOne launchers cluster registry count = first at one
    obtain ⟨⟨result, cluster, registry⟩, log⟩ := first
    cases result with
    | error error => exact ⟨(one.logsViolation.map fun _ => ()).before [], one.holds⟩
    | ok address =>
      have later : ViolationLogged Holds (scaleDownLast launchers count cluster registry) :=
        ih one.holds
      exact ⟨later.logsViolation.behind log, later.holds⟩

end Cluster

/-! ### Runs -/

/-- The error that an answer tells of, if it does. -/
def ClusterAnswer.error? : ClusterAnswer → Option ClusterError
  | failed error | membership (.failed error) => some error
  | _ => none

namespace Deployment

open Machine Cluster

/-- The log of an exchange has each error that it answers and that no retry can mend. -/
def AnswerLogged (entry : Exchange ClusterCall ClusterAnswer) : Prop :=
  ∀ error, entry.answer.error? = some error → error.isInvariantViolation = true →
    LogsError error entry.log

variable {launchers : Launcher σ η} {deployment : Deployment σ η} {Holds : σ → Prop}

/-- An operation that logs its violations is answered so, and leaves the invariant. -/
theorem answerLogged_conclude {outcome : Logged (Except ClusterError α × Cluster σ η × Registry)}
    (violationLogged : ViolationLogged Holds outcome) {answer : α → ClusterAnswer}
    (succeeds : ∀ value, (answer value).error? = none) (call : ClusterCall) :
    let concluded := deployment.conclude answer outcome
    Holds concluded.value.2.cluster.launcher ∧ AnswerLogged
      ⟨call, concluded.value.1, concluded.log⟩ := by
  obtain ⟨⟨result, left, membership⟩, log⟩ := outcome
  refine ⟨violationLogged.holds, fun error failed => ?_⟩
  -- Whoever answers an error answers that of the operation.
  cases result with
  | error cause =>
    obtain rfl := Option.some.inj failed
    exact violationLogged.logsViolation cause rfl
  | ok value => cases (succeeds value).symm.trans failed

/-- Every call logs the violation that it answers, and the launcher keeps its invariant. -/
theorem step_answerLogged (invariant : deployment.launchers.CollaboratorInvariant Holds)
    (holds : Holds deployment.cluster.launcher) (call : ClusterCall) :
    (next deployment call).launchers = deployment.launchers ∧
      Holds (next deployment call).cluster.launcher ∧ AnswerLogged (exchange deployment call) := by
  obtain ⟨launchers, cluster, registry⟩ := deployment
  -- Each call of the cluster answers what its operation comes to.
  cases call with
  | up =>
    exact ⟨rfl, answerLogged_conclude (violationLogged_scaleUpByOne invariant holds)
      (fun _ => rfl) .up⟩
  | upMany count =>
    exact ⟨rfl, answerLogged_conclude (violationLogged_scaleUp invariant count holds) (fun _ => rfl)
      (.upMany count)⟩
  | down index =>
    exact ⟨rfl, answerLogged_conclude (violationLogged_scaleDownByOne invariant holds index)
      (fun _ => rfl)
      (.down index)⟩
  | shutdown =>
    exact ⟨rfl, answerLogged_conclude (violationLogged_scaleDownLast invariant _ holds)
      (fun _ => rfl) .shutdown⟩
  | membership call =>
    let asked : Deployment σ η := ⟨launchers, cluster, registry⟩
    show (asked.consult call).value.2.launchers = launchers ∧
      Holds (asked.consult call).value.2.cluster.launcher ∧
      AnswerLogged ⟨.membership call, (asked.consult call).value.1, (asked.consult call).log⟩
    unfold consult
    split
    · -- Nobody drops the handle of the cluster.
      exact ⟨rfl, holds, nofun⟩
    · refine ⟨rfl, holds, fun error failed => registry.logsViolation_perform call ?_⟩
      change (ClusterAnswer.membership (registry.perform call).value.1).error? =
        some error at failed
      -- Past the cluster the registry answers, and it logs its own violations.
      generalize (registry.perform call).value.1 = answer at failed
      cases answer with
      | failed cause => exact congrArg _ (Option.some.inj failed)
      | done | unreachable | added | removed | opened | polled => cases failed

/-- In every run of a cluster whose launcher fails only as a collaborator violations are logged. -/
theorem exchanges_logged {launcher : σ} (collaborates : launchers.FailsAsCollaborator launcher)
    (config : ClusterConfig) (calls : List ClusterCall) :
    ∀ entry ∈ exchanges (start launchers config launcher) calls, AnswerLogged entry := by
  -- The launcher stays the same, and what can be said of its state holds throughout.
  have kept : ∀ (deployment : Deployment σ η) (call : ClusterCall),
      deployment.launchers.FailsAsCollaborator deployment.cluster.launcher → True →
      (next deployment call).launchers.FailsAsCollaborator
        (next deployment call).cluster.launcher := by
    intro deployment call collaborates _
    obtain ⟨same, still, _⟩ := step_answerLogged Launcher.invariant_failsAsCollaborator
      collaborates call
    rwa [same]
  exact exchanges_of_kept kept
    (fun _ call collaborates _ =>
      (step_answerLogged Launcher.invariant_failsAsCollaborator collaborates call).2.2) collaborates
    fun _ _ => trivial

end Deployment

end PeerCluster
