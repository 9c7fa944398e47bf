import PeerCluster.Proofs.Cluster.Attempts
import PeerCluster.Proofs.Cluster.Calls

/-! A launcher can keep a journal of its calls, and the cluster that it works for never notices. -/

namespace PeerCluster

/-- What a launcher was told to do, with what came of it. -/
inductive LauncherCall (η : Type) where
  /-- A node was to be started that follows a stream. -/
  | launch (spec : NodeSpec) (stream : EndpointEvents) (result : Except ClusterError η)
  | stop (handle : η) (result : Except ClusterError Unit)

/-- The state of a launcher, and all calls that it ever got, the latest one last. -/
structure Journaled (σ η : Type) where
  launcher : σ
  journal : List (LauncherCall η)

section Journaling

variable {σ η α : Type}

/-- A reply whose call is written behind a journal. -/
def LauncherReply.noted (reply : LauncherReply σ α) (journal : List (LauncherCall η))
    (call : Except ClusterError α → LauncherCall η) : LauncherReply (Journaled σ η) α :=
  ⟨reply.result, ⟨reply.launcher, journal ++ [call reply.result]⟩, reply.released⟩

/-- The same launcher, which also writes down what it is told to do. -/
def Launcher.journaling (launchers : Launcher σ η) : Launcher (Journaled σ η) η where
  launch state spec stream :=
    (launchers.launch state.launcher spec stream).noted state.journal (.launch spec stream)
  stop state handle := (launchers.stop state.launcher handle).noted state.journal (.stop handle)
  state state handle := launchers.state state.launcher handle

end Journaling

namespace Cluster

variable {σ η α β : Type}

/-- The cluster without its launcher's journal. -/
def plain (cluster : Cluster (Journaled σ η) η) : Cluster σ η :=
  ⟨cluster.config, cluster.launcher.launcher, cluster.allocator, cluster.servers⟩

/-- A journal has no say in what a launcher is told about a node. -/
@[simp] theorem plain_specFor (cluster : Cluster (Journaled σ η) η) (ports : NodePorts) :
    cluster.plain.specFor ports = cluster.specFor ports := rfl

/-- What an operation left, without the journal that its launcher has kept. -/
def forget (outcome : Logged (α × Cluster (Journaled σ η) η × Registry)) :
    Logged (α × Cluster σ η × Registry) :=
  outcome.map fun (result, cluster, registry) => (result, cluster.plain, registry)

/-- What follows an operation can go on without the journal if it does nothing else with it. -/
theorem forget_bind {outcome : Logged (α × Cluster (Journaled σ η) η × Registry)}
    {next : α × Cluster (Journaled σ η) η × Registry →
      Logged (β × Cluster (Journaled σ η) η × Registry)}
    {next' : α × Cluster σ η × Registry → Logged (β × Cluster σ η × Registry)}
    (alike : ∀ result cluster registry,
      forget (next (result, cluster, registry)) = next' (result, cluster.plain, registry)) :
    forget (outcome >>= next) = forget outcome >>= next' := by
  -- The journal is forgotten after both steps or after the first, which is the same.
  obtain ⟨⟨result, cluster, registry⟩, log⟩ := outcome
  have rest := alike result cluster registry
  simp only [Logged.bind_eq, forget, Logged.map] at rest ⊢
  rw [← rest]

variable (launchers : Launcher σ η) (cluster : Cluster (Journaled σ η) η) (registry : Registry)

/-- A launch is undone alike with and without a journal. -/
theorem forget_abandonLaunch (registered : Nat) (spec : NodeSpec) (handle : η) :
    forget (abandonLaunch launchers.journaling cluster registry registered spec handle) =
      abandonLaunch launchers cluster.plain registry registered spec handle := by
  -- Both withdraw the same member, and get the same reply.
  have told : launchers.journaling.stop cluster.launcher handle =
      (launchers.stop cluster.plain.launcher handle).noted cluster.launcher.journal
        (.stop handle) := rfl
  unfold abandonLaunch
  simp only [Logged.bind_eq, told]
  generalize launchers.stop cluster.plain.launcher handle = reply
  obtain ⟨stopped, launcher, released⟩ := reply
  cases (registry.remove registered).value.1 <;> cases stopped <;> rfl

/-- A node starts alike with and without a journal. -/
theorem forget_scaleUpByOne :
    forget (scaleUpByOne launchers.journaling cluster registry) =
      scaleUpByOne launchers cluster.plain registry := by
  -- Both take the same branches, since they see the same ports, reply and position.
  have offered : cluster.plain.allocator = cluster.allocator := rfl
  unfold scaleUpByOne
  rw [offered]
  cases cluster.allocator.peek with
  | error error => rfl
  | ok ports =>
    have told : launchers.journaling.launch cluster.launcher (cluster.specFor ports)
        (.replicating registry.nextId) =
      (launchers.launch cluster.plain.launcher (cluster.plain.specFor ports)
        (.replicating registry.nextId)).noted cluster.launcher.journal
          (.launch (cluster.specFor ports) (.replicating registry.nextId)) := rfl
    simp only [Logged.bind_eq, Registry.replicationPeers_eq, told]
    generalize launchers.launch cluster.plain.launcher (cluster.plain.specFor ports)
      (.replicating registry.nextId) = reply
    obtain ⟨result, launcher, released⟩ := reply
    cases result with
    -- Nobody was started, so nothing is to be undone, and the replies are the same.
    | error error => rfl
    | ok handle =>
      simp only [LauncherReply.noted]
      have settings : cluster.plain.config = cluster.config := rfl
      have standing : cluster.plain.servers = cluster.servers := rfl
      by_cases placed : ((registry.subscribe.value.2.cancelAll released).value.add
          (cluster.specFor ports).address).value.1 = cluster.servers.length
      · -- The node stays, and both clusters have it behind the same nodes.
        simp only [ne_eq, size, plain_specFor, standing, placed, not_true_eq_false, if_false]
        rfl
      · -- The cluster in which the launch is undone has one call more in its journal.
        have undone := forget_abandonLaunch launchers
          ⟨cluster.config, ⟨launcher, cluster.launcher.journal ++ [.launch (cluster.specFor ports)
            (.replicating registry.nextId) (.ok handle)]⟩, cluster.allocator, cluster.servers⟩
        simp only [plain] at undone
        simp only [ne_eq, size, plain_specFor, settings, standing, placed, not_false_eq_true,
          if_true, ← undone]
        rfl

/-- Several nodes start alike with and without a journal. -/
theorem forget_scaleUp (count : Nat) :
    forget (scaleUp launchers.journaling count cluster registry) =
      scaleUp launchers count cluster.plain registry := by
  -- Once the first node has started alike, the others start from alike clusters.
  induction count generalizing cluster registry with
  | zero => rfl
  | succ count ih =>
    rw [scaleUp, scaleUp, ← forget_scaleUpByOne]
    refine forget_bind fun first cluster registry => ?_
    cases first with
    | error error => rfl
    | ok index =>
      simp only
      rw [← ih]
      rfl

/-- A node stops alike with and without a journal. -/
theorem forget_scaleDownByOne (index : Nat) :
    forget (scaleDownByOne launchers.journaling cluster registry index) =
      scaleDownByOne launchers cluster.plain registry index := by
  -- Which node is asked for is no part of what is forgotten.
  have standing : cluster.plain.servers = cluster.servers := rfl
  unfold scaleDownByOne
  rw [standing]
  cases cluster.servers[index]? with
  | none => rfl
  | some node =>
    -- The launcher is asked only when the node is the member at its position.
    by_cases placed : registry.members[index]? = some node.spec.address
    · have told : launchers.journaling.stop cluster.launcher node.handle =
          (launchers.stop cluster.plain.launcher node.handle).noted cluster.launcher.journal
            (.stop node.handle) := rfl
      simp only [ne_eq, placed, not_true_eq_false, if_false, Logged.bind_eq, told]
      generalize launchers.stop cluster.plain.launcher node.handle = reply
      obtain ⟨result, launcher, released⟩ := reply
      cases result with
      -- A refusal leaves both clusters with the same nodes.
      | error error => rfl
      | ok _ =>
        simp only [LauncherReply.noted]
        -- Whether the removal fails is up to the registry, which is the same.
        generalize (registry.cancelAll released).value.remove index = removed
        obtain ⟨⟨removed, registry⟩, log⟩ := removed
        cases removed <;> rfl
    · simp only [ne_eq, placed, not_false_eq_true, if_true]
      rfl

/-- Nodes stop one after the other alike with and without a journal. -/
theorem forget_scaleDownLast (count : Nat) :
    forget (scaleDownLast launchers.journaling count cluster registry) =
      scaleDownLast launchers count cluster.plain registry := by
  -- As for the start of several nodes, from one alike cluster to the next.
  induction count generalizing cluster registry with
  | zero => rfl
  | succ count ih =>
    rw [scaleDownLast, scaleDownLast, ← forget_scaleDownByOne]
    refine forget_bind fun first cluster registry => ?_
    cases first with
    | error error => rfl
    | ok _ => exact ih cluster registry

end Cluster

namespace Deployment

open Machine Cluster

variable {σ η α : Type}

/-- Nothing but the journal of its launcher tells one cluster at work from another. -/
structure Journals (noted : Deployment (Journaled σ η) η) (deployment : Deployment σ η) : Prop where
  launchers : noted.launchers = deployment.launchers.journaling
  cluster : noted.cluster.plain = deployment.cluster
  registry : noted.registry = deployment.registry

/-- An operation that a journal does not change is answered alike with and without one. -/
theorem conclude_journals {noted : Deployment (Journaled σ η) η} {deployment : Deployment σ η}
    (launchers : noted.launchers = deployment.launchers.journaling) (answer : α → ClusterAnswer)
    {outcome : Logged (Except ClusterError α × Cluster (Journaled σ η) η × Registry)}
    {outcome' : Logged (Except ClusterError α × Cluster σ η × Registry)}
    (same : forget outcome = outcome') (call : ClusterCall) :
    let concluded := noted.conclude answer outcome
    let concluded' := deployment.conclude answer outcome'
    (⟨call, concluded.value.1, concluded.log⟩ : Exchange ClusterCall ClusterAnswer) =
        ⟨call, concluded'.value.1, concluded'.log⟩ ∧
      concluded.value.2.Journals concluded'.value.2 := by
  -- What is answered is read off the result, which is not forgotten.
  subst same
  exact ⟨rfl, launchers, rfl, rfl⟩

/-- Every call is answered alike with and without a journal. -/
theorem step_journals (noted : Deployment (Journaled σ η) η) (deployment : Deployment σ η)
    (call : ClusterCall) (journals : noted.Journals deployment) :
    exchange noted call = exchange deployment call ∧
      (next noted call).Journals (next deployment call) := by
  obtain ⟨working, cluster, registry⟩ := noted
  obtain ⟨launchers, plain, shared⟩ := deployment
  obtain ⟨journaling, bare, same⟩ := journals
  simp only at journaling bare same
  -- One of the two deployments is given by the other, so there is one state to speak of.
  subst journaling bare same
  cases call with
  -- Each operation of the cluster is alike with and without the journal, by the lemmas above.
  | up => exact conclude_journals rfl .index (forget_scaleUpByOne launchers _ _) .up
  | upMany count =>
    exact conclude_journals rfl .indices (forget_scaleUp launchers _ _ count) (.upMany count)
  | down index =>
    exact conclude_journals rfl .address (forget_scaleDownByOne launchers _ _ index) (.down index)
  | shutdown =>
    exact conclude_journals rfl (fun _ => .done) (forget_scaleDownLast launchers _ _ _) .shutdown
  | membership call =>
    -- The launcher is not involved at all, so only the registry decides.
    let asked : Deployment (Journaled σ η) η := ⟨launchers.journaling, cluster, registry⟩
    let asked' : Deployment σ η := ⟨launchers, cluster.plain, registry⟩
    show (⟨_, (asked.consult call).value.1, (asked.consult call).log⟩ : Exchange _ _) =
        ⟨_, (asked'.consult call).value.1, (asked'.consult call).log⟩ ∧
      (asked.consult call).value.2.Journals (asked'.consult call).value.2
    unfold consult
    split <;> exact ⟨rfl, rfl, rfl, rfl⟩

/--
A journal is kept behind the back of everybody.

Whatever is asked, all answers and all records are those of the same launcher without a journal, and
so are the nodes, the ports, the membership and its streams after it.
-/
theorem journal_unnoticed (launchers : Launcher σ η) (config : ClusterConfig) (launcher : σ)
    (calls : List ClusterCall) :
    let noted : Deployment (Journaled σ η) η :=
      start launchers.journaling config ⟨launcher, []⟩
    let begun := start launchers config launcher
    exchanges noted calls = exchanges begun calls ∧
      (after noted calls).Journals (after begun calls) :=
  -- The start is alike with an empty journal, and each call keeps the two alike.
  exchanges_of_alike step_journals ⟨rfl, rfl, rfl⟩ calls

end Deployment

end PeerCluster
