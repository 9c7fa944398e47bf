import PeerCluster.Proofs.Cluster.Violations
import PeerCluster.Proofs.Fabric.Failures
import PeerCluster.Proofs.Session.Keeping

/-! Only a run of tasks makes resolvers fail, and launchers go on in the scripts that they have. -/

namespace PeerCluster

/-- The launcher of a cluster fails only as launchers do. -/
def Slot.Scripted : Slot → Prop
  | .cluster running _ => running.launcher.Scripted
  | _ => True

/-- A launcher is told to fail only as launchers do. -/
def Command.Scripted : Command → Prop
  | .cluster (.scriptLaunches _ results) | .cluster (.scriptStops _ results) =>
    ∀ result ∈ results, ∀ error, result = some error → error.category = .collaborator
  | _ => True

/-- No resolver has failed since, and all launchers fail only as launchers do. -/
structure Session.NoNewFailure (origin : Fabric) (session : Session) : Prop where
  noNewFailure : origin.NoNewFailure session.fabric
  scripted : ∀ entry ∈ session.slots, entry.2.Scripted

namespace SessionAction

variable {α : Type} {origin : Fabric} {name : String} {object : Slot}

/-- An action makes no resolver fail, and leaves all launchers in their scripts. -/
abbrev NoFailure (origin : Fabric) (action : SessionAction α) : Prop :=
  Leads (Session.NoNewFailure origin) action fun _ => Session.NoNewFailure origin

/-- An answer makes no resolver fail. -/
theorem noFailure_pure (answer : α) : NoFailure origin (pure answer) :=
  fun _ unfailed => unfailed

/-- A name stands for nothing, or for an object whose launcher is in its script. -/
theorem noFailure_named {rest : Option Slot → SessionAction α}
    (noFailure : ∀ found, (∀ object, found = some object → object.Scripted) →
      NoFailure origin (rest found)) :
    NoFailure origin (slot? name >>= rest) := by
  refine .bind (.slot? name) fun found session holds => ?_
  obtain ⟨unfailed, lookup⟩ := holds
  -- What is found is an entry of the session, so it is in its script like all the others.
  refine noFailure found (fun object same => ?_) session unfailed
  rw [same] at lookup
  obtain ⟨front, back, split, _⟩ := List.lookup_eq_some_iff.mp lookup
  exact unfailed.scripted (name, object) (by simp [split])

/-- Looking at a session makes no resolver fail. -/
theorem noFailure_get {rest : Session → SessionAction α}
    (noFailure : ∀ seen, NoFailure origin (rest seen)) :
    NoFailure origin (get >>= rest) :=
  .bind .get fun seen session holds => noFailure seen session holds.1

/-- What makes no resolver fail in a fabric makes none fail in a session. -/
theorem noFailure_onFabric {step : Fabric → Logged (α × Fabric)}
    (noNewFailure : ∀ fabric : Fabric, fabric.NoNewFailure (step fabric).value.2) :
    NoFailure origin (onFabric step) :=
  -- Failures since the origin are those up to the step and those in it, and there are none.
  fun session unfailed => ⟨unfailed.noNewFailure.trans (noNewFailure session.fabric),
    unfailed.scripted⟩

/-- What is asked of a registry makes no resolver fail. -/
theorem noFailure_onRegistry (home : Nat) (step : Registry → Logged (α × Registry)) :
    NoFailure origin (onRegistry home step) :=
  noFailure_onFabric fun fabric => fabric.noNewFailure_onRegistry home step

/-- What changes a fabric makes no resolver fail in a session if it makes none fail there. -/
theorem noFailure_modify {change : Fabric → Fabric}
    (noNewFailure : ∀ fabric : Fabric, fabric.NoNewFailure (change fabric)) :
    NoFailure origin (modify fun session => { session with fabric := change session.fabric }) :=
  fun session unfailed => ⟨unfailed.noNewFailure.trans (noNewFailure session.fabric),
    unfailed.scripted⟩

/-- To forget a name makes no resolver fail. -/
theorem noFailure_forget (name : String) : NoFailure origin (forget name) :=
  -- The entries that stay were there before.
  fun _ unfailed => ⟨unfailed.noNewFailure, fun entry member => unfailed.scripted entry
    (List.mem_filter.mp member).1⟩

/-- To put an object under a name makes no resolver fail. -/
theorem noFailure_update (name : String) (scripted : object.Scripted) :
    NoFailure origin (update name object) := by
  -- The new entry is in its script, and the others stay as they are.
  refine .bind (noFailure_forget name) fun _ session unfailed => ⟨unfailed.noNewFailure, ?_⟩
  exact List.forall_mem_cons.mpr ⟨scripted, unfailed.scripted⟩

/-- To drop an object makes no resolver fail. -/
theorem noFailure_dropObject (object : Slot) : NoFailure origin (dropObject object) :=
  noFailure_onFabric fun fabric => fabric.noNewFailure_dropSlot object

/-- To name an object makes no resolver fail, even if another one is dropped for it. -/
theorem noFailure_put (name : String) (scripted : object.Scripted) :
    NoFailure origin (put name object) := by
  -- Whoever had the name before is dropped after the new object has got it.
  refine noFailure_named fun before _ => .bind (noFailure_update name scripted) fun _ => ?_
  cases before with
  | none => exact noFailure_pure _
  | some before => exact noFailure_dropObject before

/-- To drop an object by its name makes no resolver fail. -/
theorem noFailure_drop (name : String) : NoFailure origin (drop name) := by
  -- Only a name that stands for something leads to a change.
  refine noFailure_named fun found _ => ?_
  cases found with
  | none => exact noFailure_pure _
  | some object =>
    exact .bind (noFailure_forget name) fun _ => .bind (noFailure_dropObject object) fun _ =>
      noFailure_pure _

/-! ### What a name stands for -/

/-- Whoever has a handle of a registry may use it. -/
theorem noFailure_withRegistry {step : Slot → Nat → SessionAction Answer}
    (noFailure : ∀ object home, NoFailure origin (step object home)) :
    NoFailure origin (withRegistry name step) := by
  -- A name without an object, or of one without a registry, changes nothing.
  refine noFailure_named fun found _ => ?_
  cases found with
  | none => exact noFailure_pure _
  | some object =>
    dsimp only
    cases object.registry? with
    | none => exact noFailure_pure _
    | some home => exact noFailure object home

/-- Whoever has a stream may use it. -/
theorem noFailure_withStream {step : Slot → Nat → Nat → SessionAction Answer}
    (noFailure : ∀ object home stream, NoFailure origin (step object home stream)) :
    NoFailure origin (withStream name step) := by
  refine noFailure_named fun found _ => ?_
  -- A name without an object, or of one without a stream, changes nothing.
  cases found with
  | none => exact noFailure_pure _
  | some object =>
    dsimp only
    cases object.subscription? with
    | none => exact noFailure_pure _
    | some place => exact noFailure object place.1 place.2

/-- Whoever knows a balancer may use it. -/
theorem noFailure_withBalancer {step : Nat → RoundRobin → SessionAction Answer}
    (noFailure : ∀ id balancer, NoFailure origin (step id balancer)) :
    NoFailure origin (withBalancer name step) := by
  -- Every other object is refused, and the session stays as it is.
  refine noFailure_named fun found _ => ?_
  cases found with
  | none => exact noFailure_pure _
  | some object =>
    cases object with
    | balancer id => exact noFailure_get fun _ => noFailure id _
    | registry | view | cluster | stream | projected | probe | feed | resolver | pick | picks =>
      exact noFailure_pure _

/-- Whoever knows a resolver may use it. -/
theorem noFailure_withResolver {step : Nat → Service → SessionAction Answer}
    (noFailure : ∀ id service, NoFailure origin (step id service)) :
    NoFailure origin (withResolver name step) := by
  refine noFailure_named fun found _ => ?_
  cases found with
  | none => exact noFailure_pure _
  | some object =>
    -- A resolver leads on if its service is there; every other object is refused.
    cases object with
    | resolver id =>
      refine noFailure_get fun seen => ?_
      cases seen.fabric.services[id]? with
      | none => exact noFailure_pure _
      | some service => exact noFailure id service
    | registry | view | cluster | stream | projected | probe | balancer | feed | pick | picks =>
      exact noFailure_pure _

/-- Whoever knows a cluster may use it, and its launcher is in its script. -/
theorem noFailure_withCluster {step : Cluster Recorder Nat → Nat → SessionAction Answer}
    (noFailure : ∀ cluster home, cluster.launcher.Scripted → NoFailure origin (step cluster home)) :
    NoFailure origin (withCluster name step) := by
  -- The launcher of a named cluster is in its script, as every object is.
  refine noFailure_named fun found scripted => ?_
  cases found with
  | none => exact noFailure_pure _
  | some object =>
    cases object with
    | cluster cluster home => exact noFailure cluster home (scripted _ rfl)
    | registry | view | stream | projected | probe | balancer | feed | resolver | pick | picks =>
      exact noFailure_pure _

end SessionAction

open SessionAction

variable {origin : Fabric}

/-! ### Commands -/

/-- To open a stream makes no resolver fail. -/
theorem SessionAction.noFailure_openStream (home : Nat) : NoFailure origin (openStream home) :=
  noFailure_onRegistry home _

/-- Looking at a stream makes no resolver fail. -/
theorem SessionAction.noFailure_subscription (home stream : Nat) :
    NoFailure origin (subscription home stream) :=
  fun _ unfailed => unfailed

/-- Commands about registries and streams make no resolver fail. -/
theorem MembershipCommand.noFailure_run (command : MembershipCommand) :
    NoFailure origin command.run := by
  -- Each command is a sequence of steps that change registries, names, or nothing.
  cases command with
  | create name =>
    -- A new registry stands behind the others, and has no service.
    have founds : NoFailure origin (onFabric fun fabric => .quiet fabric.addRegistry) :=
      noFailure_onFabric fun _ => .of_standings rfl
    exact .bind founds fun _ => .bind (noFailure_put name trivial) fun _ => noFailure_pure _
  | share registry name =>
    refine noFailure_withRegistry fun object home => .bind (noFailure_onRegistry home _) fun _ => ?_
    -- What a share leads to has no launcher of its own.
    refine .bind (noFailure_put name ?_) fun _ => noFailure_pure _
    cases object <;> exact trivial
  | view registry name =>
    refine noFailure_withRegistry fun object home => .bind (noFailure_onRegistry home _) fun _ => ?_
    exact .bind (noFailure_put name trivial) fun _ => noFailure_pure _
  | add registry peer =>
    refine noFailure_withRegistry fun object home => ?_
    -- A registry tells of its newcomer by the streams that it feeds, and resolvers wait for a run.
    have adds : NoFailure origin (do
        return Answer.number (← onRegistry home fun before => before.add peer)) :=
      .bind (noFailure_onRegistry home _) fun _ => noFailure_pure _
    cases object with
    | view id => exact noFailure_pure _
    | registry | cluster | stream | projected | probe | balancer | feed | resolver | pick
      | picks => exact adds
  | remove registry index =>
    refine noFailure_withRegistry fun object home => ?_
    cases object with
    | view id => exact noFailure_pure _
    | registry | cluster | stream | projected | probe | balancer | feed | resolver | pick
      | picks =>
      -- Whether the registry removes or refuses, only the registry has changed.
      refine .bind (noFailure_onRegistry home _) fun result => ?_
      cases result with
      | ok peer | error error => exact noFailure_pure _
  | snapshot registry | describe registry =>
    exact noFailure_withRegistry fun object home => noFailure_get fun _ => noFailure_pure _
  | subscribe registry name | project registry projection name =>
    refine noFailure_withRegistry fun object home => .bind (noFailure_openStream home) fun _ => ?_
    exact .bind (noFailure_put name trivial) fun _ => noFailure_pure _
  | next stream | drain stream limit? =>
    refine noFailure_withStream fun object home id =>
      .bind (noFailure_onRegistry home _) fun _ => ?_
    -- The answers of plain and projected streams differ, and both change nothing more.
    cases object <;> exact noFailure_pure _
  | cancel stream =>
    refine noFailure_withStream fun object home id =>
      .bind (noFailure_onRegistry home _) fun _ => ?_
    exact .bind (noFailure_subscription home id) fun _ => noFailure_pure _
  | inspect stream =>
    refine noFailure_withStream fun object home id =>
      .bind (noFailure_subscription home id) fun _ => ?_
    cases object <;> exact noFailure_pure _
  | probe stream name =>
    refine noFailure_withStream fun object home id => ?_
    exact .bind (noFailure_put name trivial) fun _ => noFailure_pure _
  | count counted =>
    refine noFailure_named fun found _ => ?_
    -- A count is read off a subscription, or the name does not stand for one.
    split
    · exact .bind (noFailure_subscription _ _) fun _ => noFailure_pure _
    · exact noFailure_pure _
  | unwrap stream name =>
    refine noFailure_named fun found _ => ?_
    -- A projected stream goes with its name, and its upstream gets another one.
    split
    · refine .bind (noFailure_forget stream) fun _ => .bind (noFailure_put name trivial) fun _ => ?_
      exact .bind (noFailure_subscription _ _) fun _ => noFailure_pure _
    · exact noFailure_pure _

/-- A balancer that has changed makes no resolver fail. -/
theorem SessionAction.noFailure_setBalancer (id : Nat) (balancer : RoundRobin) :
    NoFailure origin (setBalancer id balancer) :=
  noFailure_modify fun fabric => .of_standings (fabric.standings_setBalancer id balancer)

/-- To add a balancer makes no resolver fail. -/
theorem SessionAction.noFailure_addBalancer :
    NoFailure origin (onFabric fun fabric => .quiet fabric.addBalancer) :=
  noFailure_onFabric fun _ => .of_standings rfl

/-- To name a resolver makes none fail. -/
theorem SessionAction.noFailure_nameService (name role : String)
    (created : Except ClusterError Nat) : NoFailure origin (nameService name role created) := by
  -- A refused service gets no name.
  cases created with
  | error error => exact noFailure_pure _
  | ok service => exact .bind (noFailure_put name trivial) fun _ => noFailure_pure _

/-- Commands about balancers, feeds, resolvers and picks make no resolver fail. -/
theorem ServiceCommand.noFailure_run (command : ServiceCommand) : NoFailure origin command.run := by
  -- Services are created, polled and closed, but nothing of that makes a task work.
  cases command with
  | createBalancer name =>
    exact .bind noFailure_addBalancer fun _ => .bind (noFailure_put name trivial) fun _ =>
      noFailure_pure _
  | apply balancer event =>
    refine noFailure_withBalancer fun id before => ?_
    -- A balancer is asked by itself, outside of the fabric.
    have listens : NoFailure origin (liftM (before.onEvent event : Logged RoundRobin)) :=
      fun _ unfailed => unfailed
    exact .bind listens fun after => .bind (noFailure_setBalancer id after) fun _ =>
      noFailure_pure _
  | choose balancer times | shutdown balancer =>
    exact noFailure_withBalancer fun id _ => .bind (noFailure_setBalancer id _) fun _ =>
      noFailure_pure _
  | inspectBalancer balancer => exact noFailure_withBalancer fun _ _ => noFailure_pure _
  | createFeed queue name =>
    have adds : NoFailure origin (onFabric fun fabric => .quiet (fabric.addFeed queue)) :=
      noFailure_onFabric fun _ => .of_standings rfl
    exact .bind adds fun _ => .bind (noFailure_put name trivial) fun _ => noFailure_pure _
  | send feed kind target =>
    refine noFailure_named fun found _ => ?_
    -- Only a feed takes what is sent; it waits there for the next run.
    split
    · exact .bind (noFailure_onFabric fun fabric => fabric.noNewFailure_send _ kind target)
        fun _ => noFailure_pure _
    · exact noFailure_pure _
  | follow registry projection runtime name =>
    refine noFailure_named fun found _ => ?_
    -- A handle of a registry leads to a new service, whose task has had no turn yet.
    split
    · exact .bind (noFailure_onFabric fun fabric => fabric.noNewFailure_follow _ projection runtime)
        fun created => noFailure_nameService name _ created
    · exact noFailure_pure _
  | consume role feed balancer? runtime name =>
    refine noFailure_named fun found _ => ?_
    split
    · -- The pool is a new one, or one that goes by a name already.
      rename_i id _
      have creates (balancer : Nat) : NoFailure origin (do
          nameService name role
            (← onFabric fun fabric => fabric.addService role balancer (.feed id) runtime)) :=
        .bind
          (noFailure_onFabric fun fabric => fabric.noNewFailure_addService role balancer _ runtime)
          fun created => noFailure_nameService name role created
      cases balancer? with
      | none => exact .bind noFailure_addBalancer creates
      | some balancer =>
        refine noFailure_named fun found _ => ?_
        split
        · exact creates _
        · exact noFailure_pure _
    · exact noFailure_pure _
  | pick resolver name =>
    refine noFailure_withResolver fun id _ => ?_
    refine .bind (noFailure_onFabric fun fabric => fabric.noNewFailure_pollPick id .fresh)
      fun answer => ?_
    dsimp only
    -- A pick that has to wait is kept under a name, and then it is one more owner.
    split
    · refine .bind (noFailure_modify fun fabric => fabric.noNewFailure_retainService id) fun _ => ?_
      exact .bind (noFailure_put name trivial) fun _ => noFailure_pure _
    · exact noFailure_pure _
  | pollPick waited =>
    refine noFailure_named fun found _ => ?_
    -- A pick that has to wait stays, and one that is answered goes with its name.
    split
    · rename_i id waiting _
      refine .bind (noFailure_onFabric fun fabric => fabric.noNewFailure_pollPick id waiting)
        fun answer => ?_
      dsimp only
      split
      · exact .bind (noFailure_update waited trivial) fun _ => noFailure_pure _
      · exact .bind (noFailure_drop waited) fun _ => noFailure_pure _
    · exact noFailure_pure _
  | resolve resolver name =>
    refine noFailure_withResolver fun id service => ?_
    -- A resolver that is over is refused a stream, and nothing changes.
    cases service.resolver.terminalError? with
    | some error => exact noFailure_pure _
    | none => exact .bind (noFailure_put name trivial) fun _ => noFailure_pure _
  | nextPick stream =>
    refine noFailure_named fun found _ => ?_
    -- A stream that has ended goes with its name, and any other one goes on under it.
    split
    · rename_i id waiting _
      refine .bind (noFailure_onFabric fun fabric => fabric.noNewFailure_pollPicks id waiting)
        fun answer => ?_
      dsimp only
      split
      · exact .bind (noFailure_forget stream) fun _ => noFailure_pure _
      · exact .bind (noFailure_update stream trivial) fun _ => noFailure_pure _
    · exact noFailure_pure _
  | close resolver =>
    refine noFailure_withResolver fun id _ => ?_
    exact .bind (noFailure_onFabric fun fabric => fabric.noNewFailure_close id) fun _ =>
      noFailure_pure _
  | inspect resolver =>
    exact noFailure_withResolver fun _ _ => noFailure_get fun _ => noFailure_pure _

/-- A recorder that is told what to answer is in a script if it is told so. -/
theorem SessionAction.noFailure_onRecorder {name : String} {change : Recorder → Recorder}
    (scripted : ∀ recorder, recorder.Scripted → (change recorder).Scripted) :
    NoFailure origin (onRecorder name change) := by
  -- The recorder has changed and nothing else, so its cluster is put back under the name.
  refine noFailure_withCluster fun cluster home before => ?_
  exact .bind (noFailure_update name (scripted _ before)) fun _ => noFailure_pure _

/-- An operation that keeps the invariant of launchers leaves the recorder in its script. -/
theorem SessionAction.noFailure_operate {α : Type} {name : String}
    {operation : Cluster Recorder Nat → Registry →
      Logged (Except ClusterError α × Cluster Recorder Nat × Registry)}
    (violationLogged : ∀ {cluster registry}, cluster.launcher.Scripted →
      Cluster.ViolationLogged Recorder.Scripted (operation cluster registry))
    (answer : α → Answer) : NoFailure origin (operate name operation answer) := by
  refine noFailure_withCluster fun cluster home scripted => ?_
  -- Between the operation and its answer the launcher is that of the changed cluster.
  have operates : Leads (Session.NoNewFailure origin)
      (onRegistry home fun registry =>
        (operation cluster registry).map fun outcome =>
          ((outcome.1, outcome.2.1), outcome.2.2))
      fun answer session => session.NoNewFailure origin ∧ answer.2.launcher.Scripted := by
    intro session unfailed
    exact ⟨noFailure_onRegistry home _ session unfailed, (violationLogged scripted).holds⟩
  refine .bind operates fun answer => ?_
  have updates (changed : Cluster Recorder Nat) :
      Leads (fun session => session.NoNewFailure origin ∧ changed.launcher.Scripted)
        (update name (.cluster changed home)) fun _ => Session.NoNewFailure origin := by
    rintro session ⟨unfailed, after⟩
    have entry : (Slot.cluster changed home).Scripted := after
    exact noFailure_update name entry session unfailed
  refine .bind (updates answer.2) fun _ => ?_
  cases answer.1 with
  | ok value | error error => exact noFailure_pure _

/-- Commands about clusters make no resolver fail, and leave launchers in their scripts. -/
theorem ClusterCommand.noFailure_run (command : ClusterCommand)
    (scripted : (Command.cluster command).Scripted) : NoFailure origin command.run := by
  have invariant := Recorder.invariant_scripted
  -- All operations keep the script of the recorder, whatever they come to.
  cases command with
  | create source dropsStreams name =>
    dsimp only [run]
    cases source.config with
    | error error => exact noFailure_pure _
    | ok config =>
      have founds : NoFailure origin (onFabric fun fabric => .quiet fabric.addRegistry) :=
        noFailure_onFabric fun _ => .of_standings rfl
      -- A new recorder has no script at all.
      have fresh : (Recorder.fresh dropsStreams).Scripted := nofun
      exact .bind founds fun _ => .bind (noFailure_put name fresh) fun _ => noFailure_pure _
  | scriptLaunches cluster results =>
    refine noFailure_onRecorder fun recorder before result member => ?_
    -- An error of the script is one of the new ones or was in it before.
    rcases List.mem_append.mp member with launch | stop
    · exact scripted result launch
    · exact before result (List.mem_append_right _ stop)
  | scriptStops cluster results =>
    refine noFailure_onRecorder fun recorder before result member => ?_
    -- The same holds of the script for stops, with the two halves changing sides.
    rcases List.mem_append.mp member with launch | stop
    · exact before result (List.mem_append_left _ launch)
    · exact scripted result stop
  | setState cluster handle state => exact noFailure_onRecorder fun _ before => before
  | up cluster => exact noFailure_operate (Cluster.violationLogged_scaleUpByOne invariant) _
  | upMany cluster count =>
    exact noFailure_operate (Cluster.violationLogged_scaleUp invariant count) _
  | down cluster index =>
    exact noFailure_operate (fun holds => Cluster.violationLogged_scaleDownByOne invariant
      holds index) _
  | shutdown cluster =>
    exact noFailure_operate (Cluster.violationLogged_scaleDownLast invariant _) _
  | report cluster | spec cluster handle =>
    exact noFailure_withCluster fun _ _ _ => noFailure_pure _
  | inspect cluster =>
    exact noFailure_withCluster fun _ _ _ => noFailure_get fun _ => noFailure_pure _
  | drainNode cluster handle limit? =>
    refine noFailure_withCluster fun found home _ => ?_
    -- The stream of a node is drained like any other one.
    cases found.launcher.stream? handle with
    | none => exact noFailure_pure _
    | some stream => exact .bind (noFailure_onRegistry home _) fun _ => noFailure_pure _

/-- No command but a run of tasks makes a resolver fail. -/
theorem Command.noFailure_run (command : Command) (scripted : command.Scripted)
    (idle : command ≠ .runTasks) : NoFailure origin command.run := by
  -- Runs of tasks are left out, and they are all that could make a resolver fail.
  cases command with
  | membership command => exact command.noFailure_run
  | service command => exact command.noFailure_run
  | cluster command => exact command.noFailure_run scripted
  | drop name => exact .bind (noFailure_drop name) fun _ => noFailure_pure _
  | runTasks => exact absurd rfl idle

end PeerCluster
