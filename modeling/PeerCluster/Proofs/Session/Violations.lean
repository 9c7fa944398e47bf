import Mathlib.Data.List.Induction
import PeerCluster.Proofs.Session.Clusters
import PeerCluster.Proofs.Session.Failures

/-! Errors of a session by the fault of a caller or of a producer have been logged. -/

namespace PeerCluster

open SessionAction

/-! ### Answers -/

/-- The error that an answer tells of, if it does. -/
def Answer.error? : Answer → Option ClusterError
  | failed error | choice (.ready (.error error)) _ => some error
  | _ => none

namespace SessionAction

/-- An error of an answer that no retry can mend is in the log of the action. -/
def AnswerLogged (action : SessionAction Answer) : Prop :=
  ∀ session : Session, (∀ entry ∈ session.slots, entry.2.Scripted) →
    ∀ error, (action session).value.1.error? = some error → error.isInvariantViolation = true →
      LogsError error (action session).log

variable {α : Type} {name : String} {answer : Answer}

/-- Who fails for another reason, or not at all, need not log anything. -/
theorem answerLogged_pure
    (notViolation : ∀ error, answer.error? = some error → error.isInvariantViolation = false) :
    AnswerLogged (pure answer) :=
  fun _ _ error failed violation => absurd violation (by simp [notViolation error failed])

/-- Who does not fail may be silent. -/
theorem answerLogged_pure_of_none (content : answer.error? = none) : AnswerLogged (pure answer) :=
  answerLogged_pure fun _ failed => by cases content.symm.trans failed

/-- Whatever a name stands for, its launcher goes on in its script. -/
theorem answerLogged_named {rest : Option Slot → SessionAction Answer}
    (answerLogged : ∀ found, (∀ object, found = some object → object.Scripted) →
      AnswerLogged (rest found)) :
    AnswerLogged (slot? name >>= rest) := by
  intro session scripted
  refine answerLogged (session.slots.lookup name) (fun object same => ?_) session scripted
  -- The name stands for one of the objects, and all of those are in their scripts.
  obtain ⟨front, back, split, _⟩ := List.lookup_eq_some_iff.mp same
  exact scripted (name, object) (by simp [split])

/-- An answer that is never an error needs no word, whatever was done for it. -/
theorem answerLogged_silent {action : SessionAction α} {rest : α → SessionAction Answer}
    (silent : ∀ value session, ((rest value) session).value.1.error? = none) :
    AnswerLogged (action >>= rest) :=
  -- Such an action has no error to answer for, so its log does not matter.
  fun session _ error failed _ => by
    cases (silent (action session).value.1 (action session).value.2).symm.trans failed

/-- Who answers by what a registry was asked logs all that was logged for it. -/
theorem answerLogged_onRegistry {home : Nat} {step : Registry → Logged (α × Registry)}
    {rest : α → SessionAction Answer}
    (answerLogged : ∀ registry session error,
      ((rest (step registry).value.1) session).value.1.error? = some error →
        error.isInvariantViolation = true → LogsError error (step registry).log) :
    AnswerLogged (onRegistry home step >>= rest) := by
  intro session _ error failed violation
  -- The registry has logged the error, and nothing that is logged around it takes it away.
  have told := answerLogged (session.fabric.registry home) _ error failed violation
  exact (told.before []).before _

/-- Whoever has a handle of a registry may use it. -/
theorem answerLogged_withRegistry {step : Slot → Nat → SessionAction Answer}
    (answerLogged : ∀ object home, AnswerLogged (step object home)) :
    AnswerLogged (withRegistry name step) := by
  refine answerLogged_named fun found _ => ?_
  -- A name without an object, or of one without a registry, is answered as unknown.
  cases found with
  | none => exact answerLogged_pure_of_none rfl
  | some object =>
    dsimp only
    cases object.registry? with
    | none => exact answerLogged_pure_of_none rfl
    | some home => exact answerLogged object home

/-- Whoever has a stream may use it. -/
theorem answerLogged_withStream {step : Slot → Nat → Nat → SessionAction Answer}
    (answerLogged : ∀ object home stream, AnswerLogged (step object home stream)) :
    AnswerLogged (withStream name step) := by
  refine answerLogged_named fun found _ => ?_
  -- A name without an object, or of one without a stream, is answered as unknown.
  cases found with
  | none => exact answerLogged_pure_of_none rfl
  | some object =>
    dsimp only
    cases object.subscription? with
    | none => exact answerLogged_pure_of_none rfl
    | some place => exact answerLogged object place.1 place.2

/-- Whoever knows a cluster may use it, and its launcher is in its script. -/
theorem answerLogged_withCluster {step : Cluster Recorder Nat → Nat → SessionAction Answer}
    (answerLogged : ∀ cluster home, cluster.launcher.Scripted → AnswerLogged (step cluster home)) :
    AnswerLogged (withCluster name step) := by
  refine answerLogged_named fun found scripted => ?_
  cases found with
  | none => exact answerLogged_pure_of_none rfl
  | some object =>
    -- Only a cluster leads on; everything else is answered as unknown.
    cases object with
    | cluster cluster home => exact answerLogged cluster home (scripted _ rfl)
    | registry | view | stream | projected | probe | balancer | feed | resolver | pick | picks =>
      exact answerLogged_pure_of_none rfl

end SessionAction

/-! ### Commands -/

/-- Commands about registries and streams log their violations. -/
theorem MembershipCommand.answerLogged_run (command : MembershipCommand) :
    AnswerLogged command.run := by
  -- Only a removal can be answered by a violation; all other commands are answered without one.
  cases command with
  | create name => exact answerLogged_silent fun _ _ => rfl
  | share registry name | view registry name | subscribe registry name
  | project registry projection name =>
    exact answerLogged_withRegistry fun object home => answerLogged_silent fun _ _ => rfl
  | add registry peer =>
    refine answerLogged_withRegistry fun object home => ?_
    -- A view cannot change the membership, and is told so without an error.
    cases object with
    | view id => exact answerLogged_pure_of_none rfl
    | registry | cluster | stream | projected | probe | balancer | feed | resolver | pick
      | picks => exact answerLogged_silent fun _ _ => rfl
  | remove registry index =>
    refine answerLogged_withRegistry fun object home => ?_
    cases object with
    | view id => exact answerLogged_pure_of_none rfl
    | registry | cluster | stream | projected | probe | balancer | feed | resolver | pick
      | picks =>
      -- The registry logs the error with which it refuses, and the answer hands this error on.
      refine answerLogged_onRegistry fun registry session error failed => ?_
      refine registry.logsViolation_remove index error ?_
      generalize (registry.remove index).value.1 = result at failed ⊢
      cases result with
      | ok peer => cases failed
      | error cause => exact congrArg _ (Option.some.inj failed)
  | snapshot registry | describe registry =>
    exact answerLogged_withRegistry fun object home => answerLogged_silent fun _ _ => rfl
  | next stream | drain stream limit? =>
    -- A stream is answered by its items, a projected one by theirs, and neither by an error.
    refine answerLogged_withStream fun object home id => answerLogged_silent fun _ _ => ?_
    cases object <;> rfl
  | cancel stream =>
    exact answerLogged_withStream fun object home id => answerLogged_silent fun _ _ => rfl
  | inspect stream =>
    refine answerLogged_withStream fun object home id => answerLogged_silent fun _ _ => ?_
    cases object <;> rfl
  | probe stream name =>
    exact answerLogged_withStream fun object home id => answerLogged_silent fun _ _ => rfl
  | count counted =>
    refine answerLogged_named fun found _ => ?_
    -- Whatever is counted is told by numbers.
    split
    · exact answerLogged_silent fun _ _ => rfl
    · exact answerLogged_pure_of_none rfl
  | unwrap stream name =>
    refine answerLogged_named fun found _ => ?_
    split
    · exact answerLogged_silent fun _ _ => rfl
    · exact answerLogged_pure_of_none rfl

/-- An operation that logs its violations is answered with errors that are in the log. -/
theorem SessionAction.answerLogged_operate {α : Type} {name : String}
    {operation : Cluster Recorder Nat → Registry →
      Logged (Except ClusterError α × Cluster Recorder Nat × Registry)}
    (violationLogged : ∀ {cluster registry}, cluster.launcher.Scripted →
      Cluster.ViolationLogged Recorder.Scripted (operation cluster registry))
    {answer : α → Answer} (succeeds : ∀ value, (answer value).error? = none) :
    AnswerLogged (operate name operation answer) := by
  -- The error of the answer is the one of the operation, and that one is in its log.
  refine answerLogged_withCluster fun cluster home scripted => ?_
  refine answerLogged_onRegistry fun registry session error failed =>
    (violationLogged scripted).logsViolation error ?_
  generalize operation cluster registry = outcome at failed ⊢
  obtain ⟨⟨result, changed, left⟩, log⟩ := outcome
  cases result with
  | ok value => cases (succeeds value).symm.trans failed
  | error cause => exact congrArg _ (Option.some.inj failed)

/-- Settings are refused because of what they are. -/
theorem ClusterSource.category_of_refused {source : ClusterSource} {error : ClusterError}
    (refused : source.config = .error error) : error.category = .configuration := by
  -- Both ways to refuse settings give errors of one category.
  have faulty {config : ClusterConfig} (refused : config.validate = .error error) :
      error.category = .configuration := by
    unfold ClusterConfig.validate at refused
    split at refused
    · obtain rfl := Except.error.inj refused
      rfl
    · cases refused
  cases source with
  | standard => cases refused
  | overrides given => exact faulty refused
  -- A text is refused for its form, for its entries, or for what the settings amount to.
  | text written =>
    change ClusterConfig.ofText written = .error error at refused
    unfold ClusterConfig.ofText at refused
    split at refused
    · obtain rfl := Except.error.inj refused
      rfl
    · split at refused
      · obtain rfl := Except.error.inj refused
        rfl
      · exact faulty refused

/-- Commands about clusters log their violations. -/
theorem ClusterCommand.answerLogged_run (command : ClusterCommand) : AnswerLogged command.run := by
  have invariant := Recorder.invariant_scripted
  -- The four operations log their own violations; all other commands are answered without one.
  cases command with
  | create source dropsStreams name =>
    dsimp only [run]
    cases given : source.config with
    | error error =>
      -- Settings are refused as a fault of configuration, which is no invariant violation.
      refine answerLogged_pure fun _ failed => ?_
      obtain rfl := Option.some.inj failed
      simp [ClusterError.isInvariantViolation, ClusterSource.category_of_refused given]
    | ok config => exact answerLogged_silent fun _ _ => rfl
  | scriptLaunches cluster results | scriptStops cluster results | setState cluster handle state =>
    exact answerLogged_withCluster fun found home _ => answerLogged_silent fun _ _ => rfl
  | up cluster =>
    exact answerLogged_operate (Cluster.violationLogged_scaleUpByOne invariant) fun _ => rfl
  | upMany cluster count =>
    exact answerLogged_operate (Cluster.violationLogged_scaleUp invariant count) fun _ => rfl
  | down cluster index =>
    exact answerLogged_operate (fun holds => Cluster.violationLogged_scaleDownByOne
      invariant holds index)
      fun _ => rfl
  | shutdown cluster =>
    exact answerLogged_operate (Cluster.violationLogged_scaleDownLast invariant _) fun _ => rfl
  | report cluster | spec cluster handle =>
    exact answerLogged_withCluster fun _ _ _ => answerLogged_pure_of_none rfl
  | inspect cluster =>
    exact answerLogged_withCluster fun _ _ _ => answerLogged_silent fun _ _ => rfl
  | drainNode cluster handle limit? =>
    refine answerLogged_withCluster fun found home _ => ?_
    -- A node without a stream is answered as unknown, and any other one by items.
    cases found.launcher.stream? handle with
    | none => exact answerLogged_pure_of_none rfl
    | some stream => exact answerLogged_silent fun _ _ => rfl

/-! ### Picks -/

/-- The service that an object leads to. -/
def Slot.service? : Slot → Option Nat
  | resolver id | pick id _ | picks id _ => some id
  | _ => none

/-- The service that a command asks for candidates, or for leave to ask for them. -/
def Command.asked? (session : Session) : Command → Option Nat
  | service (.pick name _) | service (.pollPick name) | service (.resolve name _)
  | service (.nextPick name) => (session.slots.lookup name).bind Slot.service?
  | _ => none

/-- A pick fails only because its resolver is over. -/
theorem Pick.terminal_of_failed {pick : Pick} {resolver : Resolver} {balancer : RoundRobin}
    {error : ClusterError} (failed : (pick.poll resolver balancer).1 = .ready (.error error)) :
    resolver.terminalError? = some error := by
  -- Where there is nothing new to look at the pick waits, and where nothing is terminal it chooses.
  unfold poll at failed
  split at failed
  · cases failed
  · cases terminal : resolver.terminalError? with
    | some cause =>
      rw [terminal] at failed
      obtain rfl := Except.error.inj (Poll.ready.inj failed)
      rfl
    | none =>
      rw [terminal] at failed
      -- A turn is a candidate or none, so the answer is a candidate or to wait.
      rcases turn : balancer.choose with ⟨_ | candidate, left⟩ <;> rw [turn] at failed <;>
        cases failed

/-- A stream of picks fails only because its resolver is over. -/
theorem PickStream.terminal_of_failed {stream : PickStream} {resolver : Resolver}
    {balancer : RoundRobin} {error : ClusterError}
    (failed : (stream.poll resolver balancer).1 = .ready (.error error)) :
    resolver.terminalError? = some error := by
  -- A stream that is done has ended, and one under way fails only as its pick does.
  cases stream with
  | done => cases failed
  | picking pick =>
    have failing : (pick.poll resolver balancer).1 = .ready (.error error) := by
      dsimp only [poll] at failed
      split at failed
      · cases failed
      · cases failed
      · rename_i asked
        rw [asked]
        exact failed
      · cases failed
      · cases failed
    exact pick.terminal_of_failed failing

namespace Fabric

/-- The resolver of a service has failed over an error. -/
def HasFailed (fabric : Fabric) (id : Nat) (error : ClusterError) : Prop :=
  ∃ source, fabric.standings[id]? = some (.failed error, source)

variable {fabric : Fabric} {id : Nat} {service : Service} {error : ClusterError}

/-- A resolver that is over answers by an error that no retry can mend only if it has failed. -/
theorem hasFailed_of_terminal (found : fabric.services[id]? = some service)
    (terminal : service.resolver.terminalError? = some error)
    (violation : error.isInvariantViolation = true) : fabric.HasFailed id error := by
  refine ⟨service.source, ?_⟩
  have stands : fabric.standings[id]? = some (service.resolver.status, service.source) := by
    simp [standings, found, Service.standing]
  -- The status of a resolver decides by which error it answers once it is over.
  unfold Resolver.terminalError? at terminal
  cases status : service.resolver.status with
  | serving =>
    rw [status] at terminal
    cases terminal
  | closed =>
    rw [status] at terminal
    obtain rfl := Option.some.inj terminal
    -- The error of a closed resolver is no violation.
    cases violation
  | failed cause =>
    rw [status] at terminal
    obtain rfl := Option.some.inj terminal
    exact status ▸ stands

/-- A pick fails by an error that no retry can mend only if its resolver has failed. -/
theorem hasFailed_of_pollPick {pick : Pick}
    (failed : (fabric.pollPick id pick).1.1 = .ready (.error error))
    (violation : error.isInvariantViolation = true) : fabric.HasFailed id error := by
  unfold pollPick at failed
  -- Without such a service there is no answer at all.
  cases found : fabric.services[id]? with
  | none =>
    rw [found] at failed
    cases failed
  | some service =>
    rw [found] at failed
    exact hasFailed_of_terminal found (Pick.terminal_of_failed failed) violation

/-- A stream of picks fails by such an error only if its resolver has failed. -/
theorem hasFailed_of_pollPicks {stream : PickStream}
    (failed : (fabric.pollPicks id stream).1.1 = .ready (.error error))
    (violation : error.isInvariantViolation = true) : fabric.HasFailed id error := by
  unfold pollPicks at failed
  -- The same case split as for a single pick, over the pick inside of the stream.
  cases found : fabric.services[id]? with
  | none =>
    rw [found] at failed
    cases failed
  | some service =>
    rw [found] at failed
    exact hasFailed_of_terminal found (PickStream.terminal_of_failed failed) violation

/-- A service is refused only where no task can drive it. -/
theorem refused_addService {role : String} {balancer : Nat} {source : EventSource} {runtime : Bool}
    (refused : (fabric.addService role balancer source runtime).value.1 = .error error) :
    error = .runtimeUnavailable role := by
  -- With a place to run every service is accepted.
  cases runtime with
  | true => cases refused
  | false => exact (Except.error.inj refused).symm

end Fabric

namespace SessionAction

variable {α : Type} {action : SessionAction α} {rest : α → SessionAction Answer} {name : String}

/-- An action whose answer tells of no error, or of one that a retry can mend. -/
def NoViolation (action : SessionAction Answer) : Prop :=
  ∀ (session : Session) error, (action session).value.1.error? = some error →
    error.isInvariantViolation = false

/-- What is done before the answer does not matter to it. -/
theorem noViolation_bind (noViolation : ∀ value, NoViolation (rest value)) :
    NoViolation (action >>= rest) :=
  fun _ => noViolation _ _

/-- An answer without an error tells of no violation. -/
theorem noViolation_pure {answer : Answer} (none : answer.error? = none) :
    NoViolation (pure answer) :=
  fun _ error failed => by cases none.symm.trans failed

/-- What an answer tells of depends on what a name stands for. -/
theorem error_named (rest : Option Slot → SessionAction Answer) (session : Session) :
    ((slot? name >>= rest) session).value.1.error? =
      ((rest (session.slots.lookup name)) session).value.1.error? := rfl

/-- Who looks at the session first fails just as from there on. -/
theorem error_seen (rest : Session → SessionAction Answer) (session : Session) :
    ((get >>= rest) session).value.1.error? = ((rest session) session).value.1.error? := rfl

/-- Whoever knows a balancer may use it. -/
theorem noViolation_withBalancer {step : Nat → RoundRobin → SessionAction Answer}
    (noViolation : ∀ id balancer, NoViolation (step id balancer)) :
    NoViolation (withBalancer name step) := by
  refine noViolation_bind fun found => ?_
  -- An unknown name is answered as such, which is no violation.
  split
  · exact noViolation_bind fun _ => noViolation _ _
  · exact noViolation_pure rfl

/-- Whoever knows a resolver may use it. -/
theorem noViolation_withResolver {step : Nat → Service → SessionAction Answer}
    (noViolation : ∀ id service, NoViolation (step id service)) :
    NoViolation (withResolver name step) := by
  refine noViolation_bind fun found => ?_
  -- A resolver leads on if its service is there, and is answered as unknown otherwise.
  split
  · refine noViolation_bind fun seen => ?_
    split
    · exact noViolation _ _
    · exact noViolation_pure rfl
  · exact noViolation_pure rfl

/-- Who fails at a resolver fails at one that is there. -/
theorem failed_withResolver {step : Nat → Service → SessionAction Answer} {session : Session}
    {error : ClusterError}
    (failed : ((withResolver name step) session).value.1.error? = some error) :
    ∃ id service, session.slots.lookup name = some (.resolver id) ∧
      session.fabric.services[id]? = some service ∧
      ((step id service) session).value.1.error? = some error := by
  unfold withResolver at failed
  rw [error_named] at failed
  -- Unknown names and objects of other kinds are answered without an error.
  cases found : session.slots.lookup name with
  | none =>
    rw [found] at failed
    cases failed
  | some object =>
    rw [found] at failed
    cases object with
    | resolver id =>
      dsimp only at failed
      rw [error_seen] at failed
      -- The resolver was dropped, or its service is the one that fails.
      cases there : session.fabric.services[id]? with
      | none =>
        rw [there] at failed
        cases failed
      | some service =>
        rw [there] at failed
        exact ⟨id, service, rfl, there, failed⟩
    | registry | view | cluster | stream | projected | probe | balancer | feed | pick | picks =>
      cases failed

/-- Who answers by a poll fails as the poll does. -/
theorem failed_poll {β : Type} {step : Fabric → Logged (((Poll Choice × Bool) × β) × Fabric)}
    {rest : (Poll Choice × Bool) × β → SessionAction Answer}
    (answers : ∀ polled session,
      ((rest polled) session).value.1 = .choice polled.1.1 polled.1.2)
    {session : Session} {error : ClusterError}
    (failed : ((onFabric step >>= rest) session).value.1.error? = some error) :
    (step session.fabric).value.1.1.1 = .ready (.error error) := by
  -- The answer is the one of the poll, so its error is the error of the choice.
  change ((rest (step session.fabric).value.1) _).value.1.error? = _ at failed
  rw [answers] at failed
  cases answer : (step session.fabric).value.1.1.1 with
  | ready choice =>
    rw [answer] at failed
    cases choice with
    | ok candidate => cases failed
    | error cause => rw [Option.some.inj failed]
  | pending | finished =>
    rw [answer] at failed
    cases failed

/-- A service that was not created was refused for want of a place to run its task. -/
theorem noViolation_nameService {role : String}
    {step : Fabric → Logged (Except ClusterError Nat × Fabric)}
    (refused : ∀ fabric error, (step fabric).value.1 = .error error →
      error.category = .usageError) :
    NoViolation (do nameService name role (← onFabric step)) := by
  intro session error failed
  -- Either a service is created and named, or its refusal is the answer.
  change ((nameService name role (step session.fabric).value.1) _).value.1.error? = _ at failed
  cases created : (step session.fabric).value.1 with
  | ok service =>
    rw [created] at failed
    cases failed
  | error cause =>
    rw [created] at failed
    obtain rfl := Option.some.inj failed
    simp [ClusterError.isInvariantViolation, refused session.fabric cause created]

end SessionAction

/-- Only who asks a service gets an error that no retry can mend, and only if it has failed. -/
theorem ServiceCommand.answered (command : ServiceCommand) (session : Session)
    {error : ClusterError} (failed : (command.run session).value.1.error? = some error)
    (violation : error.isInvariantViolation = true) :
    ∃ id, (Command.service command).asked? session = some id ∧
      session.fabric.HasFailed id error := by
  -- Commands that are answered without violations contradict what has failed.
  have contradicts (noViolation : NoViolation command.run) : False := by
    simp [noViolation session error failed] at violation
  -- Only picks and streams of picks are left then, and all of them lead to one service.
  cases command with
  | createBalancer name | createFeed queue name =>
    refine (contradicts (noViolation_bind fun _ => ?_)).elim
    exact noViolation_bind fun _ => noViolation_pure rfl
  | apply balancer event =>
    refine (contradicts (noViolation_withBalancer fun id before => ?_)).elim
    exact noViolation_bind fun _ => noViolation_bind fun _ => noViolation_pure rfl
  | choose balancer times | shutdown balancer =>
    refine (contradicts (noViolation_withBalancer fun id before => ?_)).elim
    exact noViolation_bind fun _ => noViolation_pure rfl
  | inspectBalancer balancer =>
    exact (contradicts (noViolation_withBalancer fun _ _ => noViolation_pure rfl)).elim
  | send feed kind target =>
    refine (contradicts (noViolation_bind fun found => ?_)).elim
    split
    · exact noViolation_bind fun _ => noViolation_pure rfl
    · exact noViolation_pure rfl
  | follow registry projection runtime name =>
    refine (contradicts (noViolation_bind fun found => ?_)).elim
    -- A handle follows its registry, and there is nothing else that could be followed.
    split
    · refine noViolation_nameService fun fabric error refused => ?_
      rw [Fabric.refused_addService refused]
      rfl
    · exact noViolation_pure rfl
  | consume role feed balancer? runtime name =>
    refine (contradicts (noViolation_bind fun found => ?_)).elim
    -- A feed is consumed by a pool of its own or by one that was named before.
    split
    · have creates (id balancer : Nat) : NoViolation (do
          nameService name role
            (← onFabric fun fabric => fabric.addService role balancer (.feed id) runtime)) := by
        refine noViolation_nameService fun fabric error refused => ?_
        rw [Fabric.refused_addService refused]
        rfl
      cases balancer? with
      | none => exact noViolation_bind fun balancer => creates _ balancer
      | some balancer =>
        refine noViolation_bind fun found => ?_
        split
        · exact creates _ _
        · exact noViolation_pure rfl
    · exact noViolation_pure rfl
  | close resolver =>
    refine (contradicts (noViolation_withResolver fun _ _ => ?_)).elim
    exact noViolation_bind fun _ => noViolation_pure rfl
  | inspect resolver =>
    refine (contradicts (noViolation_withResolver fun _ _ => ?_)).elim
    exact noViolation_bind fun _ => noViolation_pure rfl
  | pick resolver name =>
    obtain ⟨id, service, found, there, failed⟩ := failed_withResolver failed
    -- The poll of a new pick has failed, and its resolver with it.
    refine ⟨id, by simp [Command.asked?, found, Slot.service?], ?_⟩
    have polled := failed_poll (fun polled session => ?_) failed
    · exact Fabric.hasFailed_of_pollPick polled violation
    · dsimp only
      split <;> rfl
  | resolve resolver name =>
    obtain ⟨id, service, found, there, failed⟩ := failed_withResolver failed
    -- A stream is refused only by a resolver that is over, with the error it has failed by.
    refine ⟨id, by simp [Command.asked?, found, Slot.service?], ?_⟩
    cases terminal : service.resolver.terminalError? with
    | none =>
      rw [terminal] at failed
      cases failed
    | some cause =>
      rw [terminal] at failed
      obtain rfl := Option.some.inj failed
      exact Fabric.hasFailed_of_terminal there terminal violation
  | pollPick waited =>
    unfold run at failed
    -- The name must stand for a pick, which leads to the service behind it.
    rw [error_named] at failed
    cases found : session.slots.lookup waited with
    | none =>
      rw [found] at failed
      cases failed
    | some object =>
      rw [found] at failed
      cases object with
      | pick id waiting =>
        refine ⟨id, by simp [Command.asked?, found, Slot.service?], ?_⟩
        have polled := failed_poll (fun polled session => ?_) failed
        · exact Fabric.hasFailed_of_pollPick polled violation
        · dsimp only
          split <;> rfl
      | registry | view | cluster | stream | projected | probe | balancer | feed | resolver
        | picks => cases failed
  | nextPick stream =>
    unfold run at failed
    -- The name must stand for a stream of picks, which leads to the service behind it.
    rw [error_named] at failed
    cases found : session.slots.lookup stream with
    | none =>
      rw [found] at failed
      cases failed
    | some object =>
      rw [found] at failed
      cases object with
      | picks id waiting =>
        refine ⟨id, by simp [Command.asked?, found, Slot.service?], ?_⟩
        have polled := failed_poll (fun polled session => ?_) failed
        · exact Fabric.hasFailed_of_pollPicks polled violation
        · dsimp only
          split <;> rfl
      | registry | view | cluster | stream | projected | probe | balancer | feed | resolver
        | pick => cases failed

/-! ### Runs -/

namespace Session

open Machine

/-- A run of tasks has met the report over which a resolver failed, and has logged the error. -/
def FailureLogged (commands : List Command) (id : Nat) (error : ClusterError) : Prop :=
  ∃ earlier later, commands = earlier ++ .runTasks :: later ∧
    let session := after empty earlier
    let worked := next session .runTasks
    ∃ before stands, session.fabric.standings[id]? = some before ∧
      worked.fabric.standings[id]? = some stands ∧
      session.fabric.FailedOver (exchange session .runTasks).log worked.fabric before stands error

variable {commands : List Command} {id : Nat} {error : ClusterError}

/-- A failure that was logged stays logged. -/
theorem FailureLogged.concat (failureLogged : FailureLogged commands id error)
    (more : List Command) :
    FailureLogged (commands ++ more) id error := by
  -- The run that has logged it stays among the commands.
  obtain ⟨earlier, later, rfl, failureLogged⟩ := failureLogged
  exact ⟨earlier, later ++ more, by simp, failureLogged⟩

/-- What a run of tasks logs is what the tasks log. -/
theorem log_runTasks (session : Session) :
    (exchange session .runTasks).log = session.fabric.run.log := by
  -- A run is answered by nothing that is logged besides.
  show session.fabric.run.log ++ [] ++ [] = _
  rw [List.append_nil, List.append_nil]

/-- Launchers of a session fail in their scripts only, if they are told nothing else. -/
theorem scripted_after (scripted : ∀ command ∈ commands, command.Scripted) :
    ∀ entry ∈ (after empty commands).slots, entry.2.Scripted := by
  -- Only runs of tasks are not covered by what commands leave, and they touch no launcher.
  have kept (session : Session) (command : Command)
      (before : ∀ entry ∈ session.slots, entry.2.Scripted) (scripted : command.Scripted) :
      ∀ entry ∈ (next session command).slots, entry.2.Scripted := by
    by_cases idle : command = .runTasks
    · subst idle
      exact before
    · exact (command.noFailure_run scripted idle session ⟨.of_standings rfl, before⟩).scripted
  have none : ∀ entry ∈ empty.slots, entry.2.Scripted := nofun
  exact after_of_kept kept none scripted

/-- Every resolver that has failed met a report in an earlier run, which has logged the failure. -/
theorem failureLogged_of_failed (scripted : ∀ command ∈ commands, command.Scripted)
    (failed : (after empty commands).fabric.HasFailed id error) :
    FailureLogged commands id error := by
  -- The last command made the resolver fail, or the resolver had failed before it.
  induction commands using List.reverseRecOn generalizing error with
  | nil =>
    obtain ⟨source, stands⟩ := failed
    cases stands
  | append_singleton commands command ih =>
    obtain ⟨earlier, last⟩ := List.forall_mem_append.mp scripted
    rw [after_append] at failed
    obtain ⟨source, stands⟩ := failed
    change (next (after empty commands) command).fabric.standings[id]? = _ at stands
    -- Only a run of tasks makes resolvers fail; every other command leaves them as they were.
    by_cases idle : command = .runTasks
    · subst idle
      obtain ⟨before, stood, same, went⟩ :=
        (after empty commands).fabric.tasked_run.standings id _ stands
      -- The resolver had failed before the run, or it is this run in which it fails.
      rcases went with status | ⟨cause, failureLogged⟩
      · obtain rfl : before = (.failed error, source) := Prod.ext status.symm same.symm
        exact (ih earlier ⟨source, stood⟩).concat _
      · obtain rfl := ResolverStatus.failed.inj failureLogged.failed
        refine ⟨commands, [], rfl, before, _, stood, stands, ?_⟩
        rw [log_runTasks]
        exact failureLogged
    · have unfailed : (after empty commands).NoNewFailure (after empty commands).fabric :=
        ⟨.of_standings rfl, scripted_after earlier⟩
      have spared := (command.noFailure_run (last command (by simp)) idle _ unfailed).noNewFailure
      exact (ih earlier ⟨source, spared id error source stands⟩).concat _

/--
An answer by an error that no retry can mend comes with a record of it. Who asks a service for
candidates gets such an error only from a resolver whose failure was logged before.
-/
theorem answers_logged (scripted : ∀ command ∈ commands, command.Scripted) (command : Command)
    (failed : (answerTo (after empty commands) command).error? = some error)
    (violation : error.isInvariantViolation = true) :
    match command.asked? (after empty commands) with
    | none => LogsError error (exchange (after empty commands) command).log
    | some id => FailureLogged commands id error := by
  have launchers := scripted_after scripted
  -- Membership and cluster answer for themselves; a service answers by an earlier run.
  cases command with
  | membership command => exact command.answerLogged_run _ launchers error failed violation
  | cluster command => exact command.answerLogged_run _ launchers error failed violation
  | service command =>
    obtain ⟨id, asked, failureLogged⟩ := command.answered _ failed violation
    rw [asked]
    exact failureLogged_of_failed scripted failureLogged
  | drop name | runTasks => cases failed

/--
Errors that no retry can mend are never silent. A removal, a conversion, a projection and all that
is asked of a cluster, whose launcher fails only as a collaborator, log them in the same call. Who
asks a service for candidates gets them only if an earlier run of its task, the one that took the
report at fault, has logged them; all other commands of a session log them in the same call.
-/
theorem violations_never_silent {σ η : Type} {launchers : Launcher σ η} {launcher : σ}
    (collaborates : launchers.FailsAsCollaborator launcher) :
    (∀ (registry : Registry) (index : Nat),
      LogsViolation (registry.remove index).value.1 (registry.remove index).log) ∧
    (∀ {α : Type} [Outline α] (notification : ChangeNotification α),
      LogsViolation notification.toEvent.value notification.toEvent.log) ∧
    (∀ (projection : Projection) (notification : ChangeNotification PeerAddress),
      LogsViolation (projection.projectNotification notification).value
        (projection.projectNotification notification).log) ∧
    (∀ (config : ClusterConfig) (calls : List ClusterCall),
      ∀ entry ∈ exchanges (Deployment.start launchers config launcher) calls,
        Deployment.AnswerLogged entry) ∧
    ∀ (commands : List Command) (command : Command) (error : ClusterError),
      (∀ command ∈ commands, command.Scripted) →
      (answerTo (after empty commands) command).error? = some error →
      error.isInvariantViolation = true →
      match command.asked? (after empty commands) with
      | none => LogsError error (exchange (after empty commands) command).log
      | some id => FailureLogged commands id error :=
  ⟨Registry.logsViolation_remove, ChangeNotification.logsViolation_toEvent,
    Projection.logsViolation_projectNotification, Deployment.exchanges_logged collaborates,
    fun _ command _ scripted => answers_logged scripted command⟩

/-- A drift is logged when a node is stopped, and a change in place before a pick answers it. -/
theorem violations_never_silent_of_two_runs :
    let begun := Deployment.start Recorder.launcher .standard (.fresh true)
    let drifted := after begun [.up, .membership (.remove 0)]
    let node : PeerAddress := ⟨"localhost", 13000, 13001, 13002⟩
    let drift : ClusterError := .membershipDrift 0 node.text
    let commands : List Command := [.service (.createFeed (.notifications []) "feed"),
      .service (.consume "role" "feed" none true "resolver"),
      .service (.send "feed" .modify ⟨"localhost", 1⟩), .runTasks]
    let pick : Command := .service (.pick "resolver" "pick")
    let offence : ClusterError := .ofModify (⟨"localhost", 1⟩ : Endpoint)
    Recorder.launcher.FailsAsCollaborator (.fresh true) ∧ (∀ command ∈ commands, command.Scripted) ∧
      answerTo drifted (.down 0) = .failed drift ∧ LogsError drift
        (exchange drifted (.down 0)).log ∧
      (answerTo (after empty commands) pick).error? = some offence ∧
      pick.asked? (after empty commands) = some 0 ∧ FailureLogged commands 0 offence := by
  intro begun drifted node drift commands pick offence
  have collaborates : Recorder.launcher.FailsAsCollaborator (.fresh true) :=
    Recorder.invariant_scripted.collaborates nofun
  -- Both parts of the promise are used: the one on clusters, and the one on sessions.
  have promised := (violations_never_silent collaborates).2.2.2
  have scripted : ∀ command ∈ commands, command.Scripted := by
    simp [commands, Command.Scripted]
  have answered : answerTo drifted (.down 0) = .failed drift := by rfl
  have picked : (answerTo (after empty commands) pick).error? = some offence := by rfl
  have asked : pick.asked? (after empty commands) = some 0 := by rfl
  refine ⟨collaborates, scripted, answered, ?_, picked, asked, ?_⟩
  · -- The drift is met when the node is stopped, which is the last exchange of the run.
    refine promised.1 .standard [.up, .membership (.remove 0), .down 0] _ ?_ drift
      (congrArg ClusterAnswer.error? answered) rfl
    exact (mem_exchanges_iff _ _).mpr ⟨[.up, .membership (.remove 0)], .down 0, [], rfl, rfl⟩
  · have failureLogged := promised.2 commands pick offence scripted picked rfl
    rwa [asked] at failureLogged

end Session

end PeerCluster
