import PeerCluster.Proofs.Worker.Rotating

/-! Interleavings: what is asked at a desk, and what its driver does in between, as one run. -/

namespace PeerCluster

/-- What can be done to a resolver, one after the other in any order. -/
inductive DeskCall where
  | ask (request : DeskRequest)
  /-- Its driver applies a change. -/
  | apply (event : ChangeEvent Endpoint)
  /-- Its driver comes upon something that is no change. -/
  | fail (error : ClusterError)
  /-- Something happens to the source of its driver, or to the task that runs it. -/
  | shift (inbox : Inbox) (task : TaskPhase)

namespace Desk

open Machine

/-- A resolver that was just created, with nothing handed out. -/
def opened (role : String) (inbox : Inbox) : Desk :=
  ⟨.started role inbox, .opened⟩

/-- What is left when something was done to the two parts of the resolver. -/
def driven (desk : Desk) (parts : Resolver × RoundRobin) : Desk :=
  { desk with worker := { desk.worker with resolver := parts.1, balancer := parts.2 } }

instance : Machine Desk DeskCall DeskAnswer where
  perform desk
    | .ask request => .quiet (desk.serve request)
    | .apply event =>
      (desk.worker.resolver.apply desk.worker.balancer event).map fun parts =>
        (.done, desk.driven parts)
    | .fail error =>
      (desk.worker.resolver.fail error desk.worker.balancer).map fun parts =>
        (.done, desk.driven parts)
    | .shift inbox task =>
      .quiet (.done, { desk with worker := { desk.worker with inbox, task } })

end Desk

/-- The candidate that an exchange gives to whoever asked, if it gives one. -/
def Exchange.granted? (entry : Exchange DeskCall DeskAnswer) : Option Endpoint :=
  entry.answer.granted?

/-- What an exchange is to a pool: a change, a turn for who is given a candidate, or nothing. -/
def Exchange.turn? (entry : Exchange DeskCall DeskAnswer) : Option BalancerCall :=
  match entry.call with
  | .apply event => some (.tell event)
  | _ => entry.granted?.map fun _ => .choose

/-- What is answered to who asked for a turn. -/
def BalancerAnswer.chosen? : BalancerAnswer → Option (Option Endpoint)
  | chosen candidate? => some candidate?
  | done => none

namespace Desk

open Machine

/-- What can be told of all turns that were given by a resolver in a run. -/
structure OneRotation (role : String) (inbox : Inbox) (steps : List DeskCall) : Prop where
  /-- Who was given a candidate was given the one of a balancer that was asked once for each. -/
  granted :
    let entries := exchanges (opened role inbox) steps
    (entries.filterMap Exchange.granted?).map some =
      (exchanges RoundRobin.empty (entries.filterMap Exchange.turn?)).filterMap (·.answer.chosen?)
  /-- While the resolver serves, the next turn is the next one of that balancer. -/
  serving :
    let desk := after (opened role inbox) steps
    desk.worker.resolver.status = .serving →
      desk.worker.balancer =
        after RoundRobin.empty ((exchanges (opened role inbox) steps).filterMap Exchange.turn?)
  /-- No turn is lost to who is given nobody, or to who drops a stream of picks. -/
  noTurn :
    let desk := after (opened role inbox) steps
    ∀ request : DeskRequest, request.leaves = false → (desk.serve request).1.granted? = none →
      (desk.serve request).2.worker.balancer = desk.worker.balancer

/-! ### One step after the other -/

/-- While a resolver serves its pool is some balancer, and otherwise it has none any more. -/
structure Follows (desk : Desk) (balancer : RoundRobin) : Prop where
  coupled : desk.worker.resolver.Coupled desk.worker.balancer
  serving : desk.worker.resolver.status = .serving → desk.worker.balancer = balancer

variable {desk later : Desk} {balancer : RoundRobin}

/-- A new resolver has a pool without candidates. -/
theorem follows_opened (role : String) (inbox : Inbox) :
    (opened role inbox).Follows .empty :=
  ⟨⟨fun _ => rfl, fun ceased => absurd rfl ceased⟩, fun _ => rfl⟩

namespace Follows

/-- A pool from which nobody gets a turn is still the same, unless the service is ended. -/
theorem noTurn (follows : desk.Follows balancer) (noTurn : desk.worker.TakesNoTurn later.worker) :
    later.Follows balancer := by
  -- The pool is the one of the balancer, or the service is over and it does not matter any more.
  refine ⟨noTurn.coupled follows.coupled, fun serving => ?_⟩
  cases noTurn with
  | kept resolver same => exact same.trans (follows.serving (resolver ▸ serving))
  | ended status => exact absurd serving status

/-- A turn that is given by a resolver is given by the balancer, too. -/
theorem turn (follows : desk.Follows balancer) (serving : desk.worker.resolver.status = .serving)
    {candidate? : Option Endpoint} {left : RoundRobin}
    (choice : desk.worker.balancer.choose = (candidate?, left)) :
    balancer.choose = (candidate?, left) ∧
      Follows { desk with worker := { desk.worker with balancer := left } } left := by
  -- Both choose from the same pool, and go on with the same one.
  obtain ⟨_, shutDown, _⟩ := desk.worker.balancer.choose_eq
  rw [choice] at shutDown
  refine ⟨follows.serving serving ▸ choice, ⟨fun _ => ?_, fun ceased => absurd serving ceased⟩,
    fun _ => rfl⟩
  exact shutDown.trans (follows.coupled.serving serving)

/-- A change is told to the balancer as it is applied to the pool. -/
theorem apply (follows : desk.Follows balancer) (event : ChangeEvent Endpoint) :
    (next desk (.apply event)).Follows (next balancer (.tell event)) := by
  -- A pool that is shut down is not changed, and any other one is changed alike.
  show Follows (desk.driven (desk.worker.resolver.moveTo .serving, _))
    (balancer.onEvent event).value
  have status : (desk.worker.resolver.moveTo .serving).status = desk.worker.resolver.status :=
    desk.worker.resolver.status_moveTo_serving
  refine ⟨⟨fun serving => ?_, fun ceased => ?_⟩, fun serving => ?_⟩
  · exact (RoundRobin.onEvent_of_open (follows.coupled.serving (status ▸ serving)) event).2
  · have ended := follows.coupled.ceased fun serving => ceased (status.trans serving)
    show (desk.worker.balancer.onEvent event).value = _
    rw [ended]
    rfl
  · have same := follows.serving (status ▸ serving)
    show (desk.worker.balancer.onEvent event).value = _
    rw [same]

/-- What is given in a step is what the balancer gives, and afterwards they go on alike. -/
theorem step (follows : desk.Follows balancer) (call : DeskCall) :
    let entry := exchange desk call
    entry.granted?.toList.map some =
        (exchanges balancer entry.turn?.toList).filterMap (·.answer.chosen?) ∧
      (next desk call).Follows (after balancer entry.turn?.toList) := by
  -- A step is a change for both, a turn for both, or nothing to the balancer.
  cases call with
  | apply event => exact ⟨rfl, follows.apply event⟩
  | fail error =>
    exact ⟨rfl, follows.noTurn (.ended (desk.worker.resolver.status_moveTo_ne nofun) rfl)⟩
  | shift inbox task => exact ⟨rfl, follows.coupled, follows.serving⟩
  | ask request =>
    have turns := (desk.serve_cases request).turns
    have entry : exchange desk (.ask request) = ⟨.ask request, (desk.serve request).1, []⟩ := rfl
    have left : next desk (.ask request) = (desk.serve request).2 := rfl
    rw [entry, left]
    dsimp only [Exchange.turn?, Exchange.granted?]
    generalize desk.serve request = outcome at turns ⊢
    obtain ⟨answer, later⟩ := outcome
    dsimp only at turns ⊢
    generalize answer.granted? = granted? at turns ⊢
    cases turns with
    | nobody noTurn => exact ⟨rfl, follows.noTurn noTurn⟩
    | @turn serving candidate left choice noTurn =>
      obtain ⟨given, still⟩ := follows.turn serving choice
      have gives : exchange balancer .choose = ⟨.choose, .chosen (some candidate), []⟩ := by
        simp only [exchange, answerTo, Machine.perform, given, Logged.quiet]
      have leaves : next balancer .choose = left := by
        simp only [next, Machine.perform, given, Logged.quiet]
      refine ⟨?_, ?_⟩
      · show [some candidate] = List.filterMap _ [exchange balancer .choose]
        rw [gives]
        rfl
      · show later.Follows (next balancer .choose)
        rw [leaves]
        exact still.noTurn noTurn

/-- What is given in a run is what the balancer gives, and afterwards they go on alike. -/
theorem run (follows : desk.Follows balancer) (calls : List DeskCall) :
    let entries := exchanges desk calls
    let turns := entries.filterMap Exchange.turn?
    (entries.filterMap Exchange.granted?).map some =
        (exchanges balancer turns).filterMap (·.answer.chosen?) ∧
      (after desk calls).Follows (after balancer turns) := by
  -- The induction is on the calls, and the balancer is asked for the turn of the first one first.
  induction calls generalizing desk balancer with
  | nil => exact ⟨rfl, follows⟩
  | cons call rest ih =>
    obtain ⟨given, still⟩ := follows.step call
    obtain ⟨later, last⟩ := ih still
    dsimp only
    rw [filterMap_exchanges_cons, filterMap_exchanges_cons, List.map_append, given, later,
      exchanges_append, List.filterMap_append, after_append]
    exact ⟨rfl, last⟩

end Follows

/-- All turns that a resolver ever gives are those of one balancer, whoever is given them. -/
theorem oneRotation (role : String) (inbox : Inbox) (steps : List DeskCall) :
    OneRotation role inbox steps := by
  -- A new resolver follows the empty balancer, and every run keeps it so.
  obtain ⟨granted, follows⟩ := (follows_opened role inbox).run steps
  exact ⟨granted, follows.serving, fun request stays nobody =>
    (serve_cases _ request).balancer follows.coupled stays nobody⟩

end Desk

end PeerCluster
