import PeerCluster.Proofs.Session.Commands

/-! Commands about balancers, feeds, resolvers and picks lose nothing that anybody holds. -/

namespace PeerCluster

open SessionAction

namespace SessionAction

variable {origin : Fabric} {name : String}

/-- Whoever knows a balancer may use it. -/
theorem keeps_withBalancer {step : Nat → RoundRobin → SessionAction Answer}
    (keeps : ∀ id balancer, Keeps origin (step id balancer)) :
    Keeps origin (withBalancer name step) := by
  refine keeps_named (keeps_pure _) fun object => Keeps.with ?_
  -- Balancers, resolvers and the rest hold no stream of their own, so looking them up is harmless.
  cases object with
  | balancer id => exact .bind .get fun seen => (keeps id _).weaken fun _ => And.left
  | registry | view | cluster | stream | projected | probe | feed | resolver | pick | picks =>
    exact keeps_pure _

/-- Whoever knows a resolver may use it. -/
theorem keeps_withResolver {step : Nat → Service → SessionAction Answer}
    (keeps : ∀ id service, Keeps origin (step id service)) :
    Keeps origin (withResolver name step) := by
  refine keeps_named (keeps_pure _) fun object => Keeps.with ?_
  cases object with
  | resolver id =>
    refine .bind .get fun seen => .weaken ?_ fun _ => And.left
    -- The service may be gone although its name is still known.
    cases seen.fabric.services[id]? with
    | none => exact keeps_pure _
    | some service => exact keeps id service
  | registry | view | cluster | stream | projected | probe | balancer | feed | pick | picks =>
    exact keeps_pure _

/-- A balancer that has changed holds nothing. -/
theorem keeps_setBalancer (id : Nat) (balancer : RoundRobin) :
    Keeps origin (setBalancer id balancer) :=
  keeps_modify fun fabric => fabric.evolvesTo_setBalancer id balancer

/-- A balancer that was added holds nothing. -/
theorem keeps_addBalancer : Keeps origin (onFabric fun fabric => .quiet fabric.addBalancer) :=
  keeps_onFabric fun _ => .of_held rfl rfl

/-- The stream of a resolver is held by its task, and not by whoever knows it by name. -/
theorem keeps_nameService (name role : String) (created : Except ClusterError Nat) :
    Keeps origin (nameService name role created) := by
  -- Only a service that was created gets a name.
  cases created with
  | error error => exact keeps_pure _
  | ok service =>
    exact .bind (keeps_put (.resolver service) rfl trivial name) fun _ => keeps_pure _

end SessionAction

variable {origin : Fabric}

/-- Commands about balancers, feeds, resolvers and picks keep what objects hold. -/
theorem ServiceCommand.keeps_run (command : ServiceCommand) : Keeps origin command.run := by
  -- What these commands name holds no stream, so only the fabric has to be looked at.
  cases command with
  | createBalancer name =>
    refine .bind keeps_addBalancer fun id => ?_
    exact .bind (keeps_put (.balancer id) rfl trivial name) fun _ => keeps_pure _
  | apply balancer event =>
    refine keeps_withBalancer fun id before => ?_
    have listens : Keeps origin (liftM (before.onEvent event : Logged RoundRobin)) :=
      fun _ kept => kept
    exact .bind listens fun after => .bind (keeps_setBalancer id after) fun _ => keeps_pure _
  | choose balancer times =>
    refine keeps_withBalancer fun id before => ?_
    exact .bind (keeps_setBalancer id _) fun _ => keeps_pure _
  | shutdown balancer =>
    refine keeps_withBalancer fun id before => ?_
    exact .bind (keeps_setBalancer id _) fun _ => keeps_pure _
  | inspectBalancer balancer => exact keeps_withBalancer fun _ _ => keeps_pure _
  | createFeed queue name =>
    refine .bind (keeps_onFabric fun _ => .of_held rfl rfl) fun id => ?_
    exact .bind (keeps_put (.feed id) rfl trivial name) fun _ => keeps_pure _
  | send feed kind target =>
    refine keeps_named (keeps_pure _) fun object => Keeps.with ?_
    -- Only a feed takes what is sent.
    cases object with
    | feed id =>
      exact .bind (keeps_onFabric fun fabric => fabric.evolvesTo_send id kind target)
        fun _ => keeps_pure _
    | registry | view | cluster | stream | projected | probe | balancer | resolver | pick | picks =>
      exact keeps_pure _
  | follow registry projection runtime name =>
    refine keeps_named (keeps_pure _) fun object => ?_
    -- Only an object with a handle leads to a registry, which is alive for that handle.
    cases held : object.registry? with
    | none =>
      have unknown : (some object).bind Slot.registry? = none := held
      rw [unknown]
      exact (keeps_pure _).with
    | some home =>
      have known : (some object).bind Slot.registry? = some home := held
      rw [known]
      have follows : KeepsWith origin registry object
          (onFabric fun fabric => fabric.follow home projection runtime) := by
        rintro session ⟨kept, found⟩
        have holder := holders_pos_of_lookup found held
        exact kept.evolvesTo (session.fabric.evolvesTo_follow home (kept.owned.reached home holder)
          (kept.owned.lives holder) projection runtime)
      exact .bind follows fun created => keeps_nameService name _ created
  | consume role feed balancer? runtime name =>
    refine keeps_named (keeps_pure _) fun object => Keeps.with ?_
    -- Only a feed can be consumed, by a new pool or by one that goes by a name.
    cases object with
    | feed id =>
      have creates (balancer : Nat) : Keeps origin (do
          nameService name role
            (← onFabric fun fabric => fabric.addService role balancer (.feed id) runtime)) :=
        .bind (keeps_onFabric fun fabric => fabric.evolvesTo_addService_feed role
          balancer id runtime)
          fun created => keeps_nameService name role created
      cases balancer? with
      | none => exact .bind keeps_addBalancer creates
      | some balancer =>
        refine keeps_named (keeps_pure _) fun object => Keeps.with ?_
        cases object with
        | balancer id => exact creates id
        | registry | view | cluster | stream | projected | probe | feed | resolver | pick | picks =>
          exact keeps_pure _
    | registry | view | cluster | stream | projected | probe | balancer | resolver | pick | picks =>
      exact keeps_pure _
  | pick resolver name =>
    refine keeps_withResolver fun id _ => ?_
    refine .bind (keeps_onFabric fun fabric => fabric.evolvesTo_pollPick id .fresh) fun answer => ?_
    dsimp only
    -- A pick that has to wait is one more owner of its service, and holds no stream itself.
    split
    · refine .bind (keeps_modify fun fabric => fabric.evolvesTo_retainService id) fun _ => ?_
      exact .bind (keeps_put (.pick id _) rfl trivial name) fun _ => keeps_pure _
    · exact keeps_pure _
  | pollPick waited =>
    refine keeps_named (keeps_pure _) fun object => ?_
    -- Only a pick is polled; it stays if it has to wait, and goes if it is answered.
    cases object with
    | pick id waiting =>
      refine .bind (leads_onFabric fun fabric => fabric.evolvesTo_pollPick id waiting) fun answer =>
        ?_
      dsimp only
      split
      · exact .bind (keepsWith_update rfl (fun _ member => member) fun _ => trivial)
          fun _ => keeps_pure _
      · exact .bind (keeps_drop waited).with fun _ => keeps_pure _
    | registry | view | cluster | stream | projected | probe | balancer | feed | resolver | picks =>
      exact (keeps_pure _).with
  | resolve resolver name =>
    refine keeps_withResolver fun id service => ?_
    -- A resolver that is over refuses, and nothing is named.
    cases service.resolver.terminalError? with
    | some error => exact keeps_pure _
    | none =>
      exact .bind (keeps_put (.picks id .fresh) rfl trivial name) fun _ => keeps_pure _
  | nextPick stream =>
    refine keeps_named (keeps_pure _) fun object => ?_
    -- Only a stream of picks is polled; at its end it goes, and else it stays.
    cases object with
    | picks id waiting =>
      refine .bind (leads_onFabric fun fabric => fabric.evolvesTo_pollPicks id waiting)
        fun answer => ?_
      dsimp only
      split
      · exact .bind (keepsWith_forget rfl rfl) fun _ => keeps_pure _
      · exact .bind (keepsWith_update rfl (fun _ member => member) fun _ => trivial)
          fun _ => keeps_pure _
    | registry | view | cluster | stream | projected | probe | balancer | feed | resolver | pick =>
      exact (keeps_pure _).with
  | close resolver =>
    refine keeps_withResolver fun id _ => ?_
    exact .bind (keeps_onFabric fun fabric => fabric.evolvesTo_close id) fun _ => keeps_pure _
  | inspect resolver =>
    refine keeps_withResolver fun id service => ?_
    exact .bind .get fun _ => .pure fun _ seen => seen.1

end PeerCluster
