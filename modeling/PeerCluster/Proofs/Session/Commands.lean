import PeerCluster.Proofs.Session.Keeping

/-! Commands about registries and streams lose nothing that anybody holds. -/

namespace PeerCluster

open Registry

/-! ### Asking a registry -/

namespace Fabric

variable {fabric : Fabric} {home : Nat}

/-- A change of the membership is sent to all who listen, and nobody starts or stops to. -/
theorem evolvesTo_announce (live : (fabric.registry home).LiveAttached) {members : List PeerAddress}
    {event : MemberEvent}
    (evolves : (fabric.registry home).Evolves ((fabric.registry home).announce members event)) :
    fabric.EvolvesTo (fabric.setRegistry home ((fabric.registry home).announce members event)) := by
  -- Whoever listens to the announcement did so before it.
  refine evolvesTo_setRegistry home evolves rfl fun id listens => ?_
  rwa [live.attached.listens_announce live.lives] at listens

/-- Whoever adds a member lets go of no stream. -/
theorem evolvesTo_add (live : (fabric.registry home).LiveAttached) (peer : PeerAddress) :
    fabric.EvolvesTo (fabric.onRegistry home fun registry => registry.add peer).value.2 :=
  evolvesTo_announce live (.serve live.lives (.add peer))

/-- Whoever takes a member out, or fails to, lets go of no stream. -/
theorem evolvesTo_remove (live : (fabric.registry home).LiveAttached) (index : Nat) :
    fabric.EvolvesTo (fabric.onRegistry home fun registry => registry.remove index).value.2 := by
  have evolves := Evolves.serve live.lives (.remove index)
  show fabric.EvolvesTo (fabric.setRegistry home ((fabric.registry home).remove index).value.2)
  change (fabric.registry home).Evolves ((fabric.registry home).remove index).value.2 at evolves
  -- Nobody stands at a position behind the members, and then nothing is announced.
  cases found : (fabric.registry home).members[index]? with
  | none =>
    have left : ((fabric.registry home).remove index).value.2 = fabric.registry home := by
      unfold remove
      rw [found]
    rw [left]
    exact evolvesTo_setRegistry home (.refl _) rfl fun _ listens => listens
  | some peer =>
    have removed := (remove_of_found found).1
    rw [removed] at evolves ⊢
    exact evolvesTo_announce live evolves

/-- Whoever asks a stream for an item lets go of no stream. -/
theorem evolvesTo_poll (fabric : Fabric) (home stream : Nat) :
    fabric.EvolvesTo (fabric.setRegistry home ((fabric.registry home).poll stream).2) := by
  -- Polling takes an item from a stream, which goes on to listen as it did.
  refine evolvesTo_setRegistry home (.poll _ stream) ?_ fun id listens => ?_
  · rw [poll_frame]
  · rwa [listens_poll] at listens

end Fabric

namespace SessionAction

variable {α : Type} {origin : Fabric} {object : Slot} {name : String}

/-- What tasks and registries do without loss keeps what objects hold. -/
theorem keeps_onFabric {step : Fabric → Logged (α × Fabric)}
    (evolvesTo : ∀ fabric : Fabric, fabric.EvolvesTo (step fabric).value.2) :
    Keeps origin (onFabric step) :=
  fun session kept => kept.evolvesTo (evolvesTo session.fabric)

/-- What tasks and registries do changes no name. -/
theorem leads_onFabric {step : Fabric → Logged (α × Fabric)}
    (evolvesTo : ∀ fabric : Fabric, fabric.EvolvesTo (step fabric).value.2) :
    Leads (fun session => session.Kept origin [] ∧ session.slots.lookup name = some object)
      (onFabric step)
      fun _ session => session.Kept origin [] ∧ session.slots.lookup name = some object :=
  fun session holds => ⟨holds.1.evolvesTo (evolvesTo session.fabric), holds.2⟩

/-- What is done to a fabric without an answer, and without loss, keeps what objects hold. -/
theorem keeps_modify {change : Fabric → Fabric}
    (evolvesTo : ∀ fabric : Fabric, fabric.EvolvesTo (change fabric)) :
    Keeps origin (modify fun session => { session with fabric := change session.fabric }) :=
  fun session kept => kept.evolvesTo (evolvesTo session.fabric)

/-- What is asked of a living registry without loss keeps what objects hold. -/
theorem keepsWith_onRegistry {home : Nat} {step : Registry → Logged (α × Registry)}
    (registry : object.registry? = some home)
    (evolvesTo : ∀ fabric : Fabric, (fabric.registry home).LiveAttached →
      fabric.EvolvesTo (fabric.onRegistry home step).value.2) :
    KeepsWith origin name object (onRegistry home step) := by
  rintro session ⟨kept, found⟩
  -- The object holds a handle, so its registry is alive.
  exact kept.evolvesTo (evolvesTo _ (kept.owned.live (holders_pos_of_lookup found registry)))

/-- Whoever founds a registry has its handle until it gets a name. -/
theorem leads_found (object : Nat → Slot)
    (registry : ∀ home, Slot.registry? (object home) = some home)
    (handlesDistinct : ∀ home, (object home).HandlesDistinct) :
    Leads (Session.Kept origin []) (onFabric fun fabric => .quiet fabric.addRegistry)
      fun home => Session.Kept origin [object home] :=
  fun _ kept => kept.onFabric (kept.owned.found (registry _) (handlesDistinct _))

/-- Whoever makes one more holder out of a named one has a handle for it. -/
theorem leads_share {home : Nat} (registry : object.registry? = some home) (renamed : Slot)
    (registry' : renamed.registry? = some home) (handlesDistinct : renamed.HandlesDistinct) :
    Leads (fun session => session.Kept origin [] ∧ session.slots.lookup name = some object)
      (onRegistry home fun before => .quiet ((), before.retain))
      fun _ => Session.Kept origin [renamed] := by
  rintro session ⟨kept, found⟩
  -- The first holder is there, so one more handle of its registry can be given to the second one.
  exact kept.onFabric (kept.owned.share (holders_pos_of_lookup found registry) registry'
    handlesDistinct)

/-- Whoever opens a stream holds it until it gets a name. -/
theorem leads_openStream {home : Nat} (registry : object.registry? = some home)
    (opened : Nat → Slot) (idle : ∀ stream, Slot.registry? (opened stream) = none)
    (streams : ∀ stream, (opened stream).streams = [(home, stream)])
    (handlesDistinct : ∀ stream, (opened stream).HandlesDistinct) :
    Leads (fun session => session.Kept origin [] ∧ session.slots.lookup name = some object)
      (openStream home) fun answer => Session.Kept origin [opened answer.1] := by
  rintro session ⟨kept, found⟩
  -- The stream is the newest one of the registry, and the object is made to hold it.
  exact kept.onFabric (kept.owned.subscribe (holders_pos_of_lookup found registry) (idle _)
    (streams _) (handlesDistinct _))

/-- Looking at a stream changes nothing. -/
theorem leads_subscription {Before : Session → Prop} (home stream : Nat) :
    Leads Before (subscription home stream) fun _ => Before :=
  fun _ holds => holds

/-! ### What a name stands for -/

/-- Whoever has a handle of a registry may use it. -/
theorem keeps_withRegistry {step : Slot → Nat → SessionAction Answer}
    (keeps : ∀ object home, object.registry? = some home →
      KeepsWith origin name object (step object home)) :
    Keeps origin (withRegistry name step) := by
  refine keeps_named (keeps_pure _) fun object => ?_
  dsimp only
  -- Only objects with a handle lead on; every other one is answered as unknown.
  cases registry : object.registry? with
  | none => exact (keeps_pure _).with
  | some home => exact keeps object home registry

/-- Whoever has a stream may use it. -/
theorem keeps_withStream {step : Slot → Nat → Nat → SessionAction Answer}
    (keeps : ∀ object home stream, Keeps origin (step object home stream)) :
    Keeps origin (withStream name step) := by
  refine keeps_named (keeps_pure _) fun object => ?_
  dsimp only
  -- Only objects with a stream lead on; every other one is answered as unknown.
  cases object.subscription? with
  | none => exact (keeps_pure _).with
  | some place => exact (keeps object place.1 place.2).with

end SessionAction

open SessionAction

variable {origin : Fabric}

/-- Commands about registries and streams keep what objects hold. -/
theorem MembershipCommand.keeps_run (command : MembershipCommand) : Keeps origin command.run := by
  -- Each command names an object that is loose for a moment, or changes only the fabric.
  cases command with
  | create name =>
    refine .bind (leads_found .registry (fun _ => rfl) fun _ => trivial) fun _ => ?_
    exact .bind (leads_put name) fun _ => keeps_pure _
  | share registry name =>
    refine keeps_withRegistry fun object home held => ?_
    -- The copy of a handle can do what the original could: views and clusters share views only.
    cases object with
    | registry id =>
      refine .bind (leads_share held (.registry home) rfl trivial) fun _ => ?_
      exact .bind (leads_put name) fun _ => keeps_pure _
    | view id | cluster cluster id =>
      refine .bind (leads_share held (.view home) rfl trivial) fun _ => ?_
      exact .bind (leads_put name) fun _ => keeps_pure _
    | stream | projected | probe | balancer | feed | resolver | pick | picks => cases held
  | view registry name =>
    refine keeps_withRegistry fun object home held => ?_
    refine .bind (leads_share held (.view home) rfl trivial) fun _ => ?_
    exact .bind (leads_put name) fun _ => keeps_pure _
  | add registry peer =>
    refine keeps_withRegistry fun object home held => ?_
    have adds : KeepsWith origin registry object (onRegistry home fun before => before.add peer) :=
      keepsWith_onRegistry held fun _ live => Fabric.evolvesTo_add live peer
    -- A view is refused, so the registry is only changed for those who may.
    cases object with
    | view id => exact (keeps_pure _).with
    | registry id | cluster cluster id => exact .bind adds fun _ => keeps_pure _
    | stream | projected | probe | balancer | feed | resolver | pick | picks => cases held
  | remove registry index =>
    refine keeps_withRegistry fun object home held => ?_
    have removes : KeepsWith origin registry object
        (onRegistry home fun before => before.remove index) :=
      keepsWith_onRegistry held fun _ live => Fabric.evolvesTo_remove live index
    cases object with
    | view id => exact (keeps_pure _).with
    | registry id | cluster cluster id =>
      refine .bind removes fun result => ?_
      -- Whether the removal succeeds or not, nothing is dropped or named.
      cases result with
      | ok peer | error error => exact keeps_pure _
    | stream | projected | probe | balancer | feed | resolver | pick | picks => cases held
  | snapshot registry | describe registry =>
    refine keeps_withRegistry fun object home held => ?_
    -- The session is only looked at.
    exact .bind .get fun _ => .pure fun _ seen => seen.1.1
  | subscribe registry name =>
    refine keeps_withRegistry fun object home held => ?_
    refine .bind (leads_openStream held (.stream home) (fun _ => rfl) (fun _ => rfl)
      fun _ => trivial) fun _ => ?_
    exact .bind (leads_put name) fun _ => keeps_pure _
  | project registry projection name =>
    refine keeps_withRegistry fun object home held => ?_
    refine .bind (leads_openStream held (.projected home · projection) (fun _ => rfl)
      (fun _ => rfl) fun _ => trivial) fun _ => ?_
    exact .bind (leads_put name) fun _ => keeps_pure _
  | next stream =>
    refine keeps_withStream fun object home id => ?_
    refine .bind (keeps_onFabric fun fabric => fabric.evolvesTo_poll home id) fun _ => ?_
    -- What is answered depends on the kind of stream, and no more happens for it.
    cases object <;> exact keeps_pure _
  | drain stream limit? =>
    refine keeps_withStream fun object home id => ?_
    refine .bind (keeps_onFabric fun fabric => fabric.evolvesTo_drain home id _) fun _ => ?_
    cases object <;> exact keeps_pure _
  | cancel stream =>
    refine keeps_withStream fun object home id => ?_
    refine .bind (keeps_onFabric fun fabric => fabric.evolvesTo_cancel home id) fun _ => ?_
    exact .bind (leads_subscription home id) fun _ => keeps_pure _
  | inspect stream =>
    refine keeps_withStream fun object home id => .bind (leads_subscription home id) fun _ => ?_
    cases object <;> exact keeps_pure _
  | probe stream name =>
    refine keeps_withStream fun object home id => ?_
    -- A probe looks at a stream, and does not hold it.
    exact .bind (keeps_put (.probe home id) rfl trivial name) fun _ => keeps_pure _
  | count counted =>
    refine keeps_named (keeps_pure _) fun object => Keeps.with ?_
    -- Only a probe is counted.
    cases object with
    | probe home id => exact .bind (leads_subscription home id) fun _ => keeps_pure _
    | registry | view | cluster | stream | projected | balancer | feed | resolver | pick
      | picks => exact keeps_pure _
  | unwrap stream name =>
    refine keeps_named (keeps_pure _) fun object => ?_
    cases object with
    | projected home id projection =>
      have puts : Leads (Session.Kept origin [.projected home id projection])
          (put name (.stream home id)) fun _ => Session.Kept origin [] :=
        -- The stream holds what the projection has held.
        .weaken (leads_put name) fun _ kept =>
          ⟨kept.names, kept.owned.swap rfl (fun _ member => member) trivial⟩
      refine .bind (leads_forget stream) fun _ => .bind puts fun _ => ?_
      exact .bind (leads_subscription home id) fun _ => keeps_pure _
    | registry | view | cluster | stream | probe | balancer | feed | resolver | pick
      | picks => exact (keeps_pure _).with

end PeerCluster
