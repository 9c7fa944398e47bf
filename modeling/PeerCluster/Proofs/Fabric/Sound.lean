import PeerCluster.Proofs.Fabric.Agenda
import PeerCluster.Proofs.Fabric.Calls
import PeerCluster.Proofs.Fabric.CatchingUp

/-! Services in order, none of which notices what happens to the stream or the pool of another. -/

namespace PeerCluster.Fabric

variable {strict : Nat → Projection → Prop} {fabric : Fabric}

/-! ### Services in order -/

/-- A service follows a stream of a registry that there is, and its pool is being taken care of. -/
structure ServiceSound (strict : Nat → Projection → Prop) (fabric : Fabric) (service : Service)
    (registry subscription : Nat) (projection : Projection) : Prop where
  source : service.source = .membership registry subscription projection
  registry_lt : registry < fabric.registries.length
  subscription_lt : subscription < (fabric.registry registry).nextId
  balancer_lt : service.balancer < fabric.balancers.length
  serviceFollows : ServiceFollows (strict registry projection)
    (fabric.registry registry) subscription projection
    (fabric.balancer service.balancer) service

/-- Every service is in order, and no two of them share a balancer or a stream. -/
structure Sound (strict : Nat → Projection → Prop) (fabric : Fabric) : Prop where
  attached : ∀ id, (fabric.registry id).Attached
  balancers : (fabric.services.map (·.balancer)).Nodup
  streams : (fabric.services.map (·.source.stream?)).Nodup
  serviceSound : ∀ (id : Nat) (service : Service), fabric.services[id]? = some service →
    ∃ registry subscription projection,
      fabric.ServiceSound strict service registry subscription projection

/-- Two services at different positions have nothing in common. -/
theorem Sound.apart (sound : fabric.Sound strict) {id other : Nat} {service rival : Service}
    (found : fabric.services[id]? = some service) (met : fabric.services[other]? = some rival)
    (different : other ≠ id) :
    rival.balancer ≠ service.balancer ∧ rival.source.stream? ≠ service.source.stream? := by
  have inside : other < fabric.services.length := (List.getElem?_eq_some_iff.mp met).1
  -- What two services had in common would stand twice in a list without duplicates.
  constructor
  · intro same
    refine different ((List.getElem?_inj (by simpa using inside) sound.balancers).mp ?_)
    simp [found, met, same]
  · intro same
    refine different ((List.getElem?_inj (by simpa using inside) sound.streams).mp ?_)
    simp [found, met, same]

/-! ### Putting things back -/

/-- Puts back all that a turn of a service can change. -/
def put (fabric : Fabric) (registryId : Nat) (registry : Registry) (balancerId : Nat)
    (balancer : RoundRobin) (id : Nat) (service : Service) : Fabric :=
  { fabric with
    registries := fabric.registries.set registryId registry
    balancers := fabric.balancers.set balancerId balancer
    services := fabric.services.set id service }

/-- Another source is as full as before, and as dry, when one stream has changed. -/
theorem backlog_set (changed : Fabric) {registryId subscription : Nat} {registry : Registry}
    (inside : registryId < fabric.registries.length)
    (registries : changed.registries = fabric.registries.set registryId registry)
    (feeds : changed.feeds = fabric.feeds)
    (differs : (fabric.registry registryId).DiffersAt subscription registry)
    {source : EventSource} (apart : source.stream? ≠ some (registryId, subscription)) :
    changed.backlog source = fabric.backlog source ∧
      changed.isDry source = fabric.isDry source := by
  cases source with
  | feed feed => simp [backlog, isDry, Fabric.feed, feeds]
  | membership other id projection =>
    have found := getD_set fabric.registries .empty registry inside other
    rw [← registries] at found
    change changed.registry other = _ at found
    by_cases here : other = registryId
    -- In the registry that has changed it is another stream, and elsewhere nothing has changed.
    · subst here
      rw [if_pos rfl] at found
      have different : id ≠ subscription := by
        rintro rfl
        exact apart rfl
      simp [backlog, isDry, found, differs.lives, Registry.buffered, differs.others id different]
    · rw [if_neg here] at found
      change _ = fabric.registry other at found
      simp [backlog, isDry, found]

/-- No task waits in vain when one stream and the service that follows it have changed. -/
theorem idle_of_put (sound : fabric.Sound strict) (idle : fabric.Idle) {id : Nat}
    {service : Service} (found : fabric.services[id]? = some service)
    {registryId subscription : Nat} {projection : Projection}
    (source : service.source = .membership registryId subscription projection)
    (inside : registryId < fabric.registries.length) {left : Registry}
    (differs : (fabric.registry registryId).DiffersAt subscription left) {changed : Fabric}
    (registries : changed.registries = fabric.registries.set registryId left)
    (feeds : changed.feeds = fabric.feeds)
    (others : ∀ other, other ≠ id → changed.services[other]? = fabric.services[other]?)
    (own : ∀ worked, changed.services[id]? = some worked → worked.task = .parked →
      changed.hasWork worked.source = false) : changed.Idle := by
  intro other rival met parked
  by_cases same : other = id
  · subst same
    exact own rival met parked
  · -- The other service has another stream, in which nothing has changed.
    rw [others other same] at met
    have apart := (sound.apart found met same).2
    rw [source] at apart
    obtain ⟨backlog, isDry⟩ := backlog_set changed inside registries feeds differs apart
    unfold hasWork
    rw [backlog, isDry]
    exact idle other rival met parked

/-- The agenda plays no part in whether services are in order. -/
theorem Sound.withDue (sound : fabric.Sound strict) (due : List Nat) :
    ({ fabric with due } : Fabric).Sound strict := by
  refine ⟨sound.attached, sound.balancers, sound.streams, fun id service found => ?_⟩
  obtain ⟨registry, subscription, projection, serviceSound⟩ := sound.serviceSound id service found
  exact ⟨registry, subscription, projection, serviceSound.source, serviceSound.registry_lt,
    serviceSound.subscription_lt, serviceSound.balancer_lt, serviceSound.serviceFollows⟩

/-! ### One service replaced -/

section Put

variable {id registryId subscription : Nat} {projection : Projection} {service worked : Service}
  {left : Registry} {turned : RoundRobin}

/-- The registries after a turn. -/
theorem registry_put (inside : registryId < fabric.registries.length) (other : Nat) :
    (fabric.put registryId left service.balancer turned id worked).registry other =
      if other = registryId then left else fabric.registry other :=
  getD_set fabric.registries .empty left inside other

/-- The balancers after a turn. -/
theorem balancer_put (inside : service.balancer < fabric.balancers.length) (other : Nat) :
    (fabric.put registryId left service.balancer turned id worked).balancer other =
      if other = service.balancer then turned else fabric.balancer other :=
  getD_set fabric.balancers .empty turned inside other

/-- The services after a turn. -/
theorem services_put (found : fabric.services[id]? = some service) (other : Nat) :
    (fabric.put registryId left service.balancer turned id worked).services[other]? =
      if other = id then some worked else fabric.services[other]? :=
  getElem?_set_of_some found worked other

/-- Every service is in order when one has been replaced by what may take its place. -/
theorem Sound.put (sound : fabric.Sound strict) (found : fabric.services[id]? = some service)
    (serviceSound : fabric.ServiceSound strict service registryId subscription projection)
    (replaces : Replaces (strict registryId projection) (fabric.registry registryId) subscription
      projection service left turned worked) :
    (fabric.put registryId left service.balancer turned id worked).Sound strict := by
  obtain ⟨source, registry_lt, subscription_lt, balancer_lt, _⟩ := serviceSound
  refine ⟨?_, ?_, ?_, ?_⟩
  · intro other
    rw [registry_put registry_lt]
    split
    · exact replaces.attached
    · exact sound.attached other
  · show ((fabric.services.set id worked).map (·.balancer)).Nodup
    rw [map_services_put found (·.balancer) replaces.balancer]
    exact sound.balancers
  · show ((fabric.services.set id worked).map (·.source.stream?)).Nodup
    rw [map_services_put found (·.source.stream?) (by rw [replaces.source])]
    exact sound.streams
  · intro other rival met
    rw [services_put found] at met
    by_cases same : other = id
    · -- The service itself was replaced.
      rw [if_pos same] at met
      obtain rfl := Option.some.inj met
      refine ⟨registryId, subscription, projection, replaces.source.trans source, ?_, ?_, ?_, ?_⟩
      · simpa [Fabric.put] using registry_lt
      · rw [registry_put registry_lt, if_pos rfl, replaces.differs.nextId]
        exact subscription_lt
      · rw [replaces.balancer]
        simpa [Fabric.put] using balancer_lt
      · rw [registry_put registry_lt, if_pos rfl, replaces.balancer, balancer_put balancer_lt,
          if_pos rfl]
        exact replaces.serviceFollows
    · -- Every other one has a stream and a balancer of its own.
      rw [if_neg same] at met
      obtain ⟨otherBalancer, otherStream⟩ := sound.apart found met same
      obtain ⟨registryId', subscription', projection', source', registry_lt', subscription_lt',
        balancer_lt', serviceFollows'⟩ := sound.serviceSound other rival met
      refine ⟨registryId', subscription', projection', source', ?_, ?_, ?_, ?_⟩
      · simpa [Fabric.put] using registry_lt'
      · rw [registry_put registry_lt]
        split
        · rename_i here
          rw [replaces.differs.nextId, ← here]
          exact subscription_lt'
        · exact subscription_lt'
      · simpa [Fabric.put] using balancer_lt'
      · rw [registry_put registry_lt, balancer_put balancer_lt, if_neg otherBalancer]
        split
        -- A service that follows the same registry has another stream of it.
        · rename_i here
          subst here
          have different : subscription' ≠ subscription := by
            rintro rfl
            rw [source, source'] at otherStream
            exact otherStream rfl
          exact serviceFollows'.congr replaces.differs.members replaces.differs.lives
            (replaces.differs.others subscription' different)
        · exact serviceFollows'

end Put

end PeerCluster.Fabric
