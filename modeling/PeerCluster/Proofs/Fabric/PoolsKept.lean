import PeerCluster.Proofs.Fabric.Rounds

/-! Between runs: calls that give no turns keep the invariant and leave every pool alone. -/

namespace PeerCluster.Fabric

variable {strict : Nat → Projection → Prop} {fabric result : Fabric}

/-! ### Resolvers that nobody works for -/

/-- A resolver is as open as it was, and it has neither gained nor lost a candidate. -/
structure Same (fabric result : Fabric) (service later : Service) : Prop where
  status : later.resolver.status = service.resolver.status
  through : service.task = .finished → later.task = .finished
  pool : (result.balancer service.balancer).pool = (fabric.balancer service.balancer).pool

/-- Resolvers stay the same unless they were ended, and new ones start without candidates. -/
structure PoolsKept (ended : Nat → Bool) (fabric result : Fabric) : Prop where
  kept : ∀ (id : Nat) (service : Service), fabric.services[id]? = some service →
    ∃ later, result.services[id]? = some later ∧ later.balancer = service.balancer ∧
      later.source = service.source ∧
      (fabric.Same result service later ∨ ended id = true ∧ later.resolver.status ≠ .serving)
  fresh : ∀ (id : Nat) (later : Service), result.services[id]? = some later →
    fabric.services.length ≤ id → later.resolver.status = .serving →
    (result.balancer later.balancer).pool = []

/-- The resolver of a service is not open any more. -/
def IsOver (fabric : Fabric) (id : Nat) : Prop :=
  ∃ service, fabric.services[id]? = some service ∧ service.resolver.status ≠ .serving

/-- Nothing opens a resolver again that goes on only as it was. -/
theorem IsOver.persists {id : Nat} (ceased : fabric.IsOver id)
    (persists : fabric.Persists result id) : result.IsOver id := by
  -- The service over is found again after it went on, with its status.
  obtain ⟨service, found, gone⟩ := ceased
  obtain ⟨later, again, _, _, status, _⟩ := persists service found
  rw [← status] at gone
  exact ⟨later, again, gone⟩

namespace PoolsKept

variable {ended : Nat → Bool}

/-- Resolvers stay the same when nothing happens. -/
theorem refl (ended : Nat → Bool) (fabric : Fabric) : fabric.PoolsKept ended fabric := by
  -- A service that is found stays where it is, and no new one comes.
  constructor
  · intro id service found
    exact ⟨service, found, rfl, rfl, .inl ⟨rfl, fun finished => finished, rfl⟩⟩
  · intro id later found new
    have inside : id < fabric.services.length := (List.getElem?_eq_some_iff.mp found).1
    omega

/-- Resolvers that stay the same twice, unless ended, stay the same unless ended once. -/
theorem trans {endedLater : Nat → Bool} {last : Fabric} (first : fabric.PoolsKept ended result)
    (second : result.PoolsKept endedLater last) :
    fabric.PoolsKept (fun id => ended id || endedLater id) last := by
  -- An old service is looked up after both parts, and it may be ended in either.
  constructor
  · intro id service found
    obtain ⟨middle, met, balancer, source, one⟩ := first.kept id service found
    obtain ⟨later, again, balancer', source', two⟩ := second.kept id middle met
    refine ⟨later, again, balancer'.trans balancer, source'.trans source, ?_⟩
    rcases two with same' | ⟨ceased, gone⟩
    · -- It stayed open through the second part, so the first one decides.
      rcases one with same | ⟨ceased, gone⟩
      · refine .inl ⟨same'.status.trans same.status, ?_, ?_⟩
        · exact fun finished => same'.through (same.through finished)
        · have pool := same'.pool
          rw [balancer] at pool
          exact pool.trans same.pool
      · -- Nothing opens a resolver again.
        rw [← same'.status] at gone
        exact .inr ⟨by simp [ceased], gone⟩
    · exact .inr ⟨by simp [ceased], gone⟩
  · intro id later found new serving
    by_cases known : id < result.services.length
    · -- It was created in the first part, and has stayed the same in the second.
      have met : result.services[id]? = some result.services[id] := List.getElem?_eq_getElem known
      obtain ⟨again, found', balancer, _, stayed⟩ := second.kept id _ met
      obtain rfl := Option.some.inj (found'.symm.trans found)
      rcases stayed with same | ⟨_, gone⟩
      · rw [balancer, same.pool]
        exact first.fresh id _ met new (same.status.symm.trans serving)
      · exact absurd serving gone
    · -- It was created in the second part.
      exact second.fresh id later found (Nat.le_of_not_lt known) serving

/-- A resolver goes on, or it was ended and is over. -/
theorem goesOn (poolsKept : fabric.PoolsKept ended result) (id : Nat) :
    fabric.Persists result id ∨ ended id = true ∧ result.IsOver id := by
  cases found : fabric.services[id]? with
  | none =>
    -- There is nobody yet who could go on.
    left
    intro service met
    rw [found] at met
    cases met
  | some service =>
    obtain ⟨later, again, balancer, source, stayed⟩ := poolsKept.kept id service found
    rcases stayed with same | ⟨ceased, gone⟩
    · left
      intro before met
      obtain rfl := Option.some.inj (met.symm.trans found)
      exact ⟨later, again, balancer, source, same.status,
        fun finished => ⟨same.through finished, same.pool⟩⟩
    · right
      exact ⟨ceased, later, again, gone⟩

end PoolsKept

/-! ### More room -/

/-- A fabric has grown, but nothing that is in use yet has changed. -/
structure Extends (fabric result : Fabric) : Prop where
  registries : fabric.registries.length ≤ result.registries.length
  balancers : fabric.balancers.length ≤ result.balancers.length
  feeds : fabric.feeds.length ≤ result.feeds.length
  registry : ∀ id, result.registry id = fabric.registry id
  balancer : ∀ id, result.balancer id = fabric.balancer id
  feed : ∀ id < fabric.feeds.length, result.feed id = fabric.feed id
  services : result.services = fabric.services
  due : result.due = fabric.due

/-- A new registry is room for somebody to come. -/
theorem extends_addRegistry (fabric : Fabric) : fabric.Extends fabric.addRegistry.2 := by
  -- One registry more at the end is found nowhere but there.
  refine ⟨?_, Nat.le_refl _, Nat.le_refl _, getD_concat_self _ _, fun _ => rfl, fun _ _ => rfl,
    rfl, rfl⟩
  simp [addRegistry]

/-- So is a new balancer. -/
theorem extends_addBalancer (fabric : Fabric) : fabric.Extends fabric.addBalancer.2 := by
  refine ⟨Nat.le_refl _, ?_, Nat.le_refl _, fun _ => rfl, getD_concat_self _ _, fun _ _ => rfl,
    rfl, rfl⟩
  simp [addBalancer]

/-- So is a new feed, in which items may wait already. -/
theorem extends_addFeed (fabric : Fabric) (queue : FeedQueue) :
    fabric.Extends (fabric.addFeed queue).2 := by
  refine ⟨Nat.le_refl _, Nat.le_refl _, ?_, fun _ => rfl, fun _ => rfl, fun id inside => ?_, rfl,
    rfl⟩
  · simp [addFeed]
  · show (fabric.feeds ++ [_]).getD id _ = fabric.feeds.getD id _
    rw [List.getD_eq_getElem?_getD, List.getD_eq_getElem?_getD, List.getElem?_append_left inside]

namespace Extends

/-- A service stays in order when there is more room. -/
theorem serviceSound (extends_ : fabric.Extends result) {service : Service}
    {registry subscription : Nat} {projection : Projection}
    (serviceSound : fabric.ServiceSound strict service registry subscription projection) :
    result.ServiceSound strict service registry subscription projection := by
  obtain ⟨source, registry_lt, subscription_lt, balancer_lt, serviceFollows⟩ := serviceSound
  refine ⟨source, Nat.lt_of_lt_of_le registry_lt extends_.registries, ?_,
    -- Whatever the service was given lies inside what there was before.
    Nat.lt_of_lt_of_le balancer_lt extends_.balancers, ?_⟩
  · rw [extends_.registry]
    exact subscription_lt
  · rw [extends_.registry, extends_.balancer]
    exact serviceFollows

/-- A stream is as full and as dry as before when there is more room. -/
theorem hasWork (extends_ : fabric.Extends result) (registry subscription : Nat)
    (projection : Projection) :
    result.hasWork (.membership registry subscription projection) =
      fabric.hasWork (.membership registry subscription projection) := by
  have same : result.backlog (.membership registry subscription projection) =
        fabric.backlog (.membership registry subscription projection) ∧
      result.isDry (.membership registry subscription projection) =
        fabric.isDry (.membership registry subscription projection) := by
    -- How much is buffered and whether anybody is left is asked of the same registry.
    simp [backlog, isDry, extends_.registry]
  unfold Fabric.hasWork
  rw [same.1, same.2]

/-- The invariant holds when there is more room. -/
theorem invariant (extends_ : fabric.Extends result) (invariant : fabric.CallInvariant strict) :
    result.CallInvariant strict := by
  obtain ⟨⟨attached, balancers, streams, serviceSound⟩, idle, lists⟩ := invariant
  refine ⟨⟨?_, ?_, ?_, ?_⟩, ?_, ⟨?_, ?_⟩⟩
  · -- Each part speaks of what is in use, and that has not changed.
    intro id
    rw [extends_.registry]
    exact attached id
  · rw [extends_.services]
    exact balancers
  · rw [extends_.services]
    exact streams
  · intro id service found
    rw [extends_.services] at found
    obtain ⟨registry, subscription, projection, before⟩ := serviceSound id service found
    exact ⟨registry, subscription, projection, extends_.serviceSound before⟩
  · intro id service found parked
    rw [extends_.services] at found
    obtain ⟨_, _, _, before⟩ := serviceSound id service found
    have work := idle id service found parked
    rw [before.source] at work ⊢
    rw [extends_.hasWork]
    exact work
  · rw [extends_.due]
    exact lists.nodup
  · intro id
    rw [extends_.due, extends_.services]
    exact lists.mem_iff id

/-- More room is no change to any resolver. -/
theorem poolsKept (extends_ : fabric.Extends result) (ended : Nat → Bool) :
    fabric.PoolsKept ended result := by
  constructor
  · intro id service found
    -- Every service is found with its balancer as it was.
    refine ⟨service, ?_, rfl, rfl, .inl ⟨rfl, fun finished => finished, ?_⟩⟩
    · rw [extends_.services]
      exact found
    · rw [extends_.balancer]
  · intro id later found new
    rw [extends_.services] at found
    have inside : id < fabric.services.length := (List.getElem?_eq_some_iff.mp found).1
    omega

end Extends

/-! ### One service and its balancer -/

/-- What may take the places of a service and its balancer while no turn is given. -/
structure Touches (service : Service) (pool turned : RoundRobin) (worked : Service) : Prop where
  source : worked.source = service.source
  balancer : worked.balancer = service.balancer
  serviceFollows : ∀ {strict : Prop} {registry : Registry} {subscription : Nat}
    {projection : Projection},
    ServiceFollows strict registry subscription projection pool service →
    ServiceFollows strict registry subscription projection turned worked
  /-- A task goes on as it was, or it is told to stop. -/
  task : worked.task = service.task ∨ worked.task = .aborted ∧ service.task ≠ .finished

section Touch

variable {id : Nat} {service worked : Service} {turned : RoundRobin}

/-- Putting a service and its balancer back is a turn that leaves its registry as it was. -/
theorem touch_eq (fabric : Fabric) (registryId id : Nat) (service : Service) (turned : RoundRobin)
    (worked : Service) :
    fabric.touch id service turned worked =
      { fabric.put registryId (fabric.registry registryId) service.balancer turned id worked with
        due := (fabric.touch id service turned worked).due } := by
  have same : fabric.registries.set registryId (fabric.registry registryId) = fabric.registries :=
    set_getD_self _ _ _
  -- Putting the registry back as it is found is doing nothing.
  unfold touch put
  rw [same]

/-- The invariant holds when a service and its balancer were put back. -/
theorem callInvariant_touch (invariant : fabric.CallInvariant strict)
    (found : fabric.services[id]? = some service)
    (touches : Touches service (fabric.balancer service.balancer) turned worked) :
    (fabric.touch id service turned worked).CallInvariant strict := by
  obtain ⟨sound, idle, lists⟩ := invariant
  obtain ⟨registryId, subscription, projection, serviceSound⟩ := sound.serviceSound id service found
  -- It is as after a turn that has left the registry alone.
  have unchanged : (fabric.registry registryId).DiffersAt subscription
      (fabric.registry registryId) := .refl subscription _
  refine ⟨?_, ?_, lists_touch lists found turned fun due => ?_⟩
  · rw [touch_eq fabric registryId]
    exact (sound.put found serviceSound ⟨unchanged, sound.attached registryId, touches.source,
      touches.balancer, touches.serviceFollows serviceSound.serviceFollows⟩).withDue _
  · -- A task that waits has waited before, for a source that nothing has come to since.
    have registries : (fabric.touch id service turned worked).registries =
        fabric.registries.set registryId (fabric.registry registryId) :=
      (set_getD_self _ _ _).symm
    refine idle_of_put sound idle found serviceSound.source serviceSound.registry_lt
      unchanged registries
      rfl ?_ ?_
    · intro other different
      exact (getElem?_set_of_some found worked other).trans (if_neg different)
    · intro again met parked
      change (fabric.services.set id worked)[id]? = some again at met
      rw [getElem?_set_of_some found, if_pos rfl] at met
      obtain rfl := Option.some.inj met
      rcases touches.task with same | ⟨aborted, _⟩
      · rw [same] at parked
        rw [touches.source]
        exact idle id service found parked
      · rw [aborted] at parked
        cases parked
  · -- A task that is told to stop has a turn coming.
    rcases touches.task with same | ⟨aborted, _⟩
    · rw [same]
      exact due
    · rw [aborted]
      rfl

/-- Nobody else notices when a service and its balancer were put back. -/
theorem poolsKept_touch (sound : fabric.Sound strict) (found : fabric.services[id]? = some service)
    (touches : Touches service (fabric.balancer service.balancer) turned worked)
    {ended : Nat → Bool}
    (own : worked.resolver.status = service.resolver.status ∧
        turned.pool = (fabric.balancer service.balancer).pool ∨
      ended id = true ∧ worked.resolver.status ≠ .serving) :
    fabric.PoolsKept ended (fabric.touch id service turned worked) := by
  have balancers : ∀ other, (fabric.touch id service turned worked).balancer other =
      if other = service.balancer then turned else fabric.balancer other := by
    obtain ⟨_, _, _, serviceSound⟩ := sound.serviceSound id service found
    exact getD_set fabric.balancers .empty turned serviceSound.balancer_lt
  constructor
  · intro other rival met
    have services := getElem?_set_of_some found worked other
    by_cases same : other = id
    · subst same
      obtain rfl := Option.some.inj (met.symm.trans found)
      rw [if_pos rfl] at services
      refine ⟨worked, services, touches.balancer, touches.source, ?_⟩
      -- Either nothing about the candidates has changed, or the resolver was ended.
      rcases own with ⟨status, pool⟩ | ceased
      · refine .inl ⟨status, ?_, ?_⟩
        · intro finished
          rcases touches.task with same | ⟨_, unfinished⟩
          · exact same.trans finished
          · exact absurd finished unfinished
        · rw [balancers, if_pos rfl]
          exact pool
      · exact .inr ceased
    · -- Everybody else has a balancer of their own.
      rw [if_neg same, met] at services
      refine ⟨rival, services, rfl, rfl, .inl ⟨rfl, fun finished => finished, ?_⟩⟩
      rw [balancers, if_neg (sound.apart found met same).1]
  · -- No service is added.
    intro other later met new
    have inside : other < (fabric.services.set id worked).length :=
      (List.getElem?_eq_some_iff.mp met).1
    rw [List.length_set] at inside
    omega

end Touch

end PeerCluster.Fabric
