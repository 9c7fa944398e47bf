import PeerCluster.Proofs.Fabric.PoolsKept

/-! Calls on a registry reach its followers as items, and new followers start at its members. -/

namespace PeerCluster.Fabric

variable {strict : Nat → Projection → Prop} {fabric result : Fabric}

/-! ### Waking -/

/-- A task that is through with its stream is not woken. -/
theorem woken_of_finished (fabric : Fabric) {service : Service}
    (finished : service.task = .finished) : fabric.woken service = service := by
  have asleep : fabric.wakes service = false := by simp [wakes, finished]
  unfold woken
  rw [asleep]
  rfl

/-- Every service stays in order when tasks are woken. -/
theorem Sound.wake (sound : fabric.Sound strict) : fabric.wake.Sound strict := by
  -- Balancers and sources are no part of what waking changes, so they stay distinct.
  have feature {α : Type} (of : Service → α) (same : ∀ service, of (fabric.woken service) =
      of service) : (fabric.services.map fabric.woken).map of = fabric.services.map of := by
    rw [List.map_map]
    exact List.map_congr_left fun service _ => same service
  refine ⟨sound.attached, ?_, ?_, ?_⟩
  · show ((fabric.services.map fabric.woken).map (·.balancer)).Nodup
    rw [feature (·.balancer) fun service => by rw [woken_eq]]
    exact sound.balancers
  · show ((fabric.services.map fabric.woken).map (·.source.stream?)).Nodup
    rw [feature (·.source.stream?) fun service => by rw [woken_eq]]
    exact sound.streams
  · intro id service found
    rw [getElem?_wake, Option.map_eq_some_iff] at found
    obtain ⟨before, met, rfl⟩ := found
    obtain ⟨registry, subscription, projection, serviceSound⟩ := sound.serviceSound id before met
    obtain ⟨source, registry_lt, subscription_lt, balancer_lt, serviceFollows⟩ := serviceSound
    refine ⟨registry, subscription, projection, ?_⟩
    unfold woken
    split
    · -- Whoever is woken was parked.
      rename_i wakes
      have parked : before.task = .parked := by
        unfold Fabric.wakes at wakes
        rw [Bool.and_eq_true, decide_eq_true_eq] at wakes
        exact wakes.1
      exact ⟨source, registry_lt, subscription_lt, balancer_lt, serviceFollows.woken parked⟩
    · -- Whoever is not woken stays as it was.
      exact ⟨source, registry_lt, subscription_lt, balancer_lt, serviceFollows⟩

/-- Waking tasks after a change of a source is no change to any resolver. -/
theorem poolsKept_wake (changed : Fabric) (services : changed.services = fabric.services)
    (balancers : changed.balancers = fabric.balancers) (ended : Nat → Bool) :
    fabric.PoolsKept ended changed.wake := by
  -- Each service is found where it was, with its task woken or not.
  constructor
  · intro id service found
    refine ⟨changed.woken service, ?_, ?_, ?_, .inl ⟨?_, ?_, ?_⟩⟩
    · rw [getElem?_wake, services, found]
      rfl
    · rw [woken_eq]
    · rw [woken_eq]
    · rw [woken_eq]
    · intro finished
      rw [changed.woken_of_finished finished]
      exact finished
    · show (changed.balancers.getD _ _).pool = _
      rw [balancers]
      rfl
  · -- Waking creates no service.
    intro id later found new
    have inside : id < (changed.services.map changed.woken).length :=
      (List.getElem?_eq_some_iff.mp found).1
    rw [List.length_map, services] at inside
    omega

/-! ### A call on a registry -/

section SetRegistry

variable {id : Nat} {entry : Exchange RegistryCall RegistryAnswer} {left : Registry}

/-- A call on a registry that touches the stream of no service keeps the invariant. -/
theorem callInvariant_setRegistry (invariant : fabric.CallInvariant strict)
    (inside : id < fabric.registries.length)
    (step : (fabric.registry id).Step entry left)
    (spared : ∀ subscription, entry.call.stream? = some subscription →
      fabric.hasGiven id subscription = false)
    (distinct : ∀ projection, strict id projection →
      ((fabric.registry id).members.map projection.project).Nodup) :
    (fabric.setRegistry id left).CallInvariant strict := by
  obtain ⟨sound, _, lists⟩ := invariant
  have registries := getD_set fabric.registries .empty left inside
  -- First the registry is put back, which keeps services in order; then tasks are woken.
  refine ⟨Sound.wake ⟨?_, sound.balancers, sound.streams, ?_⟩, idle_wake _, ?_⟩
  · intro other
    show ((fabric.registries.set id left).getD other .empty).Attached
    rw [registries]
    -- The registry called on is attached after the call, and the others are as before.
    split
    · exact (sound.attached id).step step
    · exact sound.attached other
  · intro other service found
    obtain ⟨registry, subscription, projection, serviceSound⟩ :=
      sound.serviceSound other service found
    obtain ⟨source, registry_lt, subscription_lt, balancer_lt, serviceFollows⟩ := serviceSound
    refine ⟨registry, subscription, projection, source, ?_, ?_, balancer_lt, ?_⟩
    · simpa using registry_lt
    · show subscription < ((fabric.registries.set id left).getD registry .empty).nextId
      rw [registries]
      split
      · -- The service follows the registry called on, which has given out as many ids at least.
        rename_i here
        subst here
        exact Nat.lt_of_lt_of_le subscription_lt step.nextId_le
      · exact subscription_lt
    · show ServiceFollows _ ((fabric.registries.set id left).getD registry .empty) _ _ _ _
      rw [registries]
      split
      · -- The stream of a service is given to its task, and the call touches no such stream.
        rename_i here
        subst here
        refine serviceFollows.step (sound.attached registry) subscription_lt step ?_
          (distinct projection)
        intro asked
        have given : fabric.hasGiven registry subscription = true := by
          unfold hasGiven
          rw [List.any_eq_true]
          refine ⟨service, List.mem_of_getElem? found, ?_⟩
          simp [source, EventSource.stream?]
        rw [spared subscription asked] at given
        cases given
      · exact serviceFollows
  · exact (show Lists fabric.due
      ({ fabric with registries := fabric.registries.set id left } : Fabric) from
      ⟨lists.nodup, lists.mem_iff⟩).wake

/-- A call on a registry is no change to any resolver yet. -/
theorem poolsKept_setRegistry (fabric : Fabric) (id : Nat) (left : Registry) (ended : Nat → Bool) :
    fabric.PoolsKept ended (fabric.setRegistry id left) := by
  unfold setRegistry
  refine poolsKept_wake _ ?_ ?_ ended
  · rfl
  · rfl

end SetRegistry

/-! ### A new service -/

/-- The invariant holds when a service is created over a stream that nobody has yet. -/
theorem callInvariant_addService (invariant : fabric.CallInvariant strict) {service : Service}
    {registry subscription : Nat} {projection : Projection}
    (serviceSound : fabric.ServiceSound strict service registry subscription projection)
    (ready : service.task = .ready)
    (ownBalancer : service.balancer ∉ fabric.services.map (·.balancer))
    (ownStream : service.source.stream? ∉ fabric.services.map (·.source.stream?)) :
    ({ fabric with
        services := fabric.services ++ [service]
        due := fabric.due ++ [fabric.services.length] } : Fabric).CallInvariant strict := by
  obtain ⟨sound, idle, lists⟩ := invariant
  refine ⟨⟨sound.attached, ?_, ?_, ?_⟩, idle_concat idle ready _, lists_concat lists ready⟩
  · -- Neither its balancer nor its stream belongs to anybody else.
    show ((fabric.services ++ [service]).map (·.balancer)).Nodup
    rw [List.map_append, List.map_singleton, ← List.concat_eq_append, List.nodup_concat]
    exact ⟨ownBalancer, sound.balancers⟩
  · show ((fabric.services ++ [service]).map (·.source.stream?)).Nodup
    rw [List.map_append, List.map_singleton, ← List.concat_eq_append, List.nodup_concat]
    exact ⟨ownStream, sound.streams⟩
  · intro id rival met
    -- The service that is found is an old one, or the new one.
    rcases before_or_newest met with before | ⟨_, rfl⟩
    · obtain ⟨registry, subscription, projection, serviceSound⟩ :=
        sound.serviceSound id rival before
      exact ⟨registry, subscription, projection, serviceSound.source, serviceSound.registry_lt,
        serviceSound.subscription_lt, serviceSound.balancer_lt, serviceSound.serviceFollows⟩
    · exact ⟨registry, subscription, projection, serviceSound.source, serviceSound.registry_lt,
        serviceSound.subscription_lt, serviceSound.balancer_lt, serviceSound.serviceFollows⟩

/-- A new service is no change to the others. -/
theorem poolsKept_addService (fabric : Fabric) {service : Service}
    (nobody : (fabric.balancer service.balancer).pool = []) (due : List Nat)
    (ended : Nat → Bool) :
    fabric.PoolsKept ended { fabric with services := fabric.services ++ [service], due } := by
  constructor
  · intro id before found
    have inside : id < fabric.services.length := (List.getElem?_eq_some_iff.mp found).1
    -- Old services are found where they were, for the new one is put last.
    exact ⟨before, (List.getElem?_append_left inside).trans found, rfl, rfl,
      .inl ⟨rfl, fun finished => finished, rfl⟩⟩
  · intro id later found new serving
    change (fabric.services ++ [service])[id]? = some later at found
    rw [List.getElem?_append_right new, List.getElem?_singleton] at found
    -- The only service past the old ones is the new one, and it has no candidate yet.
    split at found
    · obtain rfl := Option.some.inj found
      exact nobody
    · cases found

/-! ### A new follower -/

/-- A fabric in which a stream has been opened for a follower, and a balancer made for it. -/
def prepared (fabric : Fabric) (id : Nat) : Fabric :=
  (fabric.setRegistry id (fabric.registry id).subscribe.value.2).addBalancer.2

/-- A new follower, whose task has its first turn due. -/
def follower (fabric : Fabric) (id : Nat) (projection : Projection) : Service :=
  ⟨.forRole projection.label, fabric.balancers.length,
    .membership id (fabric.registry id).nextId projection, .ready, 1⟩

section Prepared

variable {id : Nat} {projection : Projection}

/-- The registry that a follower has been prepared for. -/
theorem registry_prepared (inside : id < fabric.registries.length) :
    (fabric.prepared id).registry id = (fabric.registry id).subscribe.value.2 := by
  have found := getD_set fabric.registries .empty (fabric.registry id).subscribe.value.2 inside id
  rw [if_pos rfl] at found
  exact found

/-- The balancer made for a follower has no candidate. -/
theorem balancer_prepared (fabric : Fabric) (id : Nat) :
    (fabric.prepared id).balancer fabric.balancers.length = .empty := by
  show (fabric.balancers ++ [RoundRobin.empty]).getD fabric.balancers.length .empty = .empty
  rw [getD_concat_self, List.getD_eq_getElem?_getD, List.getElem?_eq_none (Nat.le_refl _)]
  rfl

/-- Preparing for a follower is a call on its registry, and more room. -/
theorem callInvariant_prepared (invariant : fabric.CallInvariant strict)
    (inside : id < fabric.registries.length)
    (lives : (fabric.registry id).lives = true)
    (distinct : ∀ projection, strict id projection →
      ((fabric.registry id).members.map projection.project).Nodup) :
    (fabric.prepared id).CallInvariant strict :=
  (extends_addBalancer _).invariant
    (callInvariant_setRegistry invariant inside (.opened lives []) nofun distinct)

/-- Preparing for a follower is no change to any resolver. -/
theorem poolsKept_prepared (fabric : Fabric) (id : Nat) (ended : Nat → Bool) :
    fabric.PoolsKept ended (fabric.prepared id) := by
  -- Opening the stream changes no resolver, and neither does one balancer more.
  have both := (fabric.poolsKept_setRegistry id (fabric.registry id).subscribe.value.2 ended).trans
    ((extends_addBalancer _).poolsKept ended)
  simp only [Bool.or_self] at both
  exact both

/-- A service that there is once a follower has been prepared was there before, up to its task. -/
theorem mem_prepared {service : Service} (member : service ∈ (fabric.prepared id).services) :
    ∃ before ∈ fabric.services, service.balancer = before.balancer ∧
      service.source = before.source := by
  -- A service there is one from before, woken or not.
  obtain ⟨position, found⟩ := List.getElem?_of_mem member
  change (wake _).services[position]? = some service at found
  rw [getElem?_wake, Option.map_eq_some_iff] at found
  obtain ⟨before, met, rfl⟩ := found
  refine ⟨before, List.mem_of_getElem? met, ?_, ?_⟩
  · rw [woken_eq]
  · rw [woken_eq]

/-- Nobody has the balancer of a follower yet. -/
theorem balancer_unused (sound : fabric.Sound strict) :
    fabric.balancers.length ∉ (fabric.prepared id).services.map (·.balancer) := by
  intro used
  obtain ⟨service, member, same⟩ := List.mem_map.mp used
  -- Every service has a balancer among those that there were.
  obtain ⟨before, member, balancer, _⟩ := mem_prepared member
  obtain ⟨position, found⟩ := List.getElem?_of_mem member
  obtain ⟨_, _, _, serviceSound⟩ := sound.serviceSound position before found
  have inside := serviceSound.balancer_lt
  omega

/-- Nobody has the stream of a follower yet. -/
theorem stream_unused (sound : fabric.Sound strict) :
    some (id, (fabric.registry id).nextId) ∉
      (fabric.prepared id).services.map (·.source.stream?) := by
  intro used
  obtain ⟨service, member, same⟩ := List.mem_map.mp used
  obtain ⟨before, member, _, source⟩ := mem_prepared member
  obtain ⟨position, found⟩ := List.getElem?_of_mem member
  obtain ⟨registry, subscription, projection, serviceSound⟩ :=
    sound.serviceSound position before found
  rw [source, serviceSound.source] at same
  -- Whatever stream the service has was opened earlier.
  cases same
  exact Nat.lt_irrefl _ serviceSound.subscription_lt

/-- A new follower is in order. -/
theorem serviceSound_follower (inside : id < fabric.registries.length) :
    (fabric.prepared id).ServiceSound strict (fabric.follower id projection) id
      (fabric.registry id).nextId projection := by
  have registry := registry_prepared inside
  have listens : (fabric.registry id).subscribe.value.2.listens (fabric.registry id).nextId =
      true := by
    rw [Registry.listens_subscribe, if_pos rfl]
  -- The new follower takes from the stream just opened, with a balancer just made.
  refine ⟨rfl, ?_, ?_, ?_, ?_⟩
  · show id < (fabric.registries.set id _).length
    rw [List.length_set]
    exact inside
  · rw [registry, Registry.nextId_subscribe]
    exact Nat.lt_succ_self _
  · show fabric.balancers.length < (fabric.balancers ++ [_]).length
    rw [List.length_append]
    exact Nat.lt_succ_self _
  · show ServiceFollows _ _ _ _ ((fabric.prepared id).balancer fabric.balancers.length) _
    rw [registry, balancer_prepared]
    exact .serving rfl rfl (.start _ _ projection) (.ready listens)

/-- A new follower keeps the invariant; without a place to run, its stream ends again. -/
theorem follow_kept (invariant : fabric.CallInvariant strict)
    (inside : id < fabric.registries.length)
    (lives : (fabric.registry id).lives = true)
    (distinct : ∀ projection, strict id projection →
      ((fabric.registry id).members.map projection.project).Nodup)
    (projection : Projection) (runtime : Bool) (ended : Nat → Bool) :
    (fabric.follow id projection runtime).value.2.CallInvariant strict ∧
      fabric.PoolsKept ended (fabric.follow id projection runtime).value.2 := by
  have ready := callInvariant_prepared invariant inside lives distinct
  have poolsKept := fabric.poolsKept_prepared id ended
  have serviceSound : (fabric.prepared id).ServiceSound strict (fabric.follower id projection) id
      (fabric.registry id).nextId projection := serviceSound_follower inside
  have value : (fabric.follow id projection runtime).value.2 =
      ((fabric.prepared id).addService projection.label fabric.balancers.length
        (.membership id (fabric.registry id).nextId projection) runtime).value.2 := rfl
  rw [value]
  -- With a runtime the follower comes last, and without one its stream ends again.
  cases runtime with
  | true =>
    have nobody : ((fabric.prepared id).balancer (fabric.follower id projection).balancer).pool =
        [] := by
      show ((fabric.prepared id).balancer fabric.balancers.length).pool = []
      rw [balancer_prepared]
      rfl
    have both := poolsKept.trans ((fabric.prepared id).poolsKept_addService nobody
      ((fabric.prepared id).due ++ [(fabric.prepared id).services.length]) ended)
    simp only [Bool.or_self] at both
    exact ⟨callInvariant_addService ready serviceSound rfl (balancer_unused invariant.sound)
      (stream_unused invariant.sound), both⟩
  | false =>
    -- The stream has not been given to any task, so nobody misses it.
    have spared : ∀ subscription, some (fabric.registry id).nextId = some subscription →
        (fabric.prepared id).hasGiven id subscription = false := by
      rintro _ ⟨⟩
      have unused : some (id, (fabric.registry id).nextId) ∉
          (fabric.prepared id).services.map (·.source.stream?) := stream_unused invariant.sound
      simpa [hasGiven] using unused
    have both := poolsKept.trans ((fabric.prepared id).poolsKept_setRegistry id
      (((fabric.prepared id).registry id).cancel (fabric.registry id).nextId).value ended)
    simp only [Bool.or_self] at both
    refine ⟨callInvariant_setRegistry ready serviceSound.registry_lt
      (.ended (fabric.registry id).nextId [])
      spared ?_, both⟩
    rw [registry_prepared inside]
    exact distinct

end Prepared

end PeerCluster.Fabric
