import PeerCluster.Proofs.Fabric.Scheduling
import PeerCluster.Proofs.Fabric.Sound

/-! What a turn does: one service works through its stream, and nobody else notices. -/

namespace PeerCluster.Fabric

variable {strict : Nat → Projection → Prop} {fabric result : Fabric}

/-! ### What is put back -/

/-- Nobody is woken when one stream and the service that follows it have changed. -/
theorem wake_of_put (sound : fabric.Sound strict) (idle : fabric.Idle) {id : Nat}
    {service : Service} (found : fabric.services[id]? = some service)
    {registryId subscription : Nat} {projection : Projection}
    (source : service.source = .membership registryId subscription projection)
    (inside : registryId < fabric.registries.length) {left : Registry}
    (differs : (fabric.registry registryId).DiffersAt subscription left) {changed : Fabric}
    (registries : changed.registries = fabric.registries.set registryId left)
    (feeds : changed.feeds = fabric.feeds) {worked : Service}
    (services : changed.services = fabric.services.set id worked)
    (awake : worked.task ≠ .parked) : changed.wake = changed := by
  have known : id < fabric.services.length := (List.getElem?_eq_some_iff.mp found).1
  refine wake_of_idle (idle_of_put sound idle found source inside differs registries feeds ?_ ?_)
  · intro other different
    rw [services, List.getElem?_set_ne (Ne.symm different)]
  · intro again met parked
    rw [services, List.getElem?_set_self known] at met
    exact absurd (Option.some.inj met ▸ parked) awake

/-- A driver that read all its items puts back what it worked on, and at the end lets go. -/
theorem settle_value {α : Type} (fabric : Fabric) (id : Nat) (service : Service)
    {consumed : Resolver.Consumed α} (read : consumed.unread? = none) (tail : DrainTail) :
    (fabric.settle id service consumed tail).value =
      let settled := (fabric.setBalancer service.balancer consumed.balancer).setService id
        { service with resolver := consumed.resolver, task := phaseAfter tail }
      match tail with
      | .finished => (settled.letGo service.source).value
      | .pending | .limit => settled := by
  -- The three tails differ only in whether the source is let go of.
  unfold settle
  rw [read]
  cases tail <;> rfl

/-- Whoever has read all that was taken from its stream puts back what is left of that stream. -/
theorem settle_drained {α : Type} (sound : fabric.Sound strict) (idle : fabric.Idle) {id : Nat}
    {service : Service} (found : fabric.services[id]? = some service)
    {registryId subscription : Nat} {projection : Projection}
    (source : service.source = .membership registryId subscription projection)
    (ready : service.task = .ready) (inside : registryId < fabric.registries.length)
    {left : Registry} (differs : (fabric.registry registryId).DiffersAt subscription left)
    {consumed : Resolver.Consumed α} (read : consumed.unread? = none) (tail : DrainTail) :
    ((fabric.setRegistry registryId left).settle id service consumed tail).value =
      fabric.put registryId (leftAfter subscription left tail) service.balancer consumed.balancer
        id { service with resolver := consumed.resolver, task := phaseAfter tail } := by
  -- Taking from the stream wakes nobody, and neither does its end.
  have unchanged : fabric.services = fabric.services.set id service := by
    obtain ⟨inside, same⟩ := List.getElem?_eq_some_iff.mp found
    rw [← same, List.set_getElem_self]
  have taken : fabric.setRegistry registryId left =
      { fabric with registries := fabric.registries.set registryId left } :=
    wake_of_put sound idle found source inside differs rfl rfl unchanged (by simp [ready])
  rw [taken, settle_value _ _ _ read]
  cases tail with
  | pending => rfl
  | limit => rfl
  | finished =>
    -- The registry that is cancelled in is the one that was just put back.
    have here := getD_set fabric.registries .empty left inside registryId
    rw [if_pos rfl] at here
    have ended := differs.trans (.cancel left subscription)
    rw [source]
    dsimp only [letGo, Logged.value_map]
    show setRegistry _ registryId
      (((fabric.registries.set registryId left).getD registryId .empty).cancel
        subscription).value = _
    rw [here]
    unfold setRegistry put
    have both : (fabric.registries.set registryId left).set registryId
        (left.cancel subscription).value =
        fabric.registries.set registryId (left.cancel subscription).value := List.set_set ..
    dsimp only [setBalancer, setService]
    rw [both]
    exact wake_of_put sound idle found source inside ended rfl rfl rfl nofun

/-- A turn puts back what it left of the one service whose turn it was. -/
theorem turn_eq (sound : fabric.Sound strict) (idle : fabric.Idle) {id : Nat}
    {service : Service} (found : fabric.services[id]? = some service)
    (due : service.task.isDue = true) {registryId subscription : Nat} {projection : Projection}
    (serviceSound : fabric.ServiceSound strict service registryId subscription projection) :
    ∃ left turned worked,
      (fabric.turn id).value = fabric.put registryId left service.balancer turned id worked ∧
        Handled (strict registryId projection) (fabric.registry registryId) subscription
          projection service left turned worked := by
  -- The source is known to be a stream of a registry, so the turn reads that stream.
  obtain ⟨source, registry_lt, subscription_lt, balancer_lt, serviceFollows⟩ := serviceSound
  have attached := sound.attached registryId
  obtain ⟨resolver, balancerId, _, task, owners⟩ := service
  obtain rfl : _ = EventSource.membership registryId subscription projection := source
  cases serviceFollows with
  | ceased ceased leaving =>
    -- Of the tasks without a service only those that are told to stop have a turn coming.
    obtain rfl : task = .aborted := by
      rcases leaving with aborted | finished
      · exact aborted
      · cases (show task = .finished from finished)
        cases due
    -- The balancer is not touched, so putting it back changes nothing.
    have same : fabric.balancers.set balancerId (fabric.balancer balancerId) = fabric.balancers :=
      set_getD_self _ _ _
    refine ⟨_, fabric.balancer balancerId, _, ?_, handled_cancel attached ceased⟩
    unfold put turn
    dsimp only
    rw [found, same]
    exact wake_of_put sound idle found rfl registry_lt (.cancel _ subscription) rfl rfl rfl nofun
  | serving serving open_ catchesUp onStream =>
    -- A service that still serves has a turn coming only if it is ready, and then it listens.
    obtain ⟨rfl, listens⟩ : task = .ready ∧ (fabric.registry registryId).listens subscription := by
      change TaskOnStream _ _ task at onStream
      cases onStream with
      | parked => cases due
      | ready listens => exact ⟨rfl, listens⟩
      | finished => cases due
    -- A turn is long enough for everything that is replayed, and for some more.
    have positive : 0 < (fabric.registry registryId).replaying subscription + turnLimit :=
      Nat.add_pos_right _ (by decide)
    obtain ⟨read, handled⟩ :=
      handled_drain attached serving open_ catchesUp listens positive
    refine ⟨_, _, _, ?_, handled⟩
    have differs : (fabric.registry registryId).DiffersAt subscription
        ((fabric.registry registryId).drain subscription
          (some ((fabric.registry registryId).replaying subscription + turnLimit))).2 :=
      .drain _ subscription _
    rw [← settle_drained sound idle found rfl rfl registry_lt differs read]
    unfold turn
    rw [found]
    rfl

/-! ### Services that go on -/

/-- A service goes on as it was; once its task is through with its stream, its pool stays too. -/
def Persists (fabric result : Fabric) (id : Nat) : Prop :=
  ∀ service, fabric.services[id]? = some service → ∃ later, result.services[id]? = some later ∧
    later.balancer = service.balancer ∧ later.source = service.source ∧
    later.resolver.status = service.resolver.status ∧
    (service.task = .finished → later.task = .finished ∧
      (result.balancer service.balancer).pool = (fabric.balancer service.balancer).pool)

namespace Persists

/-- A service goes on when nothing happens. -/
theorem refl (fabric : Fabric) (id : Nat) : fabric.Persists fabric id :=
  fun service found => ⟨service, found, rfl, rfl, rfl, fun finished => ⟨finished, rfl⟩⟩

/-- A service that goes on twice goes on. -/
theorem trans {last : Fabric} {id : Nat} (first : fabric.Persists result id)
    (second : result.Persists last id) : fabric.Persists last id := by
  -- The services found after each step are put in a row, field by field.
  intro service found
  obtain ⟨middle, met, balancer, source, status, through⟩ := first service found
  obtain ⟨later, again, balancer', source', status', through'⟩ := second middle met
  refine ⟨later, again, balancer'.trans balancer, source'.trans source, status'.trans status, ?_⟩
  intro finished
  obtain ⟨still, pool⟩ := through finished
  obtain ⟨still', pool'⟩ := through' still
  rw [balancer] at pool'
  exact ⟨still', pool'.trans pool⟩

end Persists

/-! ### What a turn comes to -/

section Put

variable {id registryId subscription : Nat} {projection : Projection} {service worked : Service}
  {left : Registry} {turned : RoundRobin}

/-- After a turn no task waits in vain. -/
theorem Idle.put (idle : fabric.Idle) (sound : fabric.Sound strict)
    (found : fabric.services[id]? = some service)
    (serviceSound : fabric.ServiceSound strict service registryId subscription projection)
    (handled : Handled (strict registryId projection) (fabric.registry registryId) subscription
      projection service left turned worked) :
    (fabric.put registryId left service.balancer turned id worked).Idle := by
  -- Only the service that had the turn could wait for something, and it does not.
  refine idle_of_put sound idle found serviceSound.source serviceSound.registry_lt
    handled.differs rfl rfl
    ?_ ?_
  · intro other different
    rw [services_put found, if_neg different]
  · intro again met parked
    rw [services_put found, if_pos rfl] at met
    obtain rfl := Option.some.inj met
    -- It waits with nothing left in a registry that is alive.
    obtain ⟨nothing, lives⟩ := handled.parked parked
    rw [handled.source, serviceSound.source]
    simp [hasWork, backlog, isDry, registry_put serviceSound.registry_lt, nothing, lives]

/-- Nobody else notices a turn, and who had it goes on as it was. -/
theorem persists_put (sound : fabric.Sound strict) (found : fabric.services[id]? = some service)
    (due : service.task.isDue = true) (balancer_lt : service.balancer < fabric.balancers.length)
    (handled : Handled (strict registryId projection) (fabric.registry registryId) subscription
      projection service left turned worked) (other : Nat) :
    fabric.Persists (fabric.put registryId left service.balancer turned id worked) other := by
  intro rival met
  by_cases same : other = id
  · subst same
    obtain rfl := Option.some.inj (met.symm.trans found)
    refine ⟨worked, ?_, handled.balancer, handled.source, handled.status, ?_⟩
    · rw [services_put found, if_pos rfl]
    · -- A task that is through has no turn coming.
      intro finished
      rw [finished] at due
      cases due
  · refine ⟨rival, ?_, rfl, rfl, rfl, fun finished => ⟨finished, ?_⟩⟩
    · rw [services_put found, if_neg same, met]
    · rw [balancer_put balancer_lt, if_neg (sound.apart found met same).1]

/-- The turns that another task can still use are as many as before. -/
theorem turnsLeft_put (sound : fabric.Sound strict) (found : fabric.services[id]? = some service)
    (serviceSound : fabric.ServiceSound strict service registryId subscription projection)
    (handled : Handled (strict registryId projection) (fabric.registry registryId) subscription
      projection service left turned worked) {other : Nat} (different : other ≠ id) :
    (fabric.put registryId left service.balancer turned id worked).turnsLeft other =
      fabric.turnsLeft other := by
  -- Others are found as before, so only what waits in their streams could count.
  unfold turnsLeft
  rw [services_put found, if_neg different]
  cases met : fabric.services[other]? with
  | none => rfl
  | some rival =>
    -- They take from other streams, since no two services share one.
    have apart := (sound.apart found met different).2
    rw [serviceSound.source] at apart
    obtain ⟨backlog, _⟩ := backlog_set
      (fabric.put registryId left service.balancer turned id worked)
        serviceSound.registry_lt rfl rfl
      handled.differs apart
    show _ + 1 = _ + 1
    rw [backlog]

end Put

/-- Every turn that is due comes to this. -/
theorem turn_turned (sound : fabric.Sound strict) (idle : fabric.Idle) {id : Nat}
    {others : List Nat} (lists : Lists (id :: others) fabric) :
    Turned (fun fabric => fabric.Sound strict ∧ fabric.Idle)
      (fun fabric result => ∀ other, fabric.Persists result other) fabric id others
      (fabric.turn id).value := by
  -- The turn is that of a service whose task is due, and of which everything is in order.
  obtain ⟨service, found, due⟩ := (lists.mem_iff id).mp List.mem_cons_self
  obtain ⟨registryId, subscription, projection, serviceSound⟩ := sound.serviceSound id service found
  obtain ⟨left, turned, worked, put, handled⟩ := turn_eq sound idle found due serviceSound
  obtain ⟨fresh, distinct⟩ := List.nodup_cons.mp lists.nodup
  have here : (fabric.turn id).value.services[id]? = some worked := by
    rw [put, services_put found, if_pos rfl]
  -- Whether it could use another turn is whether it has one coming.
  have ready : (fabric.turn id).value.isReady id = worked.task.isDue := by
    unfold isReady
    rw [here]
    cases task : worked.task with
    | parked | finished | ready => simp [task, TaskPhase.isDue]
    | aborted =>
      -- A turn never leaves a task that was told to stop.
      have goesOn := (handled.ready (by rw [task]; rfl)).1
      rw [task] at goesOn
      cases goesOn
  refine ⟨⟨?_, ?_⟩, ?_, ?_, ?_, ?_, ?_⟩
  · rw [put]
    exact sound.put found serviceSound handled.toReplaces
  · rw [put]
    exact idle.put sound found serviceSound handled
  · -- Nobody else's turn has come or gone, so only the one that had it is to be looked at.
    have services : (fabric.turn id).value.services = fabric.services.set id worked := by
      rw [put]
      rfl
    cases goesOn : (fabric.turn id).value.isReady id with
    | true =>
      rw [if_pos rfl]
      refine lists_of_set lists found services lists.nodup (fun _ _ => Iff.rfl) ?_
      simp [← ready, goesOn]
    | false =>
      rw [if_neg Bool.false_ne_true]
      refine lists_of_set lists found services distinct ?_ ?_
      · intro other different
        rw [List.mem_cons]
        simp [different]
      · simp [← ready, goesOn, fresh]
  · rw [put]
    rfl
  · intro other member
    have different : other ≠ id := by
      rintro rfl
      exact fresh member
    rw [put, turnsLeft_put sound found serviceSound handled different]
  · -- It goes on, so it has taken something out of its stream.
    intro goesOn
    rw [ready] at goesOn
    have less := (handled.ready goesOn).2
    unfold turnsLeft
    rw [here, found]
    show (fabric.turn id).value.backlog worked.source + 1 < fabric.backlog service.source + 1
    rw [handled.source, serviceSound.source, put]
    show ((fabric.put _ _ _ _ _ _).registry registryId).buffered subscription + 1 < _
    rw [registry_put serviceSound.registry_lt, if_pos rfl]
    exact Nat.succ_lt_succ less
  · rw [put]
    exact persists_put sound found due serviceSound.balancer_lt handled

/-- Turns keep services in order, and let every service go on. -/
theorem turnKeeps_persists :
    TurnKeeps (fun fabric => fabric.Sound strict ∧ fabric.Idle)
      (fun fabric result => ∀ id, fabric.Persists result id) where
  turned holds lists := turn_turned holds.1 holds.2 lists
  withDue due holds := ⟨holds.1.withDue due, holds.2⟩
  idle fabric _ := Persists.refl fabric
  trans first second id := (first id).trans (second id)

end PeerCluster.Fabric
