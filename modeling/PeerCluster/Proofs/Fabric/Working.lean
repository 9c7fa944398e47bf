import PeerCluster.Proofs.Fabric.Altering

/-! Turns and runs: every worker does what it would do on its own, as often as it takes. -/

namespace PeerCluster.Fabric

variable {fabric result : Fabric} {id : Nat} {worker : Worker} {service : Service}

/-! ### A turn -/

/-- A service that lets go of its source without waiting for it wakes nobody. -/
theorem letGo_alters (apart : fabric.Apart) (idle : fabric.Idle)
    (found : fabric.services[id]? = some service) (awake : service.task ≠ .parked) :
    fabric.Alters id
        { fabric.workerOf service with inbox := (fabric.inbox service.source).letGo }
        (fabric.letGo service.source).value ∧
      (fabric.letGo service.source).value.due = fabric.due := by
  -- The task does not wait, so waking those who wait for the source leaves it alone.
  have awakeForWork (inbox : Inbox) :
      ({ fabric.workerOf service with inbox } : Worker).AwakeForWork :=
    fun parked => absurd parked awake
  cases source : service.source with
  | membership registry subscription projection =>
    have known := (apart.inside service (List.mem_of_getElem? found)).2
    rw [source] at known
    have differs : (fabric.registry registry).DiffersAt subscription _ :=
      .cancel _ subscription
    have alters := alters_setStream apart found source differs (·.cancel subscription)
    have put : (fabric.letGo (.membership registry subscription projection)).value = _ :=
      wake_of_idle (alters.idle idle (awakeForWork _))
    rw [put]
    rw [Registry.cancel_subscription known, differs.lives] at alters
    exact ⟨alters, rfl⟩
  | feed feedId =>
    let feed := fabric.feed feedId
    have alters := alters_setFeed apart found source
      { feed with listening := false, queue := feed.queue.cleared }
    have put : (fabric.letGo (.feed feedId)).value = _ :=
      wake_of_idle (alters.idle idle (awakeForWork _))
    rw [put]
    exact ⟨alters, rfl⟩

/-- A service whose task is through with its source is put back, and then lets go of it. -/
theorem finish_alters (apart : fabric.Apart) (idle : fabric.Idle)
    (found : fabric.services[id]? = some service) (resolver : Resolver) (turned : RoundRobin) :
    let finished := fabric.touch id service turned
      { service with resolver, task := .finished }
    fabric.Alters id
        { fabric.workerOf service with
          resolver, balancer := turned, task := .finished
          inbox := (fabric.inbox service.source).letGo }
        (finished.letGo service.source).value ∧
      (finished.letGo service.source).value.due = fabric.due := by
  -- First the service is put back, then its source is let go of, which is still the same.
  intro finished
  have first : fabric.Alters id _ finished :=
    alters_touch apart found { service with resolver, task := .finished } rfl turned
  have there : finished.services[id]? = some { service with resolver, task := .finished } :=
    (getElem?_set_of_some found _ id).trans (if_pos rfl)
  obtain ⟨second, due⟩ := letGo_alters (first.apart apart) (first.idle idle nofun) there nofun
  have same := Option.some.inj ((worker?_of_found there).symm.trans first.worker?_self)
  have inbox : finished.inbox service.source = fabric.inbox service.source :=
    congrArg Worker.inbox same
  dsimp only at second
  rw [same, inbox] at second
  exact ⟨first.trans second, due⟩

/-- Whatever a task worked through, it is put back as the worker would put it back. -/
theorem settle_alters {α : Type} (apart : fabric.Apart) (idle : fabric.Idle)
    (found : fabric.services[id]? = some service) (due : service.task.isDue = true)
    (consumed : Resolver.Consumed α) (tail : DrainTail) :
    fabric.Alters id ((fabric.workerOf service).settle consumed tail)
        (fabric.settle id service consumed tail).value ∧
      (fabric.settle id service consumed tail).value.due = fabric.due := by
  -- Its turn is the one that is being given, so putting it back leaves the agenda alone.
  have old (worked : Service) : (worked.task.isDue && !service.task.isDue) = false := by
    rw [due, Bool.not_true, Bool.and_false]
  have puts (worked : Service) :
      (fabric.setBalancer service.balancer consumed.balancer).setService id worked =
        fabric.touch id service consumed.balancer worked := by
    unfold touch
    rw [old, if_neg Bool.false_ne_true]
    rfl
  have goesOn (task : TaskPhase) :=
    alters_touch apart found { service with resolver := consumed.resolver, task } rfl
      consumed.balancer
  have through := finish_alters apart idle found consumed.resolver consumed.balancer
  unfold settle Worker.settle
  cases consumed.unread? with
  | some unread =>
    dsimp only
    rw [puts]
    exact through
  | none =>
    cases tail with
    | finished =>
      show fabric.Alters id _ (letGo (setService _ id _) _).value ∧ _
      rw [puts]
      exact through
    | pending =>
      show fabric.Alters id _ (setService _ id _) ∧ (setService _ id _).due = _
      rw [puts]
      refine ⟨goesOn .parked, ?_⟩
      rw [← puts]
      rfl
    | limit =>
      show fabric.Alters id _ (setService _ id _) ∧ (setService _ id _).due = _
      rw [puts]
      refine ⟨goesOn .ready, ?_⟩
      rw [← puts]
      rfl

/-- What a task works through is put back first, which wakes nobody, and then the task itself. -/
theorem worked_alters {α : Type} (apart : fabric.Apart) (idle : fabric.Idle)
    (found : fabric.services[id]? = some service) (ready : service.task = .ready) {inbox : Inbox}
    {taken : Fabric} (alters : fabric.Alters id { fabric.workerOf service with inbox } taken)
    (services : taken.services = fabric.services) (due : taken.due = fabric.due)
    (consumed : Resolver.Consumed α) (tail : DrainTail) :
    fabric.Alters id (({ fabric.workerOf service with inbox } : Worker).settle consumed tail)
        (taken.wake.settle id service consumed tail).value ∧
      (taken.wake.settle id service consumed tail).value.due = fabric.due := by
  -- What was taken from wakes nobody, because the task itself is not waiting.
  have idle' : taken.Idle := alters.idle idle fun parked => by
    change service.task = .parked at parked
    rw [ready] at parked
    cases parked
  have there : taken.services[id]? = some service := by rw [services, found]
  have same := Option.some.inj ((worker?_of_found there).symm.trans alters.worker?_self)
  have settled := settle_alters (alters.apart apart) idle' there (by rw [ready]; rfl) consumed tail
  rw [same] at settled
  rw [wake_of_idle idle']
  exact ⟨alters.trans settled.1, settled.2.trans due⟩

/-- A turn makes of a worker what a turn makes of it on its own. -/
theorem turn_alters (apart : fabric.Apart) (idle : fabric.Idle)
    (met : fabric.worker? id = some worker) (due : worker.task.isDue = true) :
    fabric.Alters id worker.turn (fabric.turn id).value ∧
      (fabric.turn id).value.due = fabric.due := by
  obtain ⟨⟨resolver, balancerId, source, task, owners⟩, found, rfl⟩ := exists_of_worker? met
  cases task with
  | parked | finished => cases due
  | aborted =>
    -- It is put back first, and then lets go of its source.
    have finished := finish_alters apart idle found resolver (fabric.balancer balancerId)
    rw [← setService_eq_touch _ _ _ _ rfl] at finished
    unfold turn
    rw [found]
    exact finished
  | ready =>
    cases source with
    | membership registryId subscription projection =>
      have known := (apart.inside _ (List.mem_of_getElem? found)).2
      let limit := (fabric.registry registryId).replaying subscription + turnLimit
      have differs := Registry.DiffersAt.drain (fabric.registry registryId) subscription limit
      have alters := alters_setStream apart found rfl differs (·.drain subscription limit)
      obtain ⟨items, stored⟩ := Registry.drain_subscription known limit
      rw [stored, differs.lives] at alters
      have worked := worked_alters apart idle found rfl alters rfl rfl
        (resolver.consume (fun event => .quiet (.ok (projection.projectEvent event)))
          (fabric.balancer balancerId)
          (drain (Registry.poll subscription) limit (fabric.registry registryId)).1.items).value
        (drain (Registry.poll subscription) limit (fabric.registry registryId)).1.tail
      unfold turn
      rw [found]
      refine ⟨?_, worked.2⟩
      have replaying := replaying_eq (fabric.registry registryId) subscription
      unfold Worker.turn
      dsimp only [workerOf, inbox]
      rw [← replaying, ← items]
      exact worked.1
    | feed feedId =>
      let feed := fabric.feed feedId
      have worked (queue : FeedQueue) {α : Type} (consumed : Resolver.Consumed α) :=
        worked_alters apart idle found rfl
          (alters_setFeed apart found rfl { feed with queue }) rfl rfl consumed
          (if feed.sending then .pending else .finished)
      unfold turn Worker.turn
      rw [found]
      dsimp only [workerOf, inbox]
      cases (fabric.feed feedId).queue with
      | events waiting => exact worked (.events []) _
      | notifications waiting => exact worked (.notifications _) _

/-! ### Runs -/

/-- Services are apart from each other, none waits in vain, and the agenda names those due. -/
structure Scheduled (fabric : Fabric) : Prop extends Apart fabric where
  idle : fabric.Idle
  lists : Lists fabric.due fabric

/-- Every worker was given a number of turns, and only sources that a task takes from differ. -/
structure Worked (fabric result : Fabric) : Prop
    extends Frame (fun place => ∃ id, fabric.place? id = some place) fabric result where
  worker? : ∀ id, ∃ count, result.worker? id = (fabric.worker? id).map Worker.turn^[count]

namespace Worked

/-- Nobody was given a turn when only the agenda has changed. -/
theorem withDue (fabric : Fabric) (due : List Nat) : fabric.Worked { fabric with due } := by
  refine ⟨⟨rfl, rfl, rfl, rfl, fun _ => rfl, fun _ => rfl, id, fun _ _ _ => rfl, fun _ _ => rfl⟩,
    fun id => ⟨0, ?_⟩⟩
  rw [Function.iterate_zero, Option.map_id]
  rfl

/-- Turns that were given after other turns were given after them. -/
theorem trans {last : Fabric} (first : fabric.Worked result) (second : result.Worked last) :
    fabric.Worked last := by
  -- No step changes where a task takes from, so the second one touches what the first one may.
  refine ⟨first.toFrame.trans (second.toFrame.mono ?_), fun id => ?_⟩
  · rintro place ⟨id, found⟩
    rw [first.place?] at found
    exact ⟨id, found⟩
  · obtain ⟨count, worked⟩ := first.worker? id
    obtain ⟨more, again⟩ := second.worker? id
    refine ⟨more + count, ?_⟩
    rw [again, worked, Option.map_map, Function.iterate_add]

end Worked

/-- A turn of one worker leaves the others apart, and none of them waits in vain. -/
theorem turn_worked (apart : fabric.Apart) (idle : fabric.Idle) {others : List Nat}
    (lists : Lists (id :: others) fabric) :
    Turned (fun fabric => fabric.Apart ∧ fabric.Idle) Worked fabric id others
      (fabric.turn id).value := by
  obtain ⟨worker, met, due⟩ := (lists.mem_iff_worker? id).mp List.mem_cons_self
  obtain ⟨alters, sameDue⟩ := turn_alters apart idle met due
  obtain ⟨awakeForWork, goesOn⟩ := worker.turn_spec due
  obtain ⟨fresh, distinct⟩ := List.nodup_cons.mp lists.nodup
  have differ : ∀ other ∈ others, other ≠ id := by
    rintro other member rfl
    exact fresh member
  -- Whether it could use another turn is whether it has one coming.
  have ready : (fabric.turn id).value.isReady id = worker.turn.task.isDue := by
    obtain ⟨service, found, same⟩ := exists_of_worker? alters.worker?_self
    have task : service.task = worker.turn.task := congrArg Worker.task same
    unfold isReady
    rw [found]
    show decide (service.task = .ready) = _
    rw [task]
    cases again : worker.turn.task with
    | parked | finished | ready => rfl
    | aborted =>
      have goes := (goesOn (by rw [again]; rfl)).1
      rw [again] at goes
      cases goes
  refine ⟨⟨alters.apart apart, alters.idle idle awakeForWork⟩, ?_, sameDue, ?_, ?_, ?_⟩
  · rw [ready]
    cases again : worker.turn.task.isDue with
    | true =>
      rw [if_pos rfl]
      refine alters.lists lists lists.nodup (fun _ _ => Iff.rfl) ?_
      simp [again]
    | false =>
      rw [if_neg Bool.false_ne_true]
      refine alters.lists lists distinct ?_ ?_
      · intro other different
        simp [different]
      · simp [again, fresh]
  · intro other member
    rw [turnsLeft_eq, turnsLeft_eq, alters.worker?, if_neg (differ other member)]
  · intro goes
    rw [ready] at goes
    have less := (goesOn goes).2
    rw [turnsLeft_eq, turnsLeft_eq, alters.worker?_self, met]
    exact Nat.succ_lt_succ less
  · refine ⟨alters.toFrame.mono fun place found => ⟨id, found⟩, fun other => ?_⟩
    rw [alters.worker?]
    split
    · rename_i same
      rw [same, met]
      exact ⟨1, rfl⟩
    · refine ⟨0, ?_⟩
      rw [Function.iterate_zero, Option.map_id]
      rfl

/-- Turns leave services apart, and do to every worker what turns do to it on its own. -/
theorem turnKeeps_worked :
    TurnKeeps (fun fabric => fabric.Apart ∧ fabric.Idle) Worked where
  turned holds lists := turn_worked holds.1 holds.2 lists
  withDue _ holds :=
    ⟨⟨holds.1.attached, holds.1.balancers, holds.1.places, holds.1.inside⟩, holds.2⟩
  idle := Worked.withDue
  trans := Worked.trans

/-- A run gives every worker the turns that it takes on its own. -/
theorem run_worked (scheduled : fabric.Scheduled) :
    fabric.run.value.Scheduled ∧
      Frame (fun place => ∃ id, fabric.place? id = some place) fabric fabric.run.value ∧
      ∀ id, fabric.run.value.worker? id = (fabric.worker? id).map Worker.rest := by
  have betweenBatches : fabric.BetweenBatches fun fabric => fabric.Apart ∧ fabric.Idle :=
    ⟨⟨scheduled.toApart, scheduled.idle⟩, scheduled.lists⟩
  obtain ⟨⟨⟨apart, idle⟩, lists⟩, rest, worked⟩ :=
    turnKeeps_worked.run_betweenBatches betweenBatches
  refine ⟨⟨apart, idle, lists⟩, worked.toFrame, fun id => ?_⟩
  obtain ⟨count, same⟩ := worked.worker? id
  rw [same]
  cases met : fabric.worker? id with
  | none => rfl
  | some worker =>
    -- Nobody has a turn coming after a run, so these were all the turns that it takes.
    rw [met] at same
    refine congrArg some (Worker.iterate_turn_eq_rest ?_)
    cases again : (Worker.turn^[count] worker).task.isDue with
    | false => rfl
    | true =>
      have member := (lists.mem_iff_worker? id).mpr ⟨_, same, again⟩
      rw [rest] at member
      cases member

end PeerCluster.Fabric
