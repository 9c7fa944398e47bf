import PeerCluster.Proofs.Fabric.Working

/-! A fabric as the home of a resolver: what is asked of it concerns nobody else. -/

namespace PeerCluster.Fabric

variable {fabric result last : Fabric} {id : Nat} {worker later : Worker} {service : Service}

/-- The feed that a service takes its changes from, if it takes them from one. -/
def feed? (fabric : Fabric) (id : Nat) : Option Nat :=
  match fabric.services[id]? with
  | some ⟨_, _, .feed feed, _, _⟩ => some feed
  | _ => none

/-- How a resolver is handled when it is kept in a fabric. -/
def handling (id : Nat) : Handling Fabric where
  front? fabric := (fabric.worker? id).map Worker.front
  send kind target fabric :=
    match fabric.feed? id with
    | some feed => fabric.send feed kind target
    | none => (false, fabric)
  hangUp fabric :=
    match fabric.feed? id with
    | some feed => fabric.setFeed feed { fabric.feed feed with sending := false }
    | none => fabric
  pollPick pick fabric := fabric.pollPick id pick
  pollPicks stream fabric := fabric.pollPicks id stream
  retain fabric := fabric.retainService id
  release fabric := (fabric.releaseService id).value
  close fabric := (fabric.close id).value

/-- One worker has become another one, and the fabric is in order after it. -/
structure Becomes (fabric : Fabric) (id : Nat) (worker : Worker) (result : Fabric) : Prop
    extends Alters fabric id worker result where
  scheduled : result.Scheduled

namespace Becomes

/-- A worker has become itself when nothing has happened. -/
theorem refl (scheduled : fabric.Scheduled) (met : fabric.worker? id = some worker) :
    fabric.Becomes id worker fabric :=
  ⟨.refl met, scheduled⟩

/-- A worker becomes another one in two steps. -/
theorem trans (first : fabric.Becomes id worker result) (second : result.Becomes id later last) :
    fabric.Becomes id later last :=
  ⟨first.toAlters.trans second.toAlters, second.scheduled⟩

end Becomes

/-! ### Single operations -/

/-- A service that is put back with its balancer is in order, if its task is as it was or stops. -/
theorem touch_becomes (scheduled : fabric.Scheduled) (found : fabric.services[id]? = some service)
    (worked : Service) (post : worked.post = service.post) (turned : RoundRobin)
    (task : worked.task = service.task ∨ worked.task = service.task.stopped) :
    fabric.Becomes id
      { fabric.workerOf service with
        resolver := worked.resolver, balancer := turned
        task := worked.task, owners := worked.owners }
      (fabric.touch id service turned worked) := by
  -- The agenda and those who wait are right if the phase is kept, or if the task is stopped.
  have alters := alters_touch scheduled.toApart found worked post turned
  refine ⟨alters, alters.apart scheduled.toApart, alters.idle scheduled.idle ?_,
    lists_touch scheduled.lists found turned fun due => ?_⟩
  · -- A task that waits has waited before, for the same source.
    intro parked
    change worked.task = .parked at parked
    have waited : service.task = .parked := by
      rcases task with same | stopped
      · rw [← same, parked]
      · rw [parked] at stopped
        cases task : service.task with
        | parked => rfl
        | ready | aborted | finished =>
          rw [task] at stopped
          cases stopped
    have before : (fabric.workerOf service).AwakeForWork :=
      idle_iff.mp scheduled.idle id _ (worker?_of_found found)
    exact before waited
  · rcases task with same | stopped
    · rw [same]
      exact due
    · rw [stopped]
      cases task : service.task with
      | parked | ready | aborted => rfl
      | finished =>
        rw [task] at due
        cases due

/-- A source that was put back wakes the task that waits for it, and no other. -/
theorem wake_becomes (scheduled : fabric.Scheduled) (found : fabric.services[id]? = some service)
    {inbox : Inbox} (alters : fabric.Alters id { fabric.workerOf service with inbox } result)
    (due : result.due = fabric.due) :
    fabric.Becomes id (Worker.wake { fabric.workerOf service with inbox }) result.wake := by
  have woken := alters.wake scheduled.idle
  refine ⟨woken, woken.apart scheduled.toApart, idle_wake result, ?_⟩
  -- Before anybody is woken the agenda is what it was.
  have before : Lists result.due result := by
    rw [due]
    refine alters.lists scheduled.lists scheduled.lists.nodup (fun _ _ => Iff.rfl) ?_
    rw [scheduled.lists.mem_iff, found]
    simp [workerOf]
  exact before.wake

/-- A pick takes a turn of the balancer of its own resolver. -/
theorem pollPick_becomes (scheduled : fabric.Scheduled) (met : fabric.worker? id = some worker)
    (pick : Pick) :
    Agree (fun result worker => fabric.Becomes id worker result) (fabric.pollPick id pick)
      (worker.pollPick pick) := by
  -- Of all that is put back, only the balancer differs from what was there.
  obtain ⟨service, found, rfl⟩ := exists_of_worker? met
  have becomes := touch_becomes scheduled found service rfl
    (pick.poll service.resolver (fabric.balancer service.balancer)).2.2 (.inl rfl)
  rw [← setBalancer_eq_touch found] at becomes
  unfold pollPick
  rw [found]
  exact ⟨rfl, rfl, becomes⟩

/-- So does a stream of picks. -/
theorem pollPicks_becomes (scheduled : fabric.Scheduled) (met : fabric.worker? id = some worker)
    (stream : PickStream) :
    Agree (fun result worker => fabric.Becomes id worker result) (fabric.pollPicks id stream)
      (worker.pollPicks stream) := by
  -- Of all that is put back, only the balancer differs from what was there.
  obtain ⟨service, found, rfl⟩ := exists_of_worker? met
  have becomes := touch_becomes scheduled found service rfl
    (stream.poll service.resolver (fabric.balancer service.balancer)).2.2 (.inl rfl)
  rw [← setBalancer_eq_touch found] at becomes
  unfold pollPicks
  rw [found]
  exact ⟨rfl, rfl, becomes⟩

/-- The number of holders concerns one resolver. -/
theorem setOwners_becomes (scheduled : fabric.Scheduled)
    (found : fabric.services[id]? = some service)
    (owners : Nat) :
    fabric.Becomes id { fabric.workerOf service with owners }
      (fabric.setService id { service with owners }) := by
  rw [setService_eq_touch fabric id service { service with owners } (Bool.and_not_self _)]
  exact touch_becomes scheduled found { service with owners } rfl _ (.inl rfl)

/-- Who closes a resolver closes no other. -/
theorem close_becomes (scheduled : fabric.Scheduled) (met : fabric.worker? id = some worker) :
    fabric.Becomes id worker.close (fabric.close id).value := by
  obtain ⟨service, found, rfl⟩ := exists_of_worker? met
  rw [close_eq_touch found]
  exact touch_becomes scheduled found
    { service with resolver := service.resolver.moveTo .closed, task := service.task.stopped } rfl
    (fabric.balancer service.balancer).shutdown (.inr rfl)

/-- Who drops a resolver closes at most that one. -/
theorem release_becomes (scheduled : fabric.Scheduled) (met : fabric.worker? id = some worker) :
    fabric.Becomes id worker.release (fabric.releaseService id).value := by
  obtain ⟨service, found, rfl⟩ := exists_of_worker? met
  have fewer := setOwners_becomes scheduled found (service.owners - 1)
  unfold releaseService Worker.release
  rw [found]
  by_cases last : service.owners = 1
  · -- The last holder closes it.
    have closed := close_becomes fewer.scheduled fewer.worker?_self
    simp only [last, workerOf, if_true] at fewer closed ⊢
    exact fewer.trans closed
  · simp only [last, workerOf, if_false]
    exact fewer

/-- An item that is filled into a feed is filled in for the one task that takes from it. -/
theorem send_becomes (scheduled : fabric.Scheduled) (met : fabric.worker? id = some worker)
    (kind : NotificationKind) (target : Endpoint) :
    ((handling id).send kind target fabric).1 = (worker.send kind target).1 ∧
      fabric.Becomes id (worker.send kind target).2 ((handling id).send kind target fabric).2 := by
  -- Nothing is filled in at a stream, nor at a feed that nobody listens to.
  obtain ⟨⟨resolver, balancer, source, task, owners⟩, found, rfl⟩ := exists_of_worker? met
  cases source with
  | membership registry subscription projection =>
    dsimp only [handling, feed?]
    rw [found]
    exact ⟨rfl, .refl scheduled met⟩
  | feed feedId =>
    let feed := fabric.feed feedId
    have filled := wake_becomes scheduled found
      (alters_setFeed scheduled.toApart found rfl
        { feed with queue := feed.queue.push kind target })
      rfl
    dsimp only [handling, feed?]
    rw [found]
    dsimp only [send, Worker.send, workerOf, inbox]
    split
    · exact ⟨rfl, filled⟩
    · exact ⟨rfl, .refl scheduled met⟩

/-- A feed that is given up is given up for the one task that takes from it. -/
theorem hangUp_becomes (scheduled : fabric.Scheduled) (met : fabric.worker? id = some worker) :
    fabric.Becomes id worker.hangUp ((handling id).hangUp fabric) := by
  -- There is nothing to give up at a stream.
  obtain ⟨⟨resolver, balancer, source, task, owners⟩, found, rfl⟩ := exists_of_worker? met
  cases source with
  | membership registry subscription projection =>
    dsimp only [handling, feed?]
    rw [found]
    exact .refl scheduled met
  | feed feedId =>
    let feed := fabric.feed feedId
    dsimp only [handling, feed?]
    rw [found]
    exact wake_becomes scheduled found
      (alters_setFeed scheduled.toApart found rfl { feed with sending := false }) rfl

/-! ### All of them -/

/-- A fabric does to the worker of one service what is done to a worker on its own. -/
theorem handling_follows (origin : Fabric) (id : Nat) :
    (handling id).Follows (fun result worker => origin.Becomes id worker result)
      Worker.handling where
  front? before := congrArg (Option.map Worker.front) before.worker?_self
  send := by
  -- Each operation is one that was shown to change one worker, after those made before it.
    intro fabric worker kind target before
    obtain ⟨accepted, becomes⟩ := send_becomes before.scheduled before.worker?_self kind target
    exact ⟨accepted, before.trans becomes⟩
  hangUp before := before.trans (hangUp_becomes before.scheduled before.worker?_self)
  pollPick := by
    intro fabric worker pick before
    obtain ⟨answer, rest, becomes⟩ := pollPick_becomes before.scheduled before.worker?_self pick
    exact ⟨answer, rest, before.trans becomes⟩
  pollPicks := by
    intro fabric worker stream before
    obtain ⟨answer, rest, becomes⟩ :=
      pollPicks_becomes before.scheduled before.worker?_self stream
    exact ⟨answer, rest, before.trans becomes⟩
  retain := by
    intro fabric worker before
    obtain ⟨service, found, rfl⟩ := exists_of_worker? before.worker?_self
    have more := setOwners_becomes before.scheduled found (service.owners + 1)
    dsimp only [handling, retainService]
    rw [found]
    exact before.trans more
  release := fun before =>
    before.trans (release_becomes before.scheduled before.worker?_self)
  close := fun before => before.trans (close_becomes before.scheduled before.worker?_self)

end PeerCluster.Fabric
