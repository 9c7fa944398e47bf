import PeerCluster.Proofs.Fabric.Following
import PeerCluster.Proofs.Registry.Evolving

/-! Who holds which stream: the task of a service holds its stream until it lets go of it. -/

namespace PeerCluster

/-- The streams that the task of a service still holds, each with its registry. -/
def Service.streams (service : Service) : List (Nat × Nat) :=
  if service.task = .finished then [] else service.source.stream?.toList

namespace Fabric

open Registry

/-- The streams that tasks still hold. -/
def held (fabric : Fabric) : List (Nat × Nat) :=
  fabric.services.flatMap Service.streams

/-- Registries go on as calls make them, and no task lets go of a stream without ending it. -/
structure EvolvesTo (fabric result : Fabric) : Prop where
  size : result.registries.length = fabric.registries.length
  evolves : ∀ home, (fabric.registry home).Evolves (result.registry home)
  handles : ∀ home, (result.registry home).handles = (fabric.registry home).handles
  unheld : ∀ home id, (result.registry home).listens id = true → (home, id) ∉ result.held →
    (fabric.registry home).listens id = true ∧ (home, id) ∉ fabric.held

variable {fabric middle result : Fabric} {id : Nat} {service worked : Service}

namespace EvolvesTo

/-- Nothing is let go of when nothing happens. -/
theorem refl (fabric : Fabric) : fabric.EvolvesTo fabric :=
  ⟨rfl, fun _ => .refl _, fun _ => rfl, fun _ _ listens unheld => ⟨listens, unheld⟩⟩

/-- What is not let go of twice is not let go of. -/
theorem trans (first : fabric.EvolvesTo middle) (second : middle.EvolvesTo result) :
    fabric.EvolvesTo result := by
  -- Registries go on through both steps; what nobody holds in the end is traced back.
  refine ⟨second.size.trans first.size, fun home => ?_, fun home => ?_, ?_⟩
  · exact (first.evolves home).trans (second.evolves home)
  · exact (second.handles home).trans (first.handles home)
  · intro home stream listens unheld
    obtain ⟨listens, unheld⟩ := second.unheld home stream listens unheld
    exact first.unheld home stream listens unheld

/-- Nothing is let go of by whoever leaves registries alone, and the streams that tasks hold. -/
theorem of_held (registries : result.registries = fabric.registries)
    (held : result.held = fabric.held) : fabric.EvolvesTo result := by
  -- A registry is looked up in the list of them, which is the same.
  have same (home : Nat) : result.registry home = fabric.registry home := by
    unfold registry
    rw [registries]
  refine ⟨congrArg _ registries, fun home => ?_, fun home => ?_, ?_⟩
  · rw [same]
    exact .refl _
  · rw [same]
  · intro home stream listens unheld
    rw [same] at listens
    exact ⟨listens, held ▸ unheld⟩

end EvolvesTo

/-! ### Registries put back -/

/-- Waking tasks makes nobody let go of a stream. -/
theorem held_wake (fabric : Fabric) : fabric.wake.held = fabric.held := by
  -- A task holds its stream unless it is through, and waking does not make it so.
  have same (service : Service) : (fabric.woken service).streams = service.streams := by
    unfold woken
    split
    · -- Whoever is woken was parked.
      rename_i wakes
      have parked : service.task = .parked := by
        unfold Fabric.wakes at wakes
        rw [Bool.and_eq_true, decide_eq_true_eq] at wakes
        exact wakes.1
      simp [Service.streams, parked]
    · rfl
  rw [held, wake_eq]
  show (fabric.services.map fabric.woken).flatMap _ = _
  rw [List.flatMap_map]
  exact List.flatMap_congr fun service _ => same service

/-- A registry that was put back is found where it was, if there is such a registry at all. -/
theorem registry_setRegistry (fabric : Fabric) (home : Nat) (left : Registry) (other : Nat) :
    (fabric.setRegistry home left).registry other =
      if other = home ∧ home < fabric.registries.length then left else fabric.registry other := by
  -- Past the last registry nothing is put back, so it is found as before.
  show (fabric.registries.set home left).getD other .empty = _
  by_cases inside : home < fabric.registries.length
  · rw [getD_set _ _ _ inside]
    simp only [inside, and_true]
    rfl
  · rw [List.set_eq_of_length_le (Nat.le_of_not_lt inside), if_neg fun both => inside both.2]
    rfl

/-- There are as many registries as before when one was put back. -/
theorem size_setRegistry (fabric : Fabric) (home : Nat) (left : Registry) :
    (fabric.setRegistry home left).registries.length = fabric.registries.length :=
  List.length_set ..

/-- Putting a registry back makes no task let go of a stream. -/
theorem held_setRegistry (fabric : Fabric) (home : Nat) (left : Registry) :
    (fabric.setRegistry home left).held = fabric.held :=
  held_wake _

/-- Where there is no registry nobody listens. -/
theorem lt_of_listens {home stream : Nat} (listens : (fabric.registry home).listens stream = true) :
    home < fabric.registries.length := by
  refine Nat.lt_of_not_le fun outside => ?_
  -- Where there is no registry an empty one is found, to which nobody listens.
  have nothing : fabric.registry home = .empty := by
    unfold registry
    rw [List.getD_eq_getElem?_getD, List.getElem?_eq_none outside]
    rfl
  rw [nothing] at listens
  cases listens

/-- Nothing is let go of when a registry goes on with its handles, and nobody starts to listen. -/
theorem evolvesTo_setRegistry (home : Nat) {left : Registry}
    (evolves : (fabric.registry home).Evolves left)
    (handles : left.handles = (fabric.registry home).handles)
    (listens : ∀ id, left.listens id = true → (fabric.registry home).listens id = true) :
    fabric.EvolvesTo (fabric.setRegistry home left) := by
  have found := fabric.registry_setRegistry home left
  have held := fabric.held_setRegistry home left
  -- The one registry goes on as given, and the others stay as they are.
  refine ⟨fabric.size_setRegistry home left, fun other => ?_, fun other => ?_, ?_⟩
  · rw [found]
    split
    · rename_i here
      exact here.1 ▸ evolves
    · exact .refl _
  · rw [found]
    split
    · rename_i here
      exact here.1 ▸ handles
    · rfl
  · intro other stream listening unheld
    refine ⟨?_, held ▸ unheld⟩
    rw [found] at listening
    split at listening
    · rename_i here
      exact here.1 ▸ listens stream listening
    · exact listening

/-- Nothing is let go of by whoever only asks a stream. -/
theorem evolvesTo_drain (fabric : Fabric) (home stream limit : Nat) :
    fabric.EvolvesTo (fabric.setRegistry home
      (PeerCluster.drain (Registry.poll stream) limit (fabric.registry home)).2) := by
  -- What is asked for is taken from one stream, and handles stay in use.
  have differs := DiffersAt.drain (fabric.registry home) stream limit
  refine evolvesTo_setRegistry home (.drain _ stream limit) ?_ fun other listens => ?_
  · exact congrArg Book.handles differs.book
  · rwa [Registry.listens_drain] at listens

/-- Nothing but its own stream is let go of by whoever ends a stream. -/
theorem evolvesTo_cancel (fabric : Fabric) (home stream : Nat) :
    fabric.EvolvesTo (fabric.setRegistry home ((fabric.registry home).cancel stream).value) := by
  -- Of those who listened only this one does no more.
  refine evolvesTo_setRegistry home (.cancel _ stream) ?_ fun other listens => ?_
  · rw [cancel_frame]
  · rw [listens_cancel, Bool.and_eq_true] at listens
    exact listens.2

/-! ### Services put back -/

/-- A service that holds the same stream is put back without anything being let go of. -/
theorem held_set (found : fabric.services[id]? = some service)
    (same : worked.streams = service.streams) :
    (fabric.services.set id worked).flatMap Service.streams = fabric.held := by
  -- The streams held are listed service by service, and this one lists the same.
  unfold held
  rw [List.flatMap_def, List.flatMap_def, map_services_put found Service.streams same]

/-- A stream is held by one of the services before it is put back, or by another one after it. -/
theorem mem_held_set (found : fabric.services[id]? = some service) {stream : Nat × Nat}
    (member : stream ∈ fabric.held) :
    stream ∈ service.streams ∨
      stream ∈ (fabric.services.set id worked).flatMap Service.streams := by
  obtain ⟨rival, there, holds⟩ := List.mem_flatMap.mp member
  obtain ⟨position, met⟩ := List.getElem?_of_mem there
  -- The holder is the service that is put back, or another one at its own position.
  by_cases same : position = id
  · subst same
    obtain rfl := Option.some.inj (found.symm.trans met)
    exact .inl holds
  · refine .inr (List.mem_flatMap.mpr ⟨rival, ?_, holds⟩)
    refine List.mem_of_getElem? (i := position) ?_
    rw [getElem?_set_of_some found, if_neg same, met]

/-- Nothing is let go of by a service that is put back with its stream. -/
theorem evolvesTo_setService (found : fabric.services[id]? = some service)
    (same : worked.streams = service.streams) : fabric.EvolvesTo (fabric.setService id worked) :=
  .of_held rfl (held_set found same)

/-- Nothing is let go of when balancers change. -/
theorem evolvesTo_setBalancer (fabric : Fabric) (id : Nat) (balancer : RoundRobin) :
    fabric.EvolvesTo (fabric.setBalancer id balancer) :=
  .of_held rfl rfl

/-- Nothing is let go of when feeds change. -/
theorem evolvesTo_setFeed (fabric : Fabric) (id : Nat) (feed : Feed) :
    fabric.EvolvesTo (fabric.setFeed id feed) :=
  .of_held rfl (held_wake _)

/-- Whoever is through with its stream ends it. -/
theorem evolvesTo_finish (found : fabric.services[id]? = some service)
    (finished : worked.task = .finished) :
    fabric.EvolvesTo ((fabric.setService id worked).letGo service.source).value := by
  -- A feed is no stream of a registry, so nothing is held of it.
  cases source : service.source with
  | feed feed =>
    have silent : service.streams = [] := by simp [Service.streams, source, EventSource.stream?]
    have nothing : worked.streams = [] := if_pos finished
    exact (evolvesTo_setService found (nothing.trans silent.symm)).trans (evolvesTo_setFeed _ _ _)
  | membership home stream projection =>
    have ends := evolvesTo_cancel (fabric.setService id worked) home stream
    have given := (fabric.setService id worked).held_setRegistry home
      (((fabric.setService id worked).registry home).cancel stream).value
    show fabric.EvolvesTo ((fabric.setService id worked).setRegistry home
      (((fabric.setService id worked).registry home).cancel stream).value)
    -- What could be lost is the stream of this service, and that one is ended.
    refine ⟨ends.size, ends.evolves, ends.handles, fun other asked listens unheld => ?_⟩
    have listening := (ends.unheld other asked listens unheld).1
    refine ⟨listening, fun before => ?_⟩
    -- Waking after the end changes no holder.
    rw [given] at unheld
    rcases mem_held_set found before with own | others
    · -- The stream of the service has ended.
      have holds : (other, asked) ∈ service.source.stream?.toList := by
        unfold Service.streams at own
        split at own
        · cases own
        · exact own
      rw [source] at holds
      obtain ⟨rfl, rfl⟩ : other = home ∧ asked = stream := by
        simpa [EventSource.stream?] using holds
      have inside := lt_of_listens listening
      rw [registry_setRegistry, if_pos ⟨rfl, inside⟩, listens_cancel] at listens
      simp at listens
    · exact unheld others

/-- Nothing is let go of by a task that puts back what it worked on, unless it ends its stream. -/
theorem evolvesTo_settle {α : Type} (found : fabric.services[id]? = some service)
    (ready : service.task = .ready) (consumed : Resolver.Consumed α) (tail : DrainTail) :
    fabric.EvolvesTo (fabric.settle id service consumed tail).value := by
  refine (fabric.evolvesTo_setBalancer service.balancer consumed.balancer).trans ?_
  have met : (fabric.setBalancer service.balancer consumed.balancer).services[id]? =
      some service := found
  have finishes : (fabric.setBalancer service.balancer consumed.balancer).EvolvesTo
      (((fabric.setBalancer service.balancer consumed.balancer).setService id
        { service with resolver := consumed.resolver, task := .finished }).letGo
        service.source).value := evolvesTo_finish met rfl
  -- The driver stops at what it must refuse, or reads all and stops as its source did.
  unfold settle
  cases consumed.unread? with
  | some _ => exact finishes
  | none =>
    cases tail with
    | finished => exact finishes
    | pending => exact evolvesTo_setService met (by simp [Service.streams, ready])
    | limit => exact evolvesTo_setService met (by simp [Service.streams, ready])

/-! ### Turns -/

/-- A task whose turn has come is not woken by what it does. -/
theorem getElem?_wake_of_ready (changed : Fabric) (found : changed.services[id]? = some service)
    (ready : service.task = .ready) : changed.wake.services[id]? = some service := by
  rw [getElem?_wake, found]
  simp [woken, wakes, ready]

/-- No turn lets go of a stream without ending it. -/
theorem evolvesTo_turn (fabric : Fabric) (id : Nat) : fabric.EvolvesTo (fabric.turn id).value := by
  -- Only a task that is due does anything, and a ready one reads its source first.
  unfold turn
  cases found : fabric.services[id]? with
  | none => exact .refl fabric
  | some service =>
    dsimp only
    cases task : service.task with
    -- Without a turn coming nothing is done.
    | parked | finished => exact .refl fabric
    -- A task that is told to stop ends its stream at once.
    | aborted => exact evolvesTo_finish found rfl
    | ready =>
      cases source : service.source with
      | membership home stream projection =>
        let limit := (fabric.registry home).replaying stream + turnLimit
        have met (left : Registry) : (fabric.setRegistry home left).services[id]? = some service :=
          getElem?_wake_of_ready _ found task
        exact (fabric.evolvesTo_drain home stream limit).trans (evolvesTo_settle (met _) task _ _)
      | feed feed =>
        have met (left : Feed) : (fabric.setFeed feed left).services[id]? = some service :=
          getElem?_wake_of_ready _ found task
        dsimp only
        cases (fabric.feed feed).queue with
        -- By the kind of the feed, which makes no difference to streams of registries.
        | events waiting =>
          exact (fabric.evolvesTo_setFeed feed _).trans (evolvesTo_settle (met _) task _ _)
        | notifications waiting =>
          exact (fabric.evolvesTo_setFeed feed _).trans (evolvesTo_settle (met _) task _ _)

/-- Several turns let go of no stream without ending it. -/
theorem evolvesTo_turns (fabric : Fabric) (ids : List Nat) :
    fabric.EvolvesTo (fabric.turns ids).value.2 := by
  -- By induction on the turns.
  induction ids generalizing fabric with
  | nil => exact .refl fabric
  | cons id rest ih => exact (fabric.evolvesTo_turn id).trans (ih _)

/-- The agenda plays no part in who holds which stream. -/
theorem evolvesTo_withDue (fabric : Fabric) (due : List Nat) :
    fabric.EvolvesTo { fabric with due } :=
  .of_held rfl rfl

/-- Rounds of turns let go of no stream without ending it. -/
theorem evolvesTo_rounds (fabric : Fabric) (limit : Nat) :
    fabric.EvolvesTo (fabric.rounds limit).value := by
  -- By induction on the rounds, in which the agenda is written anew before and after.
  induction limit generalizing fabric with
  | zero => exact .refl fabric
  | succ limit ih =>
    rw [rounds]
    split
    · exact .refl fabric
    · refine EvolvesTo.trans ?_ (ih _)
      exact ((fabric.evolvesTo_withDue _).trans (evolvesTo_turns _ _)).trans (evolvesTo_withDue _ _)

/-- A run lets go of no stream without ending it. -/
theorem evolvesTo_run (fabric : Fabric) : fabric.EvolvesTo fabric.run.value :=
  fabric.evolvesTo_rounds _

/-! ### Resolvers -/

/-- Whoever closes a resolver leaves its stream to the task until its next turn. -/
theorem evolvesTo_close (fabric : Fabric) (id : Nat) :
    fabric.EvolvesTo (fabric.close id).value := by
  cases found : fabric.services[id]? with
  -- Closing without a service does nothing.
  | none =>
    unfold close
    rw [found]
    exact .refl fabric
  | some service =>
    -- The task is told to stop, and until its turn it holds the stream as before.
    rw [close_eq_touch found]
    refine .of_held rfl (held_set found ?_)
    cases task : service.task <;> simp [Service.streams, TaskPhase.stopped, task]

/-- Whoever keeps a resolver lets go of no stream. -/
theorem evolvesTo_retainService (fabric : Fabric) (id : Nat) :
    fabric.EvolvesTo (fabric.retainService id) := by
  unfold retainService
  cases found : fabric.services[id]? with
  | none => exact .refl fabric
  | some service => exact evolvesTo_setService found rfl

/-- Whoever drops a resolver lets go of no stream without ending it. -/
theorem evolvesTo_releaseService (fabric : Fabric) (id : Nat) :
    fabric.EvolvesTo (fabric.releaseService id).value := by
  unfold releaseService
  cases found : fabric.services[id]? with
  | none => exact .refl fabric
  -- One owner less changes no task; the last one closes the resolver.
  | some service =>
    have fewer : fabric.EvolvesTo (fabric.setService id
        { service with owners := service.owners - 1 }) := evolvesTo_setService found rfl
    dsimp only
    split
    · exact fewer.trans (evolvesTo_close _ id)
    · exact fewer

/-- Whoever asks for a pick lets go of no stream. -/
theorem evolvesTo_pollPick (fabric : Fabric) (id : Nat) (pick : Pick) :
    fabric.EvolvesTo (fabric.pollPick id pick).2.2 := by
  unfold pollPick
  split
  · exact .refl fabric
  · exact evolvesTo_setBalancer _ _ _

/-- Whoever asks a stream of picks lets go of no stream. -/
theorem evolvesTo_pollPicks (fabric : Fabric) (id : Nat) (stream : PickStream) :
    fabric.EvolvesTo (fabric.pollPicks id stream).2.2 := by
  unfold pollPicks
  split
  · exact .refl fabric
  · exact evolvesTo_setBalancer _ _ _

/-- Whoever fills a feed lets go of no stream. -/
theorem evolvesTo_send (fabric : Fabric) (id : Nat) (kind : NotificationKind) (target : Endpoint) :
    fabric.EvolvesTo (fabric.send id kind target).2 := by
  unfold send
  dsimp only
  split
  · exact evolvesTo_setFeed _ _ _
  · exact .refl fabric

/-- A resolver over a feed holds no stream. -/
theorem evolvesTo_addService_feed (fabric : Fabric) (role : String) (balancer feed : Nat)
    (runtime : Bool) :
    fabric.EvolvesTo (fabric.addService role balancer (.feed feed) runtime).value.2 := by
  cases runtime with
  -- A service over a feed adds no stream to those that are held.
  | true =>
    refine .of_held rfl ?_
    show (fabric.services ++ [_]).flatMap _ = _
    rw [List.flatMap_append]
    exact List.append_nil _
  | false => exact evolvesTo_setFeed _ _ _

/-- A resolver that follows a registry holds the stream that was opened for it, or it ends. -/
theorem evolvesTo_follow (home : Nat) (inside : home < fabric.registries.length)
    (lives : (fabric.registry home).lives = true) (projection : Projection) (runtime : Bool) :
    fabric.EvolvesTo (fabric.follow home projection runtime).value.2 := by
  have value : (fabric.follow home projection runtime).value.2 =
      ((fabric.prepared home).addService projection.label fabric.balancers.length
        (.membership home (fabric.registry home).nextId projection) runtime).value.2 := rfl
  have found := registry_prepared inside
  have others {other : Nat} (different : other ≠ home) :
      (fabric.prepared home).registry other = fabric.registry other :=
    (fabric.registry_setRegistry home _ other).trans (if_neg fun both => different both.1)
  have size : (fabric.prepared home).registries.length = fabric.registries.length :=
    fabric.size_setRegistry home _
  have held : (fabric.prepared home).held = fabric.held := fabric.held_setRegistry home _
  -- The registry followed is served one call, and the others are not.
  have evolves (other : Nat) :
      (fabric.registry other).Evolves ((fabric.prepared home).registry other) := by
    by_cases here : other = home
    · subst here
      rw [found]
      exact .serve lives .subscribe
    · rw [others here]
      exact .refl _
  have handles (other : Nat) :
      ((fabric.prepared home).registry other).handles = (fabric.registry other).handles := by
    by_cases here : other = home
    · subst here
      rw [found]
      rfl
    · rw [others here]
  -- Only the stream that was opened for the resolver is held by nobody yet.
  have newest (other stream : Nat)
      (listens : ((fabric.prepared home).registry other).listens stream = true) :
      (fabric.registry other).listens stream = true ∨
        other = home ∧ stream = (fabric.registry home).nextId := by
    by_cases here : other = home
    · subst here
      rw [found, listens_subscribe] at listens
      split at listens
      · rename_i same
        exact .inr ⟨rfl, same⟩
      · exact .inl listens
    · rw [others here] at listens
      exact .inl listens
  rw [value]
  cases runtime with
  -- With a runtime the new stream is held by the new service.
  | true =>
    have more : ((fabric.prepared home).addService projection.label fabric.balancers.length
        (.membership home (fabric.registry home).nextId projection) true).value.2.held =
        fabric.held ++ [(home, (fabric.registry home).nextId)] := by
      rw [← held]
      exact List.flatMap_append ..
    -- Nobody who listens is held by nobody, for the newest stream is held.
    refine ⟨size, evolves, handles, fun other stream listens unheld => ?_⟩
    rw [more] at unheld
    rcases newest other stream listens with before | ⟨rfl, rfl⟩
    · exact ⟨before, fun member => unheld (List.mem_append_left _ member)⟩
    · exact absurd (List.mem_append_right _ (List.mem_singleton_self _)) unheld
  | false =>
    -- Without a place to run the stream ends again.
    have ends := evolvesTo_cancel (fabric.prepared home) home (fabric.registry home).nextId
    refine ⟨ends.size.trans size, fun other => (evolves other).trans (ends.evolves other),
      fun other => (ends.handles other).trans (handles other),
      fun other stream listens unheld => ?_⟩
    obtain ⟨listening, before⟩ := ends.unheld other stream listens unheld
    refine ⟨?_, held ▸ before⟩
    -- The newest stream has ended, so whoever listens still did before.
    rcases newest other stream listening with old | ⟨rfl, rfl⟩
    · exact old
    · change ((setRegistry _ other (Registry.cancel _ _).value).registry other).listens _ = true
        at listens
      rw [registry_setRegistry, if_pos ⟨rfl, size ▸ inside⟩, listens_cancel] at listens
      simp at listens

end Fabric

end PeerCluster
