import PeerCluster.Proofs.Venue.Hearing

/-! New consumers start at a registry or a feed, and those who were there before see none of it. -/

namespace PeerCluster.Fabric

variable {fabric result : Fabric} {place : Place}

/-! ### More room -/

/-- Nobody notices that there is more room. -/
theorem Extends.shifts (extends_ : fabric.Extends result) (scheduled : fabric.Scheduled) :
    Shifts none id fabric result := by
  -- All there was is found where it was, so every worker and every stream is the same.
  have places : ∀ place, fabric.HasPlace place → result.HasPlace place := by
    intro place there
    cases place with
    | stream registry subscription =>
      show _ < _
      rw [extends_.registry]
      exact there
    | feed feedId => exact Nat.lt_of_lt_of_le there extends_.feeds
  have workers : ∀ service, result.worker? service = fabric.worker? service := by
    intro service
    unfold worker?
    rw [extends_.services]
    cases found : fabric.services[service]? with
    | none => rfl
    | some present =>
      have there := (scheduled.inside present (List.mem_of_getElem? found)).2
      have inbox : result.inbox present.source = fabric.inbox present.source := by
        cases source : present.source with
        | membership registry subscription projection =>
          dsimp only [Fabric.inbox]
          rw [extends_.registry]
        | feed feedId =>
          rw [source] at there
          exact congrArg Inbox.feed (extends_.feed feedId there)
      refine congrArg some ?_
      unfold workerOf
      rw [extends_.balancer, inbox]
  refine ⟨⟨⟨?_, ?_, ?_, ?_⟩, ?_, ?_⟩, ?_⟩
  · intro registry
    rw [extends_.registry]
    exact scheduled.attached registry
  · rw [extends_.services]
    exact scheduled.balancers
  · rw [extends_.services]
    exact scheduled.places
  · intro service member
    rw [extends_.services] at member
    obtain ⟨balancer_lt, there⟩ := scheduled.inside service member
    exact ⟨Nat.lt_of_lt_of_le balancer_lt extends_.balancers, places _ there⟩
  · refine idle_iff.mpr fun service worker met => ?_
    rw [workers] at met
    exact idle_iff.mp scheduled.idle service worker met
  · rw [extends_.due]
    refine lists_of_worker? scheduled.lists.nodup fun service => ?_
    rw [scheduled.lists.mem_iff_worker?, workers]
  · intro consumer station _ shown
    cases shown with
    | @stream registry subscription projection? held known unowned =>
      have shown : result.Shows (.stream registry subscription projection? held) _ :=
        .stream (by rw [extends_.registry]; exact known) fun service => by
          unfold place?
          rw [extends_.services]
          exact unowned service
      rw [extends_.registry] at shown
      exact shown
    | @desk service ledger worker met =>
      exact .desk (by rw [workers, met])

/-! ### New streams -/

section Opening

variable {registryId : Nat}

/-- Nobody hears anything when nothing has changed. -/
theorem hear_none (scheduled : fabric.Scheduled) {consumer : Consumer} {station : Station}
    (shown : fabric.Shows consumer station) :
    station.hear registryId none (fabric.registry registryId).lives = station := by
  -- Waking is all that could happen, and nobody waits in vain.
  cases shown with
  | @stream home subscription projection? held known unowned =>
    dsimp only [Station.hear, Subscription.hear]
    by_cases here : home = registryId
    · rw [if_pos here, here]
    · rw [if_neg here]
  | @desk service ledger worker met =>
    have awakeForWork := idle_iff.mp scheduled.idle service worker met
    obtain ⟨⟨resolver, balancer, source, task, owners⟩, found, rfl⟩ := exists_of_worker? met
    refine congrArg (Station.desk · ledger) ?_
    cases source with
    | feed feedId => rfl
    | membership home subscription projection =>
      dsimp only [workerOf, inbox, Worker.hear, Subscription.hear] at awakeForWork ⊢
      by_cases here : home = registryId
      · subst here
        rw [if_pos rfl]
        exact awakeForWork.wake_eq
      · rw [if_neg here]

/-- Opening a stream is noticed by nobody else. -/
theorem subscribe_shifts (scheduled : fabric.Scheduled)
    (inside : registryId < fabric.registries.length) :
    Shifts none id fabric
      (fabric.setRegistry registryId (fabric.registry registryId).subscribe.value.2) := by
  have further : (fabric.registry registryId).nextId ≤
      (fabric.registry registryId).subscribe.value.2.nextId := by
    rw [Registry.nextId_subscribe]
    exact Nat.le_succ _
  have shifts :=
    setRegistry_shifts scheduled inside (scheduled.attached registryId).subscribe further
    none fun subscription known => by
      -- What was opened before is where it was.
      have found := Registry.getElem?_subscriptions known
      refine Registry.subscription_of_found ?_
      have different : subscription ≠ (fabric.registry registryId).subscriptions.size :=
        Nat.ne_of_lt known
      show ((fabric.registry registryId).subscriptions.push _)[subscription]? = _
      rw [Array.getElem?_push, if_neg different, found]
      rfl
  refine ⟨shifts.scheduled, fun {consumer station} spared shown => ?_⟩
  have same : (fabric.setRegistry registryId (fabric.registry registryId).subscribe.value.2).Shows
      consumer (station.hear registryId none (fabric.registry registryId).lives) :=
    shifts.station spared shown
  rw [hear_none scheduled shown] at same
  exact same

/-- The new stream starts at the members, and no task takes from it yet. -/
theorem subscribe_place (scheduled : fabric.Scheduled)
    (inside : registryId < fabric.registries.length) :
    let registry := fabric.registry registryId
    let opened := fabric.setRegistry registryId registry.subscribe.value.2
    opened.HasPlace (.stream registryId registry.nextId) ∧
      opened.Unowned (.stream registryId registry.nextId) ∧
      (opened.registry registryId).subscription registry.nextId = .startingAt registry.members ∧
      (opened.registry registryId).lives = registry.lives := by
  -- The number of the new stream is one that no task and no consumer knows yet.
  intro registry opened
  have own : opened.registry registryId = registry.subscribe.value.2 := by
    have found := registry_set inside registry.subscribe.value.2 registryId
    rw [if_pos rfl] at found
    exact found
  refine ⟨?_, ?_, ?_, ?_⟩
  · show registry.nextId < (opened.registry registryId).nextId
    rw [own, Registry.nextId_subscribe]
    exact Nat.lt_succ_self _
  · -- Whatever a task takes from was opened earlier.
    intro service taken
    have before : ({ fabric with registries := fabric.registries.set registryId _ } :
        Fabric).place? service = some (.stream registryId registry.nextId) :=
      (frame_wake (fun _ => False) _).place? service ▸ taken
    obtain ⟨present, found, place⟩ := Option.map_eq_some_iff.mp before
    have there := (scheduled.inside present (List.mem_of_getElem? found)).2
    rw [place] at there
    exact Nat.lt_irrefl _ there
  · rw [own]
    refine Registry.subscription_of_found ?_
    show (registry.subscriptions.push _)[_]? = _
    exact Array.getElem?_push_size
  · rw [own]
    rfl

/-- The new stream shows the members to whoever opened it. -/
theorem shows_subscribe (scheduled : fabric.Scheduled)
    (inside : registryId < fabric.registries.length) (projection? : Option Projection) :
    (fabric.setRegistry registryId (fabric.registry registryId).subscribe.value.2).Shows
      (.stream registryId (fabric.registry registryId).nextId projection? true)
      (.stream registryId projection? true (.startingAt (fabric.registry registryId).members)
        (fabric.registry registryId).lives) := by
  obtain ⟨known, unowned, stored, lives⟩ := subscribe_place scheduled inside
  have shown : (fabric.setRegistry registryId _).Shows
      (.stream registryId (fabric.registry registryId).nextId projection? true) _ :=
    .stream known unowned
  rw [stored, lives] at shown
  exact shown

/-- The new stream has all members to replay. -/
theorem replaying_subscribe (registry : Registry) :
    registry.subscribe.value.2.replaying registry.nextId = registry.members.length := by
  have found : registry.subscribe.value.2.subscriptions[registry.nextId]? =
      some (.startingAt registry.members) := Array.getElem?_push_size
  unfold Registry.replaying
  rw [found]
  rfl

/-- Opening a stream leaves the books alone. -/
theorem books_subscribe (fabric : Fabric) (registryId : Nat) :
    (fabric.setRegistry registryId (fabric.registry registryId).subscribe.value.2).books =
      fabric.books := by
  -- A book says nothing of streams, so putting it back changes no book.
  rw [books_setRegistry]
  refine List.ext_getElem? fun position => ?_
  rw [List.getElem?_set]
  split
  · rename_i same
    split
    · rename_i inside
      subst same
      rw [getElem?_books (by simpa using inside)]
      rfl
    · rename_i outside
      rw [← same]
      exact (List.getElem?_eq_none (Nat.le_of_not_lt outside)).symm
  · rfl

end Opening

/-! ### New services -/

/-- A source that no task takes from is let go of without anybody else noticing. -/
theorem letGo_shifts (scheduled : fabric.Scheduled) {source : EventSource}
    (there : fabric.HasPlace source.place) (unowned : fabric.Unowned source.place) :
    Shifts (some (.source source.place)) id fabric (fabric.letGo source).value ∧
      (fabric.letGo source).value.books = fabric.books := by
  -- Letting go of a stream cancels it, and letting go of a feed clears it.
  cases source with
  | membership registryId subscription projection =>
    obtain ⟨shifts, books, _⟩ := setStream_shifts scheduled there unowned
      (.cancel (fabric.registry registryId) subscription) (·.cancel subscription)
    exact ⟨shifts, books⟩
  | feed feedId =>
    let feed := fabric.feed feedId
    let left : Feed := { feed with listening := false, queue := feed.queue.cleared }
    have frame := frame_setFeed there left
    have free : ∀ place, place = .feed feedId → fabric.Unowned place :=
      fun _ same => same ▸ unowned
    obtain ⟨nobody, still, workers⟩ := scheduled_of_frame scheduled free frame rfl rfl rfl
    have put : (fabric.letGo (.feed feedId)).value = _ := nobody
    rw [put]
    exact ⟨rest_shifts_of_frame still frame (fun place same => .inr (same ▸ rfl))
      fun service _ => workers service, frame.books⟩

/-- A resolver was created over what its source has, or there was no place to run its task. -/
def Created (role : String) (inbox : Inbox) (runtime : Bool) (service : Nat)
    (created : Except ClusterError Nat × Fabric) : Prop :=
  if runtime then
    created.1 = .ok service ∧ created.2.worker? service = some (.started role inbox)
  else created.1 = .error (.runtimeUnavailable role)

/-- The workers when a service was added. -/
theorem worker?_concat (fabric : Fabric) (service : Service) (due : List Nat) (other : Nat) :
    ({ fabric with services := fabric.services ++ [service], due } : Fabric).worker? other =
      if other = fabric.services.length then some (fabric.workerOf service)
      else fabric.worker? other := by
  -- A number is that of a service from before, that of the new one, or past them all.
  show ((fabric.services ++ [service])[other]?).map fabric.workerOf = _
  by_cases newest : other = fabric.services.length
  · rw [if_pos newest, newest]
    simp
  · rw [if_neg newest]
    rcases Nat.lt_or_gt_of_ne newest with before | past
    · rw [List.getElem?_append_left before]
      rfl
    · -- Past the new service there is none.
      have outside : (fabric.services ++ [service]).length ≤ other := by
        rw [List.length_append]
        exact past
      unfold worker?
      rw [List.getElem?_eq_none outside, List.getElem?_eq_none (Nat.le_of_lt past)]

/-- A new service with a balancer and a source of its own is in order, and nobody notices. -/
theorem concat_shifts (scheduled : fabric.Scheduled) (service : Service)
    (balancer_lt : service.balancer < fabric.balancers.length)
    (ownBalancer : service.balancer ∉ fabric.services.map (·.balancer))
    (there : fabric.HasPlace service.source.place) (unowned : fabric.Unowned service.source.place)
    (ready : service.task = .ready) :
    Shifts (some (.source service.source.place)) id fabric
      { fabric with
        services := fabric.services ++ [service]
        due := fabric.due ++ [fabric.services.length] } := by
  -- The new service shares neither its balancer nor its place, and its task is due at once.
  let result : Fabric :=
    { fabric with
      services := fabric.services ++ [service]
      due := fabric.due ++ [fabric.services.length] }
  have workers : ∀ other, result.worker? other =
      if other = fabric.services.length then some (fabric.workerOf service)
      else fabric.worker? other := worker?_concat fabric service _
  have nobody : fabric.worker? fabric.services.length = none := by
    unfold worker?
    rw [List.getElem?_eq_none (Nat.le_refl _)]
    rfl
  have ownPlace : service.source.place ∉ fabric.services.map (·.source.place) := by
    intro used
    obtain ⟨rival, member, same⟩ := List.mem_map.mp used
    obtain ⟨id, found⟩ := List.getElem?_of_mem member
    refine unowned id ?_
    unfold place?
    rw [found, ← same]
    rfl
  refine ⟨⟨⟨scheduled.attached, ?_, ?_, ?_⟩, idle_concat scheduled.idle ready _,
    lists_concat scheduled.lists ready⟩, ?_⟩
  · show ((fabric.services ++ [service]).map (·.balancer)).Nodup
    rw [List.map_append, List.map_singleton, ← List.concat_eq_append, List.nodup_concat]
    exact ⟨ownBalancer, scheduled.balancers⟩
  · show ((fabric.services ++ [service]).map (·.source.place)).Nodup
    rw [List.map_append, List.map_singleton, ← List.concat_eq_append, List.nodup_concat]
    exact ⟨ownPlace, scheduled.places⟩
  · intro rival member
    rcases List.mem_append.mp member with before | newest
    · exact scheduled.inside rival before
    · obtain rfl := List.mem_singleton.mp newest
      exact ⟨balancer_lt, there⟩
  · intro consumer station spared shown
    cases shown with
    | @stream registry subscription projection? held known free =>
      refine .stream known fun other taken => ?_
      obtain ⟨rival, met, place⟩ := Option.map_eq_some_iff.mp taken
      rcases before_or_newest met with before | ⟨_, rfl⟩
      · refine free other ?_
        unfold place?
        rw [before, ← place]
        rfl
      · exact spared (congrArg (some ∘ Hold.source) place.symm)
    | @desk id ledger worker met =>
      have known : id ≠ fabric.services.length := by
        rintro rfl
        rw [nobody] at met
        cases met
      refine .desk ?_
      show result.worker? id = _
      rw [workers, if_neg known]
      exact met

/-- Adding a service over a new source is noticed by nobody else, whether or not it succeeds. -/
theorem addService_shifts (scheduled : fabric.Scheduled) (role : String) {balancer : Nat}
    {source : EventSource} (balancer_lt : balancer < fabric.balancers.length)
    (ownBalancer : balancer ∉ fabric.services.map (·.balancer))
    (nobody : fabric.balancer balancer = .empty) (there : fabric.HasPlace source.place)
    (unowned : fabric.Unowned source.place) (runtime : Bool) :
    let created := (fabric.addService role balancer source runtime).value
    Shifts (some (.source source.place)) id fabric created.2 ∧
      created.2.books = fabric.books ∧
      Created role (fabric.inbox source) runtime fabric.services.length created := by
  -- Without a place to run its task the source is let go of, and no service is added.
  cases runtime with
  | false =>
    obtain ⟨shifts, books⟩ := letGo_shifts scheduled there unowned
    exact ⟨shifts, books, rfl⟩
  | true =>
    let service : Service := ⟨.forRole role, balancer, source, .ready, 1⟩
    refine ⟨concat_shifts scheduled service balancer_lt ownBalancer there unowned rfl,
      rfl, rfl, ?_⟩
    have met := worker?_concat fabric service (fabric.due ++ [fabric.services.length])
      fabric.services.length
    rw [if_pos rfl] at met
    have started : fabric.workerOf service = .started role (fabric.inbox source) := by
      unfold workerOf Worker.started
      rw [nobody]
    rw [started] at met
    exact met

/-- A service is added with a balancer of its own, over a source that no task takes from yet. -/
theorem provide_shifts (scheduled : fabric.Scheduled) (role : String) (source : EventSource)
    (there : fabric.HasPlace source.place) (unowned : fabric.Unowned source.place)
    (runtime : Bool) :
    let created :=
      (fabric.addBalancer.2.addService role fabric.balancers.length source runtime).value
    Shifts (some (.source source.place)) id fabric created.2 ∧
      created.2.books = fabric.books ∧
      Created role (fabric.inbox source) runtime fabric.services.length created := by
  have room := (extends_addBalancer fabric).shifts scheduled
  have balancer_lt : fabric.balancers.length < fabric.addBalancer.2.balancers.length := by
    simp [addBalancer]
  have ownBalancer : fabric.balancers.length ∉ fabric.addBalancer.2.services.map (·.balancer) := by
    intro used
    obtain ⟨service, member, same⟩ := List.mem_map.mp used
    have inside := (scheduled.inside service member).1
    omega
  have nobody : fabric.addBalancer.2.balancer fabric.balancers.length = .empty := by
    show (fabric.balancers ++ [RoundRobin.empty]).getD fabric.balancers.length .empty = .empty
    rw [getD_concat_self, List.getD_eq_getElem?_getD, List.getElem?_eq_none (Nat.le_refl _)]
    rfl
  -- The new balancer is neither a source nor a service.
  have there' : fabric.addBalancer.2.HasPlace source.place := by
    cases source with
    | membership | feed => exact there
  have inbox : fabric.addBalancer.2.inbox source = fabric.inbox source := by
    cases source with
    | membership | feed => rfl
  obtain ⟨shifts, books, created⟩ := addService_shifts room.scheduled role balancer_lt ownBalancer
    nobody there' unowned runtime
  rw [inbox] at created
  exact ⟨room.trans shifts fun spared _ => ⟨Option.some_ne_none _, spared⟩, books, created⟩

/-- A resolver that follows a registry starts at its members, and nobody else notices. -/
theorem follow_shifts (scheduled : fabric.Scheduled) {registryId : Nat}
    (inside : registryId < fabric.registries.length)
    (lives : (fabric.registry registryId).lives = true) (projection : Projection)
    (runtime : Bool) :
    let created := (fabric.follow registryId projection runtime).value
    let members := (fabric.registry registryId).members
    Shifts none id fabric created.2 ∧ created.2.books = fabric.books ∧
      Created projection.label (.stream registryId projection (.startingAt members) true) runtime
        fabric.services.length created := by
  have opens := subscribe_shifts scheduled inside
  obtain ⟨known, unowned, stored, still⟩ := subscribe_place scheduled inside
  obtain ⟨shifts, books, created⟩ := provide_shifts opens.scheduled projection.label
    (.membership registryId (fabric.registry registryId).nextId projection) known unowned runtime
  dsimp only [inbox] at created
  rw [stored, still, lives] at created
  have services : (fabric.setRegistry registryId
      (fabric.registry registryId).subscribe.value.2).services.length = fabric.services.length :=
    List.length_map ..
  rw [services] at created
  refine ⟨opens.trans shifts fun _ shown => ⟨Option.some_ne_none _, ?_⟩,
    books.trans (books_subscribe fabric registryId), created⟩
  -- Whatever stream somebody holds was opened earlier.
  intro same
  cases shown with
  | stream known _ =>
    cases same
    exact Nat.lt_irrefl _ known
  | desk => cases same

/-- A resolver that takes from a feed starts at what waits there, and nobody else notices. -/
theorem consume_shifts (scheduled : fabric.Scheduled) (role : String) (queue : FeedQueue)
    (runtime : Bool) :
    let created := (fabric.consume role queue runtime).value
    Shifts none id fabric created.2 ∧ created.2.books = fabric.books ∧
      Created role (.feed ⟨queue, true, true⟩) runtime fabric.services.length created := by
  have fed := (extends_addFeed fabric queue).shifts scheduled
  have there : (fabric.addFeed queue).2.HasPlace (.feed fabric.feeds.length) := by
    show fabric.feeds.length < (fabric.feeds ++ [_]).length
    simp
  have unowned : (fabric.addFeed queue).2.Unowned (.feed fabric.feeds.length) := by
    -- Whatever a task takes from was there earlier.
    intro service taken
    obtain ⟨present, found, place⟩ := Option.map_eq_some_iff.mp taken
    have before := (scheduled.inside present (List.mem_of_getElem? found)).2
    rw [place] at before
    exact Nat.lt_irrefl _ before
  have inbox : (fabric.addFeed queue).2.inbox (.feed fabric.feeds.length) =
      .feed ⟨queue, true, true⟩ := by
    refine congrArg Inbox.feed ?_
    show (fabric.feeds ++ [_]).getD fabric.feeds.length _ = _
    rw [List.getD_eq_getElem?_getD, List.getElem?_concat_length]
    rfl
  obtain ⟨shifts, books, created⟩ := provide_shifts fed.scheduled role
    (.feed fabric.feeds.length) there unowned runtime
  rw [inbox] at created
  refine ⟨fed.trans shifts fun _ shown => ⟨Option.some_ne_none _, ?_⟩, books, created⟩
  -- Nobody holds a feed directly.
  cases shown with
  | stream | desk => nofun

end PeerCluster.Fabric
