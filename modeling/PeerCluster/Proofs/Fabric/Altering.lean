import PeerCluster.Proofs.Fabric.Workers

/-! What a turn, a request and a delivery make of one worker, while nobody else notices. -/

namespace PeerCluster

/-! ### Single subscriptions -/

namespace Registry

variable {registry left : Registry} {id : Nat}

/-- Another subscription is as it was when registries differ at one. -/
theorem DiffersAt.subscription (differs : registry.DiffersAt id left) {other : Nat}
    (different : other ≠ id) : left.subscription other = registry.subscription other := by
  -- A stream is looked up by its number, and there it differs only under one.
  unfold Registry.subscription
  rw [Array.getD_eq_getD_getElem?, Array.getD_eq_getD_getElem?, differs.others other different]

/-- A poll of a registry is a poll of one subscription. -/
theorem poll_subscription (known : id < registry.nextId) :
    (registry.poll id).1 = ((registry.subscription id).poll registry.lives).1 ∧
      (registry.poll id).2.subscription id =
        ((registry.subscription id).poll registry.lives).2 := by
  -- The stream is known, so it is the one that is polled and stored.
  have found := getElem?_subscriptions known
  constructor
  · rw [poll_eq, found]
  · have stored := registry.subscriptions_poll id id
    rw [if_pos rfl, found, Option.map_some] at stored
    exact subscription_of_found stored

/-- Asking a registry again and again is asking one subscription. -/
theorem drain_subscription (known : id < registry.nextId) (limit : Nat) :
    (PeerCluster.drain (Registry.poll id) limit registry).1 =
        (PeerCluster.drain (Subscription.poll registry.lives) limit
          (registry.subscription id)).1 ∧
      (PeerCluster.drain (Registry.poll id) limit registry).2.subscription id =
        (PeerCluster.drain (Subscription.poll registry.lives) limit
          (registry.subscription id)).2 := by
  -- Meanwhile the id stays in use, and the registry stays alive or not.
  let Alike (before : Registry) (subscription : Subscription) :=
    id < before.nextId ∧ before.lives = registry.lives ∧ before.subscription id = subscription
  have polled : ∀ {before : Registry} {subscription : Subscription}, Alike before subscription →
      (before.poll id).1 = (subscription.poll registry.lives).1 ∧
        Alike (before.poll id).2 (subscription.poll registry.lives).2 := by
    rintro before _ ⟨known, lives, rfl⟩
    obtain ⟨answer, stored⟩ := poll_subscription known
    rw [lives] at answer stored
    refine ⟨answer, ?_, (DiffersAt.poll before id).lives.trans lives, stored⟩
    rw [nextId_poll]
    exact known
  obtain ⟨items, _, _, stored⟩ := drain_alike Alike polled limit ⟨known, rfl, rfl⟩
  exact ⟨items, stored⟩

/-- The end of a subscription is what remains of it. -/
theorem cancel_subscription (known : id < registry.nextId) :
    (registry.cancel id).value.subscription id = (registry.subscription id).ended := by
  -- The stream is known, so what is stored under its number is its end.
  have found := getElem?_subscriptions known
  have stored := registry.subscriptions_cancel id id
  rw [if_pos rfl, found, Option.map_some] at stored
  exact subscription_of_found stored

/-! ### Several subscriptions -/

/-- Nothing but some of the streams, and who is attached, can tell one registry from another. -/
structure Confines (touched : Nat → Prop) (registry left : Registry) : Prop where
  book : left.book = registry.book
  nextId : left.nextId = registry.nextId
  attached : registry.Attached → left.Attached
  others : ∀ id, ¬ touched id → left.subscription id = registry.subscription id

namespace Confines

variable {touched : Nat → Prop} {registry middle left : Registry}

/-- Nothing differs when nothing happens. -/
theorem refl (touched : Nat → Prop) (registry : Registry) : Confines touched registry registry :=
  ⟨rfl, rfl, id, fun _ _ => rfl⟩

/-- What differs after two steps was touched by one of them. -/
theorem trans (first : Confines touched registry middle) (second : Confines touched middle left) :
    Confines touched registry left := by
  -- Step by step, and a stream that was touched by neither is as before both.
  refine ⟨second.book.trans first.book, second.nextId.trans first.nextId,
    second.attached ∘ first.attached, fun id spared => ?_⟩
  exact (second.others id spared).trans (first.others id spared)

/-- Whatever happens to one stream that may be touched is confined to it. -/
theorem of_differs {id : Nat} (differs : registry.DiffersAt id left) (own : touched id)
    (attached : registry.Attached → left.Attached) : Confines touched registry left := by
  refine ⟨differs.book, differs.nextId, attached, fun other spared => ?_⟩
  -- A stream that may not be touched is another one than that which was.
  exact differs.subscription fun same => spared (same ▸ own)

end Confines

end Registry

namespace Fabric

variable {fabric result : Fabric} {id : Nat} {worker : Worker} {service : Service}

/-! ### Parts of a worker -/

/-- There is a registry for every subscription. -/
theorem registry_lt_of_known {registry subscription : Nat}
    (known : subscription < (fabric.registry registry).nextId) :
    registry < fabric.registries.length := by
  refine Nat.lt_of_not_le fun outside => ?_
  -- Where there is no registry, one without subscriptions is found.
  have nobody : fabric.registry registry = .empty := by
    unfold Fabric.registry
    rw [List.getD_eq_getElem?_getD, List.getElem?_eq_none outside]
    rfl
  rw [nobody] at known
  exact Nat.not_lt_zero _ known

section Parts

variable {registryId subscription : Nat} {left : Registry}

/-- The registries when one was put back. -/
theorem registry_set (inside : registryId < fabric.registries.length) (left : Registry)
    (other : Nat) :
    ({ fabric with registries := fabric.registries.set registryId left } : Fabric).registry other =
      if other = registryId then left else fabric.registry other :=
  getD_set fabric.registries .empty left inside other

/-- A registry that differs at some of its streams is put back. -/
theorem frame_setStreams (inside : registryId < fabric.registries.length) {touched : Nat → Prop}
    (confines : (fabric.registry registryId).Confines touched left) :
    Frame (fun place => ∃ id, touched id ∧ place = .stream registryId id) fabric
      { fabric with registries := fabric.registries.set registryId left } := by
  -- Every registry is the one put back or as it was, and that one differs at these streams only.
  have found := registry_set inside left
  refine ⟨List.length_set .., rfl, rfl, rfl, ?_, ?_, ?_, ?_, fun _ _ => rfl⟩
  · intro other
    rw [found]
    split
    · rename_i same
      rw [same, confines.book]
    · rfl
  · intro other
    rw [found]
    split
    · rename_i same
      rw [same, confines.nextId]
    · rfl
  · intro all other
    rw [found]
    split
    · exact confines.attached (all registryId)
    · exact all other
  · intro other stream spared
    rw [found]
    split
    · rename_i same
      subst same
      exact confines.others stream fun touches => spared ⟨stream, touches, rfl⟩
    · rfl

/-- A registry that differs at one stream is put back. -/
theorem frame_setStream (inside : registryId < fabric.registries.length)
    (differs : (fabric.registry registryId).DiffersAt subscription left)
    (attached : (fabric.registry registryId).Attached → left.Attached) :
    Frame (· = .stream registryId subscription) fabric
      { fabric with registries := fabric.registries.set registryId left } := by
  -- One stream is a special case of some streams.
  have confines : (fabric.registry registryId).Confines (· = subscription) left :=
    .of_differs differs rfl attached
  refine (frame_setStreams inside confines).mono ?_
  rintro place ⟨id, rfl, rfl⟩
  rfl

/-- A stream that has changed changes the worker that takes from it. -/
theorem alters_setStream (apart : fabric.Apart) (found : fabric.services[id]? = some service)
    {projection : Projection}
    (source : service.source = .membership registryId subscription projection)
    (differs : (fabric.registry registryId).DiffersAt subscription left)
    (attached : (fabric.registry registryId).Attached → left.Attached) :
    fabric.Alters id
      { fabric.workerOf service with
        inbox := .stream registryId projection (left.subscription subscription) left.lives }
      { fabric with registries := fabric.registries.set registryId left } := by
  -- The stream is the only source touched, and it is the one that the service takes from.
  have there := (apart.inside service (List.mem_of_getElem? found)).2
  rw [source] at there
  have inside := registry_lt_of_known there
  have frame := frame_setStream inside differs attached
  have place : service.source.place = .stream registryId subscription := by rw [source]; rfl
  rw [← place] at frame
  -- The registry that the source names is the one put back.
  have own := registry_set inside left registryId
  rw [if_pos rfl] at own
  have alters := alters_of_frame apart found frame service ?_ fun _ _ => rfl
  · -- So the inbox of the service is its source, looked up in that registry.
    have same : ({ fabric with registries := fabric.registries.set registryId left } :
        Fabric).inbox service.source =
        .stream registryId projection (left.subscription subscription) left.lives := by
      rw [source]
      dsimp only [inbox]
      rw [own]
    unfold workerOf at alters ⊢
    rw [same] at alters
    exact alters
  · intro other
    split
    · rename_i same
      rw [same]
      exact found
    · rfl

/-- A feed is put back. -/
theorem frame_setFeed {feedId : Nat} (inside : feedId < fabric.feeds.length) (feed : Feed) :
    Frame (· = .feed feedId) fabric { fabric with feeds := fabric.feeds.set feedId feed } := by
  -- Nothing but the feed is another one, and that is the one touched.
  refine { Frame.refl (· = .feed feedId) fabric with
    feeds := List.length_set .., feed := fun other spared => ?_ }
  have found := getD_set fabric.feeds ⟨.events [], false, false⟩ feed inside other
  rw [if_neg fun same => spared (congrArg Place.feed same)] at found
  exact found

/-- A feed that has changed changes the worker that takes from it. -/
theorem alters_setFeed (apart : fabric.Apart) (found : fabric.services[id]? = some service)
    {feedId : Nat} (source : service.source = .feed feedId) (feed : Feed) :
    fabric.Alters id { fabric.workerOf service with inbox := .feed feed }
      { fabric with feeds := fabric.feeds.set feedId feed } := by
  -- The feed is the only source touched, and it is the one that the service takes from.
  have there := (apart.inside service (List.mem_of_getElem? found)).2
  have frame : Frame (· = service.source.place) fabric
      { fabric with feeds := fabric.feeds.set feedId feed } := by
    rw [source] at there ⊢
    exact frame_setFeed there feed
  have alters := alters_of_frame apart found frame service ?_ fun _ _ => rfl
  · -- The feed that the source names is the one put back.
    have own := getD_set fabric.feeds ⟨.events [], false, false⟩ feed (source ▸ there) feedId
    rw [if_pos rfl] at own
    have same : ({ fabric with feeds := fabric.feeds.set feedId feed } : Fabric).inbox
        service.source = .feed feed := by
      rw [source]
      exact congrArg Inbox.feed own
    unfold workerOf at alters ⊢
    rw [same] at alters
    exact alters
  · intro other
    split
    · rename_i same
      rw [same]
      exact found
    · rfl

end Parts

/-- A service and its balancer that are put back make a changed worker of it. -/
theorem alters_touch (apart : fabric.Apart) (found : fabric.services[id]? = some service)
    (worked : Service) (post : worked.post = service.post) (turned : RoundRobin) :
    fabric.Alters id
      { fabric.workerOf service with
        resolver := worked.resolver, balancer := turned
        task := worked.task, owners := worked.owners }
      (fabric.touch id service turned worked) := by
  -- No source is touched, and the balancer put back belongs to no other service.
  obtain ⟨balancer, source⟩ := Prod.mk.inj post
  have balancers : ∀ other, (fabric.touch id service turned worked).balancer other =
      if other = service.balancer then turned else fabric.balancer other :=
    getD_set fabric.balancers .empty turned
      (apart.inside service (List.mem_of_getElem? found)).1
  have frame : Frame (· = service.source.place) fabric
      (fabric.touch id service turned worked) :=
    { Frame.refl (· = service.source.place) fabric with
      balancers := List.length_set ..
      posts := map_services_put found Service.post post }
  have alters := alters_of_frame apart found frame worked (getElem?_set_of_some found worked)
    fun other different => (balancers other).trans (if_neg different)
  -- The balancer of the service is the one put back.
  have own := balancers service.balancer
  rw [if_pos rfl] at own
  have same : (fabric.touch id service turned worked).workerOf worked =
      { fabric.workerOf service with
        resolver := worked.resolver, balancer := turned
        task := worked.task, owners := worked.owners } := by
    unfold workerOf
    rw [balancer, own, source]
    rfl
  rw [same] at alters
  exact alters

end Fabric

end PeerCluster
