import PeerCluster.Proofs.Fabric.Scheduling
import PeerCluster.Proofs.Worker.Desk

/-! Services seen as workers, none of which notices what is done to another one. -/

namespace PeerCluster

/-- Where a source of changes is. -/
inductive Place where
  | stream (registry subscription : Nat)
  | feed (feed : Nat)
deriving DecidableEq

/-- Where a source of changes is, whatever it is seen through. -/
def EventSource.place : EventSource → Place
  | .membership registry subscription _ => .stream registry subscription
  | .feed id => .feed id

/-- What stays the same about a service: its balancer, and where it takes its changes from. -/
def Service.post (service : Service) : Nat × EventSource :=
  (service.balancer, service.source)

/-- The subscription with an id. -/
def Registry.subscription (registry : Registry) (id : Nat) : Subscription :=
  registry.subscriptions.getD id (.startingAt [])

/-- What is stored under an id is the subscription with that id. -/
theorem Registry.subscription_of_found {registry : Registry} {id : Nat}
    {subscription : Subscription} (found : registry.subscriptions[id]? = some subscription) :
    registry.subscription id = subscription := by
  -- An array gives the fallback only where nothing is stored.
  unfold Registry.subscription
  rw [Array.getD_eq_getD_getElem?, found]
  rfl

/-- The subscription with an id that was given out is stored under it. -/
theorem Registry.getElem?_subscriptions {registry : Registry} {id : Nat}
    (known : id < registry.nextId) :
    registry.subscriptions[id]? = some (registry.subscription id) := by
  -- An id given out is below the number of subscriptions.
  have inside : id < registry.subscriptions.size := known
  simp [subscription, inside]

namespace Fabric

variable {fabric result last : Fabric} {id : Nat} {worker : Worker} {service : Service}

/-! ### Services as workers -/

/-- What the task of a service finds at its source. -/
def inbox (fabric : Fabric) : EventSource → Inbox
  | .membership registry subscription projection =>
    .stream registry projection ((fabric.registry registry).subscription subscription)
      (fabric.registry registry).lives
  | .feed id => .feed (fabric.feed id)

/-- A service together with all that belongs to it. -/
def workerOf (fabric : Fabric) (service : Service) : Worker :=
  ⟨service.resolver, fabric.balancer service.balancer, fabric.inbox service.source, service.task,
    service.owners⟩

/-- The service with an id, together with all that belongs to it. -/
def worker? (fabric : Fabric) (id : Nat) : Option Worker :=
  fabric.services[id]?.map fabric.workerOf

/-- The worker of a service that is found. -/
theorem worker?_of_found (found : fabric.services[id]? = some service) :
    fabric.worker? id = some (fabric.workerOf service) :=
  congrArg (Option.map _) found

/-- A worker is that of a service. -/
theorem exists_of_worker? (met : fabric.worker? id = some worker) :
    ∃ service, fabric.services[id]? = some service ∧ fabric.workerOf service = worker :=
  Option.map_eq_some_iff.mp met

/-- As many items wait at a source as the task finds there. -/
theorem backlog_inbox (fabric : Fabric) (source : EventSource) :
    (fabric.inbox source).backlog = fabric.backlog source := by
  -- Both sides look the subscription up, and past the last one both find nothing.
  cases source with
  | feed id => rfl
  | membership registry subscription projection =>
    show ((fabric.registry registry).subscription subscription).buffered =
      (fabric.registry registry).buffered subscription
    unfold Registry.subscription Registry.buffered
    -- Subscriptions never opened have nothing buffered.
    rw [Array.getD_eq_getD_getElem?]
    cases (fabric.registry registry).subscriptions[subscription]? <;> rfl

/-- There is something at a source if the task finds something there. -/
theorem hasWork_inbox (fabric : Fabric) (source : EventSource) :
    (fabric.inbox source).hasWork = fabric.hasWork source := by
  -- A stream is dry as its registry says, and a feed as it says itself.
  have dry : (fabric.inbox source).isDry = fabric.isDry source := by
    cases source <;> rfl
  unfold Inbox.hasWork hasWork
  rw [backlog_inbox, dry]

/-- As many members are yet to be replayed as the subscription has. -/
theorem replaying_eq (registry : Registry) (id : Nat) :
    registry.replaying id = (registry.subscription id).replay.length := by
  -- What is to be replayed is stored with the subscription.
  unfold Registry.subscription Registry.replaying
  rw [Array.getD_eq_getD_getElem?]
  cases registry.subscriptions[id]? <;> rfl

/-- How many turns a task can use at most is a matter of its source. -/
theorem turnsLeft_eq (fabric : Fabric) (id : Nat) :
    fabric.turnsLeft id = (fabric.worker? id).elim 1 (·.inbox.backlog + 1) := by
  -- A task that is not there is granted one turn as well.
  unfold turnsLeft worker?
  cases fabric.services[id]? with
  | none => rfl
  | some service =>
    show _ = (fabric.inbox service.source).backlog + 1
    rw [backlog_inbox]

/-- No task waits in vain if that can be said of every single worker. -/
theorem idle_iff :
    fabric.Idle ↔ ∀ id worker, fabric.worker? id = some worker → worker.AwakeForWork := by
  -- Services and workers are found at the same positions.
  constructor
  · intro idle id worker met parked
    obtain ⟨service, found, rfl⟩ := exists_of_worker? met
    exact (fabric.hasWork_inbox service.source).trans (idle id service found parked)
  · intro awakeForWork id service found parked
    rw [← hasWork_inbox]
    exact awakeForWork id _ (worker?_of_found found) parked

/-- An agenda names the workers whose tasks have a turn coming. -/
theorem Lists.mem_iff_worker? {agenda : List Nat} (lists : Lists agenda fabric) (id : Nat) :
    id ∈ agenda ↔ ∃ worker, fabric.worker? id = some worker ∧ worker.task.isDue = true := by
  -- Services and workers are found at the same positions.
  rw [lists.mem_iff]
  constructor
  · rintro ⟨service, found, due⟩
    exact ⟨_, worker?_of_found found, due⟩
  · rintro ⟨worker, met, due⟩
    obtain ⟨service, found, rfl⟩ := exists_of_worker? met
    exact ⟨service, found, due⟩

/-- A list without duplicates that names the workers with a turn coming is an agenda. -/
theorem lists_of_worker? {agenda : List Nat} (nodup : agenda.Nodup)
    (names : ∀ id, id ∈ agenda ↔
      ∃ worker, fabric.worker? id = some worker ∧ worker.task.isDue = true) :
    Lists agenda fabric := by
  refine ⟨nodup, fun id => ?_⟩
  rw [names]
  -- From workers to services and back at the same position.
  constructor
  · rintro ⟨worker, met, due⟩
    obtain ⟨service, found, rfl⟩ := exists_of_worker? met
    exact ⟨service, found, due⟩
  · rintro ⟨service, found, due⟩
    exact ⟨_, worker?_of_found found, due⟩

/-! ### Services apart from each other -/

/-- Whether there is a source at a place. -/
def HasPlace (fabric : Fabric) : Place → Prop
  | .stream registry subscription => subscription < (fabric.registry registry).nextId
  | .feed id => id < fabric.feeds.length

/-- Services have balancers and sources, and no two of them share one. -/
structure Apart (fabric : Fabric) : Prop where
  attached : ∀ id, (fabric.registry id).Attached
  balancers : (fabric.services.map (·.balancer)).Nodup
  places : (fabric.services.map (·.source.place)).Nodup
  inside : ∀ service ∈ fabric.services,
    service.balancer < fabric.balancers.length ∧ fabric.HasPlace service.source.place

/-- Two services at different positions share neither a balancer nor a source. -/
theorem Apart.distinct (apart : fabric.Apart) {other : Nat} {rival : Service}
    (found : fabric.services[id]? = some service) (met : fabric.services[other]? = some rival)
    (different : other ≠ id) :
    rival.balancer ≠ service.balancer ∧ rival.source.place ≠ service.source.place := by
  have inside : other < fabric.services.length := (List.getElem?_eq_some_iff.mp met).1
  -- What two services had in common would stand twice in a list without duplicates.
  constructor
  · intro same
    refine different ((List.getElem?_inj (by simpa using inside) apart.balancers).mp ?_)
    simp [found, met, same]
  · intro same
    refine different ((List.getElem?_inj (by simpa using inside) apart.places).mp ?_)
    simp [found, met, same]

/-- The place where a service takes its changes from. -/
def place? (fabric : Fabric) (id : Nat) : Option Place :=
  fabric.services[id]?.map (·.source.place)

/-- All can differ between two fabrics but what is fixed, and the sources that are not touched. -/
structure Frame (touched : Place → Prop) (fabric result : Fabric) : Prop where
  registries : result.registries.length = fabric.registries.length
  feeds : result.feeds.length = fabric.feeds.length
  balancers : result.balancers.length = fabric.balancers.length
  posts : result.services.map Service.post = fabric.services.map Service.post
  book : ∀ id, (result.registry id).book = (fabric.registry id).book
  nextId : ∀ id, (result.registry id).nextId = (fabric.registry id).nextId
  attached : (∀ id, (fabric.registry id).Attached) → ∀ id, (result.registry id).Attached
  stream : ∀ registry id, ¬ touched (.stream registry id) →
    (result.registry registry).subscription id = (fabric.registry registry).subscription id
  feed : ∀ id, ¬ touched (.feed id) → result.feed id = fabric.feed id

namespace Frame

variable {touched more : Place → Prop}

/-- Nothing differs when nothing happens. -/
theorem refl (touched : Place → Prop) (fabric : Fabric) : Frame touched fabric fabric :=
  ⟨rfl, rfl, rfl, rfl, fun _ => rfl, fun _ => rfl, id, fun _ _ _ => rfl, fun _ _ => rfl⟩

/-- What is touched can be overestimated. -/
theorem mono (frame : Frame touched fabric result) (wider : ∀ place, touched place → more place) :
    Frame more fabric result :=
  -- Only what is known of sources that are not touched depends on what is touched.
  { frame with
    stream := fun registry id spared => frame.stream registry id (spared ∘ wider _)
    feed := fun id spared => frame.feed id (spared ∘ wider _) }

/-- What differs after two steps was touched by one of them. -/
theorem trans (first : Frame touched fabric result) (second : Frame touched result last) :
    Frame touched fabric last := by
  -- Everything but the sources is compared field by field.
  refine ⟨second.registries.trans first.registries, second.feeds.trans first.feeds,
    second.balancers.trans first.balancers, second.posts.trans first.posts,
    fun id => (second.book id).trans (first.book id),
    fun id => (second.nextId id).trans (first.nextId id),
    fun attached => second.attached (first.attached attached), ?_, ?_⟩
  · intro registry id spared
    exact (second.stream registry id spared).trans (first.stream registry id spared)
  · intro id spared
    exact (second.feed id spared).trans (first.feed id spared)

/-- A source that is not touched is as it was. -/
theorem inbox (frame : Frame touched fabric result) {source : EventSource}
    (spared : ¬ touched source.place) : result.inbox source = fabric.inbox source := by
  -- Of a registry a task sees only its own stream, and whether the registry still lives.
  cases source with
  | feed id => exact congrArg Inbox.feed (frame.feed id spared)
  | membership registry subscription projection =>
    have stream := frame.stream registry subscription spared
    have lives := Registry.lives_of_book _ (frame.book registry)
    dsimp only [Fabric.inbox]
    rw [stream, lives]

/-- What stays the same about a service is found at its position. -/
theorem post (frame : Frame touched fabric result) (id : Nat) :
    result.services[id]?.map Service.post = fabric.services[id]?.map Service.post := by
  -- What stays the same was compared as a list, so also position by position.
  rw [← List.getElem?_map, ← List.getElem?_map, frame.posts]

/-- Services take their changes from where they took them. -/
theorem place? (frame : Frame touched fabric result) (id : Nat) :
    result.place? id = fabric.place? id := by
  -- The place of a source is read off its post.
  have same := congrArg (Option.map fun post : Nat × EventSource => post.2.place) (frame.post id)
  rw [Option.map_map, Option.map_map] at same
  exact same

/-- Services stay apart from each other. -/
theorem apart (frame : Frame touched fabric result) (apart : fabric.Apart) : result.Apart := by
  -- All that keeps services apart can be read off their posts, which are the same.
  have feature {α : Type} (of : Nat × EventSource → α) :
      result.services.map (of ∘ Service.post) = fabric.services.map (of ∘ Service.post) := by
    rw [← List.map_map, ← List.map_map, frame.posts]
  refine ⟨frame.attached apart.attached, ?_, ?_, ?_⟩
  · have same := feature Prod.fst
    exact same ▸ apart.balancers
  · have same := feature fun post => post.2.place
    exact same ▸ apart.places
  · intro service member
    have listed : service.post ∈ fabric.services.map Service.post := by
      rw [← frame.posts]
      exact List.mem_map_of_mem member
    obtain ⟨before, known, same⟩ := List.mem_map.mp listed
    obtain ⟨balancer, source⟩ := Prod.mk.inj same
    obtain ⟨balancer_lt, there⟩ := apart.inside before known
    rw [← balancer, ← source, frame.balancers]
    refine ⟨balancer_lt, ?_⟩
    -- There is such a place as before, since ids are given out and never taken back.
    cases place : before.source.place with
    | stream registry subscription =>
      rw [place] at there
      show _ < _
      rw [frame.nextId]
      exact there
    | feed id =>
      rw [place] at there
      show _ < _
      rw [frame.feeds]
      exact there

end Frame

/-! ### One worker changed -/

/-- One worker has become another one, and everybody else and their sources are as they were. -/
structure Alters (fabric : Fabric) (id : Nat) (worker : Worker) (result : Fabric) : Prop
    extends Frame (fun place => fabric.place? id = some place) fabric result where
  worker? : ∀ other, result.worker? other = if other = id then some worker else fabric.worker? other

namespace Alters

variable {later : Worker}

/-- A worker has become itself when nothing has happened. -/
theorem refl (met : fabric.worker? id = some worker) : fabric.Alters id worker fabric := by
  refine ⟨.refl _ fabric, fun other => ?_⟩
  -- Everybody is found as before, this one included.
  split
  · rename_i same
    rw [same, met]
  · rfl

/-- The worker that one has become. -/
theorem worker?_self (alters : fabric.Alters id worker result) :
    result.worker? id = some worker := by
  rw [alters.worker?, if_pos rfl]

/-- A worker becomes another one in two steps. -/
theorem trans (first : fabric.Alters id worker result) (second : result.Alters id later last) :
    fabric.Alters id later last := by
  -- The worker takes from the same place after the first step, so nothing else is touched.
  have touched : ∀ place, result.place? id = some place → fabric.place? id = some place := by
    intro place found
    rw [← first.place?]
    exact found
  refine ⟨first.toFrame.trans (second.toFrame.mono touched), fun other => ?_⟩
  -- The last change of the worker is the one that counts.
  rw [second.worker?, first.worker?]
  split
  · rfl
  · rfl

/-- Nobody else waits in vain if nobody else did. -/
theorem idle (alters : fabric.Alters id worker result) (idle : fabric.Idle)
    (awakeForWork : worker.AwakeForWork) : result.Idle := by
  refine idle_iff.mpr fun other rival met => ?_
  -- The rival is the worker changed, or one that nothing has happened to.
  rw [alters.worker?] at met
  split at met
  · obtain rfl := Option.some.inj met
    exact awakeForWork
  · exact idle_iff.mp idle other rival met

/-- An agenda is right when it is so about the worker changed, and about others as before. -/
theorem lists (alters : fabric.Alters id worker result) {agenda renewed : List Nat}
    (lists : Lists agenda fabric) (nodup : renewed.Nodup)
    (others : ∀ other, other ≠ id → (other ∈ renewed ↔ other ∈ agenda))
    (own : id ∈ renewed ↔ worker.task.isDue = true) : Lists renewed result := by
  -- The worker changed is on the agenda by what is given, and every other one as before.
  refine lists_of_worker? nodup fun other => ?_
  rw [alters.worker?]
  split
  · rename_i same
    rw [same, own]
    simp
  · rename_i different
    rw [others other different, lists.mem_iff_worker?]

end Alters

/-- One service that changed, and what belongs to it, make a changed worker of it. -/
theorem alters_of_frame (apart : fabric.Apart) (found : fabric.services[id]? = some service)
    (frame : Frame (· = service.source.place) fabric result) (worked : Service)
    (services : ∀ other, result.services[other]? =
      if other = id then some worked else fabric.services[other]?)
    (balancers : ∀ other, other ≠ service.balancer →
      result.balancer other = fabric.balancer other) :
    fabric.Alters id (result.workerOf worked) result := by
  refine ⟨frame.mono ?_, fun other => ?_⟩
  · -- The place of the service is the only one touched.
    rintro place rfl
    unfold place?
    rw [found]
    rfl
  · unfold worker?
    rw [services]
    split
    · rfl
    · rename_i different
      cases met : fabric.services[other]? with
      | none => rfl
      | some rival =>
        -- Whatever else belongs to the other service is not what has changed.
        obtain ⟨balancer, place⟩ := apart.distinct found met different
        have same : result.workerOf rival = fabric.workerOf rival := by
          unfold workerOf
          rw [balancers rival.balancer balancer, frame.inbox place]
        exact congrArg some same

/-! ### Waking -/

/-- A worker after waking. -/
theorem worker?_wake (fabric : Fabric) (id : Nat) :
    fabric.wake.worker? id = (fabric.worker? id).map Worker.wake := by
  -- Waking maps over services, and so it does over workers.
  unfold worker?
  rw [getElem?_wake, Option.map_map, Option.map_map]
  congr 1
  funext service
  -- A service is woken for the same reason as a worker.
  have sameInbox : fabric.wake.inbox = fabric.inbox := by
    funext source
    cases source <;> rfl
  show fabric.wake.workerOf (fabric.woken service) = (fabric.workerOf service).wake
  unfold workerOf Worker.wake woken wakes
  rw [sameInbox, hasWork_inbox]
  split
  · rfl
  · rfl

/-- Waking touches no source. -/
theorem frame_wake (touched : Place → Prop) (fabric : Fabric) :
    Frame touched fabric fabric.wake := by
  -- Only the phase of a task changes by waking, and that is no part of its post.
  refine { Frame.refl touched fabric with posts := ?_ }
  show (fabric.services.map fabric.woken).map Service.post = _
  rw [List.map_map]
  refine List.map_congr_left fun service _ => ?_
  show (fabric.woken service).post = service.post
  rw [woken_eq]
  rfl

/-- Waking after a change of one worker wakes at most that one. -/
theorem Alters.wake (alters : fabric.Alters id worker result) (idle : fabric.Idle) :
    fabric.Alters id worker.wake result.wake := by
  -- Everybody else does not wait in vain before, so they are not woken.
  refine ⟨alters.toFrame.trans (frame_wake _ result), fun other => ?_⟩
  rw [worker?_wake, alters.worker?]
  split
  · rfl
  · cases met : fabric.worker? other with
    | none => rfl
    | some rival => exact congrArg some (idle_iff.mp idle other rival met).wake_eq

end Fabric

end PeerCluster
