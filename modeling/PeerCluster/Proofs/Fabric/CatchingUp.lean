import PeerCluster.Proofs.Fabric.Agenda
import PeerCluster.Proofs.Registry.Rebuilding
import PeerCluster.Proofs.Resolver.Consuming

/-! What a service, the registry that it follows and its balancer have to do with each other. -/

namespace PeerCluster

open ChangeEvent

variable {strict : Prop} {registry result : Registry} {subscription : Nat}
  {projection : Projection} {pool : List Endpoint} {balancer : RoundRobin} {service : Service}

/-! ### A pool and the members behind it -/

/-- What a pool becomes when everything that a stream has yet to give is applied to it. -/
def Registry.ahead (registry : Registry) (subscription : Nat) (projection : Projection)
    (pool : List Endpoint) : List Endpoint :=
  rebuild pool ((registry.awaiting subscription).map projection.projectEvent)

/-- A pool that follows a stream is on its way to the endpoints of all members. -/
structure CatchesUp (strict : Prop) (registry : Registry) (subscription : Nat)
    (projection : Projection) (pool : List Endpoint) : Prop where
  perm : (registry.ahead subscription projection pool).Perm
    (registry.members.map projection.project)
  /-- In a strict setting the endpoints come in the order of the members. -/
  eq : strict → registry.ahead subscription projection pool =
    registry.members.map projection.project

namespace CatchesUp

/-- The empty pool is on its way to all members when a stream is opened. -/
theorem start (strict : Prop) (registry : Registry) (projection : Projection) :
    CatchesUp strict registry.subscribe.value.2 registry.nextId projection [] := by
  -- A new stream awaits an addition of each member, and these rebuild the membership.
  have awaits := registry.awaiting_subscribe registry.nextId
  rw [if_pos rfl] at awaits
  have ahead : registry.subscribe.value.2.ahead registry.nextId projection [] =
      registry.members.map projection.project := by
    have additions := rebuild_additions [] (registry.members.map projection.project)
    rw [List.map_map, List.nil_append] at additions
    unfold Registry.ahead
    rw [awaits, List.map_map]
    exact additions
  exact ⟨.of_eq ahead, fun _ => ahead⟩

/-- A pool stays on its way when a call on the registry does not touch the stream. -/
theorem step (catchesUp : CatchesUp strict registry subscription projection pool)
    (attached : registry.Attached) (listens : registry.listens subscription = true)
    {entry : Exchange RegistryCall RegistryAnswer} (step : registry.Step entry result)
    (spared : entry.call.stream? ≠ some subscription)
    (distinct : strict → (registry.members.map projection.project).Nodup) :
    CatchesUp strict result subscription projection pool := by
  -- A call that ends the stream would touch it.
  have kept : entry.call ≠ .cancel subscription := by
    intro ends
    rw [ends] at spared
    exact spared rfl
  have awaits := step.awaiting attached listens kept
  rw [Exchange.item?_of_spared spared, Option.toList_none, List.nil_append] at awaits
  -- What the call changes, it changes in the membership and at the end of what is awaited.
  rcases step.members with ⟨none, members, _⟩ | ⟨event, some, turns, _⟩
  · -- Nothing was sent, so what is ahead of the pool is what it was.
    have same : result.ahead subscription projection pool =
        registry.ahead subscription projection pool := by
      unfold Registry.ahead
      rw [awaits, none, Option.toList_none, List.append_nil]
    constructor
    · rw [same, members]
      exact catchesUp.perm
    · intro holds
      rw [same, members]
      exact catchesUp.eq holds
  · -- One change was sent, and it is ahead of the pool as the last one.
    have further : result.ahead subscription projection pool =
        (projection.projectEvent event).applyTo
          (registry.ahead subscription projection pool) := by
      unfold Registry.ahead
      rw [awaits, some, Option.toList_some, List.map_append, rebuild_append]
      rfl
    have projected := turns.map projection.project
    constructor
    · rw [further]
      exact projected.applyTo_perm catchesUp.perm
    · intro holds
      rw [further, catchesUp.eq holds]
      exact projected.applyTo_eq (distinct holds)

/-- Items that are taken from the stream and applied to the pool leave it on its way. -/
theorem taken (catchesUp : CatchesUp strict registry subscription projection pool) (count : Nat)
    (awaits : result.awaiting subscription = (registry.awaiting subscription).drop count)
    (members : result.members = registry.members) :
    CatchesUp strict result subscription projection
      (rebuild pool (((registry.awaiting subscription).take count).map
        projection.projectEvent)) := by
  -- What was taken from the stream is in the pool now, so both together are what they were.
  have same : result.ahead subscription projection (rebuild pool
      (((registry.awaiting subscription).take count).map projection.projectEvent)) =
      registry.ahead subscription projection pool := by
    unfold Registry.ahead
    rw [awaits, ← rebuild_append, ← List.map_append, List.take_append_drop]
  constructor
  · rw [same, members]
    exact catchesUp.perm
  · intro holds
    rw [same, members]
    exact catchesUp.eq holds

/-- A pool that nothing is awaited for has arrived. -/
theorem arrived (catchesUp : CatchesUp strict registry subscription projection pool)
    (nothing : registry.awaiting subscription = []) :
    pool.Perm (registry.members.map projection.project) ∧
      (strict → pool = registry.members.map projection.project) := by
  -- Without anything to come the pool is what it will be.
  have same : registry.ahead subscription projection pool = pool := by
    unfold Registry.ahead
    rw [nothing]
    rfl
  have perm := catchesUp.perm
  have eq := catchesUp.eq
  rw [same] at perm eq
  exact ⟨perm, eq⟩

end CatchesUp

/-! ### A service that follows a registry -/

/-- How the task of a service that goes on stands to its stream. -/
inductive TaskOnStream (registry : Registry) (subscription : Nat) : TaskPhase → Prop where
  | parked (listens : registry.listens subscription = true) :
    TaskOnStream registry subscription .parked
  | ready (listens : registry.listens subscription = true) :
    TaskOnStream registry subscription .ready
  /-- The task is through with its stream only once nobody can change the membership any more. -/
  | finished (gone : registry.lives = false) (deaf : registry.listens subscription = false) :
      TaskOnStream registry subscription .finished

/-- A service either is over, or its task sees to it that the pool catches up with the members. -/
inductive ServiceFollows (strict : Prop) (registry : Registry) (subscription : Nat)
    (projection : Projection) (balancer : RoundRobin) (service : Service) : Prop where
  | ceased (ceased : service.resolver.status ≠ .serving)
      (leaving : service.task = .aborted ∨ service.task = .finished)
  | serving (serving : service.resolver.status = .serving) (open_ : balancer.shutDown = false)
      (catchesUp : CatchesUp strict registry subscription projection balancer.pool)
      (onStream : TaskOnStream registry subscription service.task)

namespace ServiceFollows

/-- A service does not notice what happens to others. -/
theorem congr (serviceFollows : ServiceFollows strict registry subscription projection
    balancer service)
    (members : result.members = registry.members) (lives : result.lives = registry.lives)
    (stream : result.subscriptions[subscription]? = registry.subscriptions[subscription]?) :
    ServiceFollows strict result subscription projection balancer service := by
  cases serviceFollows with
  -- A service that is over does not look at its stream any more.
  | ceased ceased leaving => exact .ceased ceased leaving
  | serving serving open_ catchesUp onStream =>
    -- Neither what the stream awaits nor whether it listens has changed.
    have listens : result.listens subscription = registry.listens subscription := by
      rw [Registry.listens_eq, Registry.listens_eq, stream]
    have awaits : result.awaiting subscription = registry.awaiting subscription := by
      unfold Registry.awaiting
      rw [stream]
    refine .serving serving open_ (catchesUp.taken 0 awaits members) ?_
    generalize service.task = task at onStream
    cases onStream with
    | parked before => exact .parked (listens.trans before)
    | ready before => exact .ready (listens.trans before)
    | finished gone deaf => exact .finished (lives.trans gone) (listens.trans deaf)

/-- A service does not notice that a turn was taken from its balancer. -/
theorem congr_balancer (serviceFollows : ServiceFollows strict registry subscription projection
    balancer service)
    {left : RoundRobin} (pool : left.pool = balancer.pool)
    (shutDown : left.shutDown = balancer.shutDown) :
    ServiceFollows strict registry subscription projection left service := by
  cases serviceFollows with
  | ceased ceased leaving => exact .ceased ceased leaving
  -- The pool and whether the balancer is shut down are all that is asked of it.
  | serving serving open_ catchesUp onStream =>
    rw [← pool] at catchesUp
    exact .serving serving (shutDown.trans open_) catchesUp onStream

/-- A service goes on following when a call on the registry does not touch its stream. -/
theorem step (serviceFollows : ServiceFollows strict registry subscription projection
    balancer service)
    (attached : registry.Attached) (known : subscription < registry.nextId)
    {entry : Exchange RegistryCall RegistryAnswer} (step : registry.Step entry result)
    (spared : entry.call.stream? ≠ some subscription)
    (distinct : strict → (registry.members.map projection.project).Nodup) :
    ServiceFollows strict result subscription projection balancer service := by
  cases serviceFollows with
  | ceased ceased leaving => exact .ceased ceased leaving
  | serving serving open_ catchesUp onStream =>
    have kept : entry.call ≠ .cancel subscription := by
      intro ends
      rw [ends] at spared
      exact spared rfl
    -- The call opens or ends other streams at most.
    have same : result.listens subscription = registry.listens subscription := by
      simp [step.listens attached known, kept]
    have follows (listens : registry.listens subscription = true) :=
      catchesUp.step attached listens step spared distinct
    -- By the phase of the task, which a call on the registry does not change.
    generalize task : service.task = phase at onStream
    cases onStream with
    | parked listens =>
      exact .serving serving open_ (follows listens) (task ▸ .parked (same.trans listens))
    | ready listens =>
      exact .serving serving open_ (follows listens) (task ▸ .ready (same.trans listens))
    | finished gone deaf =>
      -- Nothing can change any more, and nothing is awaited any more either.
      obtain ⟨members, still⟩ := step.of_gone gone
      have awaits : result.awaiting subscription = (registry.awaiting subscription).drop 0 := by
        rw [registry.awaiting_of_deaf deaf, result.awaiting_of_deaf (same.trans deaf)]
        rfl
      exact .serving serving open_ (catchesUp.taken 0 awaits members)
        (task ▸ .finished still (same.trans deaf))

/-- A service goes on following when its task is woken. -/
theorem woken (serviceFollows : ServiceFollows strict registry subscription projection
    balancer service)
    (parked : service.task = .parked) :
    ServiceFollows strict registry subscription projection balancer
      { service with task := .ready } := by
  cases serviceFollows with
  -- Whoever waits has not been told to leave.
  | ceased ceased leaving => simp [parked] at leaving
  | serving serving open_ catchesUp onStream =>
    rw [parked] at onStream
    cases onStream with
    | parked listens => exact .serving serving open_ catchesUp (.ready listens)

end ServiceFollows

/-! ### A turn of its task -/

/-- A registry, a balancer and a service that belong together, and what may take their places. -/
structure Replaces (strict : Prop) (registry : Registry) (subscription : Nat)
    (projection : Projection) (service : Service) (left : Registry) (turned : RoundRobin)
    (worked : Service) : Prop where
  differs : registry.DiffersAt subscription left
  attached : left.Attached
  source : worked.source = service.source
  balancer : worked.balancer = service.balancer
  serviceFollows : ServiceFollows strict left subscription projection turned worked

/-- What a turn leaves of a registry, a balancer and a service that belong together. -/
structure Handled (strict : Prop) (registry : Registry) (subscription : Nat)
    (projection : Projection) (service : Service) (left : Registry) (turned : RoundRobin)
    (worked : Service) : Prop
    extends Replaces strict registry subscription projection service left turned worked where
  status : worked.resolver.status = service.resolver.status
  /-- A task that waits has nothing left to do. -/
  parked : worked.task = .parked → left.buffered subscription = 0 ∧ left.lives = true
  /-- A task that could go on at once has taken something. -/
  ready : worked.task.isDue = true →
    worked.task = .ready ∧ left.buffered subscription < registry.buffered subscription

/-- What becomes of a task when its stream came to a stop. -/
def phaseAfter : DrainTail → TaskPhase
  | .pending => .parked
  | .finished => .finished
  | .limit => .ready

/-- What becomes of a registry when a task's stream came to a stop: at the end it is cancelled. -/
def leftAfter (subscription : Nat) (registry : Registry) : DrainTail → Registry
  | .finished => (registry.cancel subscription).value
  | .pending | .limit => registry

/-- The end of a stream changes nothing that others see. -/
theorem handled_cancel (attached : registry.Attached)
    (ceased : service.resolver.status ≠ .serving) :
    Handled strict registry subscription projection service
      (registry.cancel subscription).value balancer { service with task := .finished } := by
  -- The task is through, so it neither waits nor has a turn coming.
  refine ⟨⟨.cancel registry subscription, attached.cancel subscription, rfl, rfl,
    .ceased ceased (.inr rfl)⟩, rfl, ?_, ?_⟩
  · intro parked
    cases parked
  · intro due
    cases due

section Taken

variable {left : Registry} {turned : RoundRobin} {resolver : Resolver}

/-- A task that has taken as much as it may in one turn gets another one. -/
theorem handled_limit (differs : registry.DiffersAt subscription left) (attached : left.Attached)
    (status : resolver.status = service.resolver.status) (serving : resolver.status = .serving)
    (open_ : turned.shutDown = false)
    (catchesUp : CatchesUp strict left subscription projection turned.pool)
    (listens : left.listens subscription = true)
    (fewer : left.buffered subscription < registry.buffered subscription) :
    Handled strict registry subscription projection service left turned
      { service with resolver, task := .ready } := by
  -- It goes on at once, and that with fewer changes in its stream than before.
  refine ⟨⟨differs, attached, rfl, rfl, .serving serving open_ catchesUp (.ready listens)⟩, status,
    ?_, fun _ => ⟨rfl, fewer⟩⟩
  intro parked
  cases parked

/-- A task that has taken everything waits for more, as long as more can come. -/
theorem handled_pending (differs : registry.DiffersAt subscription left) (attached : left.Attached)
    (status : resolver.status = service.resolver.status) (serving : resolver.status = .serving)
    (open_ : turned.shutDown = false)
    (catchesUp : CatchesUp strict left subscription projection turned.pool)
    (listens : left.listens subscription = true) (nothing : left.awaiting subscription = [])
    (lives : left.lives = true) :
    Handled strict registry subscription projection service left turned
      { service with resolver, task := .parked } := by
  -- Nothing is awaited, so nothing is buffered either.
  have empty := left.length_awaiting_of_listens listens
  rw [nothing, List.length_nil] at empty
  refine ⟨⟨differs, attached, rfl, rfl, .serving serving open_ catchesUp (.parked listens)⟩, status,
    fun _ => ⟨empty.symm, lives⟩, ?_⟩
  intro due
  cases due

/-- A task that has taken everything ends its stream once nothing more can come. -/
theorem handled_finished (differs : registry.DiffersAt subscription left)
    (attached : left.Attached) (status : resolver.status = service.resolver.status)
    (serving : resolver.status = .serving) (open_ : turned.shutDown = false)
    (catchesUp : CatchesUp strict left subscription projection turned.pool)
    (nothing : left.awaiting subscription = []) (gone : left.lives = false) :
    Handled strict registry subscription projection service (left.cancel subscription).value turned
      { service with resolver, task := .finished } := by
  -- Nobody listens to a stream that has ended.
  have cancels := Registry.DiffersAt.cancel left subscription
  have deaf : (left.cancel subscription).value.listens subscription = false := by
    simp [Registry.listens_cancel]
  have ended : CatchesUp strict (left.cancel subscription).value subscription projection
      turned.pool := by
    -- Nothing was awaited before the stream ended, so nothing is lost with it.
    refine catchesUp.taken 0 ?_ cancels.members
    rw [nothing, Registry.awaiting_of_deaf _ deaf]
    rfl
  refine ⟨⟨differs.trans cancels, attached.cancel subscription, rfl, rfl,
    .serving serving open_ ended (.finished (cancels.lives.trans gone) deaf)⟩, status, ?_, ?_⟩
  · intro parked
    cases parked
  · intro due
    cases due

end Taken

/-- A task that works through what its stream has ready does its duty. -/
theorem handled_drain (attached : registry.Attached)
    (serving : service.resolver.status = .serving) (open_ : balancer.shutDown = false)
    (catchesUp : CatchesUp strict registry subscription projection balancer.pool)
    (listens : registry.listens subscription = true) {limit : Nat} (positive : 0 < limit) :
    let drained := registry.drain subscription (some limit)
    let consumed := (service.resolver.consume
      (fun event => .quiet (.ok (projection.projectEvent event))) balancer drained.1.items).value
    consumed.unread? = none ∧
      Handled strict registry subscription projection service
        (leftAfter subscription drained.2 drained.1.tail) consumed.balancer
        { service with resolver := consumed.resolver, task := phaseAfter drained.1.tail } := by
  intro drained consumed
  -- What the stream gives in the turn, and how it ends, are read off what it awaits.
  have answer : drained.1 = ⟨(registry.awaiting subscription).take limit,
      if limit ≤ (registry.awaiting subscription).length then .limit
      else registry.idleTail subscription⟩ := registry.drain_eq subscription limit
  have awaits : drained.2.awaiting subscription = (registry.awaiting subscription).drop limit :=
    registry.awaiting_drain subscription limit
  have items : drained.1.items = (registry.awaiting subscription).take limit := by rw [answer]
  have differs : registry.DiffersAt subscription drained.2 := .drain registry subscription limit
  have still : drained.2.listens subscription = true := by
    rw [show drained.2.listens = registry.listens from registry.listens_drain subscription limit]
    exact listens
  have settled : drained.2.Attached := attached.drain subscription limit
  -- All that is read are changes, so the driver reads them all and stays open.
  obtain ⟨read, status, pool, shutDown⟩ :=
    service.resolver.consume_changes projection.projectEvent open_ drained.1.items
  change consumed.balancer.pool = _ at pool
  have goesOn : consumed.resolver.status = .serving := status.trans serving
  have taken : CatchesUp strict drained.2 subscription projection consumed.balancer.pool := by
    rw [pool, items]
    exact catchesUp.taken limit awaits differs.members
  refine ⟨read, ?_⟩
  by_cases more : limit ≤ (registry.awaiting subscription).length
  · -- The limit was reached, so as many items were taken as it allows.
    have tail : drained.1.tail = .limit := by rw [answer, if_pos more]
    have before := registry.length_awaiting_of_listens listens
    have rest := drained.2.length_awaiting_of_listens still
    rw [awaits, List.length_drop] at rest
    have fewer : drained.2.buffered subscription < registry.buffered subscription := by omega
    rw [tail]
    exact handled_limit differs settled status goesOn shutDown taken still fewer
  · -- Everything was taken, and the stream ends if nobody can fill it any more.
    have nothing : drained.2.awaiting subscription = [] := by
      rw [awaits]
      exact List.drop_eq_nil_of_le (by omega)
    have tail : drained.1.tail = registry.idleTail subscription := by rw [answer, if_neg more]
    rw [tail, Registry.idleTail, listens, Bool.and_true]
    cases lives : registry.lives with
    | true =>
      exact handled_pending differs settled status goesOn shutDown taken still nothing
        (differs.lives.trans lives)
    | false =>
      exact handled_finished differs settled status goesOn shutDown taken nothing
        (differs.lives.trans lives)

end PeerCluster
