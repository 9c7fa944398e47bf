import PeerCluster.Proofs.RoundRobin.Rotation
import PeerCluster.Proofs.Walkthrough.Scenes

/-! A resolver that was just created resolves endpoints once its task has had a turn. -/

namespace PeerCluster

/-! ### The first turn of a task -/

/-- Candidates that a resolver is told of join the pool in their order. -/
theorem Resolver.applyAll_adds (resolver : Resolver) {balancer : RoundRobin}
    (open_ : balancer.shutDown = false) (candidates : List Endpoint) :
    (resolver.applyAll balancer (candidates.map .add)).2 =
      { balancer with pool := balancer.pool ++ candidates } := by
  -- Each candidate is put behind those that joined before.
  induction candidates generalizing resolver balancer with
  | nil => simp [applyAll]
  | cons first rest ih =>
    have still : { balancer with pool := balancer.pool ++ [first] }.shutDown = false := open_
    rw [List.map_cons, applyAll_cons, balancer.onEvent_add open_, ih _ still]
    simp

namespace Worker

/-- A task that can take all its stream awaits does so, and waits for more. -/
theorem turn_of_stream {worker : Worker} (ready : worker.task = .ready) {home : Nat}
    {projection : Projection} {subscription : Subscription}
    (inbox : worker.inbox = .stream home projection subscription true)
    (open_ : subscription.cancelled = false)
    (few : subscription.awaiting.length < subscription.replay.length + Fabric.turnLimit) :
    let applied := worker.resolver.applyAll worker.balancer
      (subscription.awaiting.map projection.projectEvent)
    ∃ left, worker.turn =
      { worker with
        resolver := applied.1
        balancer := applied.2
        inbox := .stream home projection left true
        task := .parked } := by
  -- The stream gives all that it awaits, since that is less than the limit of a turn.
  have drained := (drain_of_gives (Subscription.gives_poll true)
    (subscription.replay.length + Fabric.turnLimit) subscription).1
  rw [if_neg (Nat.not_le_of_lt few), List.take_of_length_le (Nat.le_of_lt few), open_] at drained
  unfold turn
  rw [ready, inbox]
  dsimp only
  rw [Resolver.consume_total, drained]
  exact ⟨_, rfl⟩

/-- A task that starts at members has them all in its pool when it waits for the first time. -/
theorem rest_started (role : String) (home : Nat) (projection : Projection)
    (members : List PeerAddress) :
    let rested := (started role (.stream home projection (.startingAt members) true)).rest
    rested.resolver = { Resolver.forRole role with changes := members.length } ∧
      rested.balancer = ⟨members.map projection.project, 0, false⟩ := by
  -- A task starts with the members as its replay, and nothing else is awaited.
  have awaited : (Subscription.startingAt members).awaiting = members.map .add := by
    simp [Subscription.awaiting, Subscription.startingAt]
  have few : (Subscription.startingAt members).awaiting.length <
      members.length + Fabric.turnLimit := by
    rw [awaited, List.length_map]
    exact Nat.lt_add_of_pos_right (by decide)
  have read : (members.map .add).map projection.projectEvent =
      (members.map projection.project).map .add := by
    simp [Function.comp_def, Projection.projectEvent, ChangeEvent.map]
  let worker := started role (.stream home projection (.startingAt members) true)
  have ready : worker.task = .ready := rfl
  obtain ⟨left, turned⟩ := turn_of_stream ready rfl rfl few
  rw [awaited, read, Resolver.applyAll_adds _ rfl, Resolver.applyAll_of_serving rfl] at turned
  -- There is nothing left to take, and the task waits.
  have once : (turn^[1] worker).task.isDue = false := by
    rw [Function.iterate_one, turned]
    rfl
  have rested : worker.turn = worker.rest := iterate_turn_eq_rest once
  intro _
  show worker.rest.resolver = _ ∧ worker.rest.balancer = _
  rw [← rested, turned]
  simp [worker, started, Resolver.forRole, RoundRobin.empty]

end Worker

/-! ### What a pick comes to -/

/-- Where there are candidates, one of them has the next turn, and all of them stay. -/
theorem RoundRobin.exists_choice {balancer : RoundRobin} (open_ : balancer.shutDown = false)
    (some_ : balancer.pool ≠ []) :
    ∃ target left, balancer.choose = (some target, left) ∧ left.shutDown = false ∧
      left.pool ≠ [] := by
  -- Only a pool without candidates has no turn to give.
  obtain ⟨pool, shutDown, _⟩ := balancer.choose_eq
  rcases chosen : balancer.choose with ⟨candidate?, left⟩
  rw [chosen] at pool shutDown
  cases candidate? with
  | none => exact absurd (pool_eq_nil_of_choose open_ chosen).1 some_
  | some target => exact ⟨target, left, rfl, shutDown.trans open_, pool ▸ some_⟩

/-- A pick that has something new to look at is answered with the next candidate. -/
theorem Pick.poll_of_chosen {pick : Pick} {resolver : Resolver} {balancer left : RoundRobin}
    {target : Endpoint} (news : pick.seen? ≠ some resolver.changes)
    (serving : resolver.status = .serving) (chosen : balancer.choose = (some target, left)) :
    pick.poll resolver balancer = (.ready (.ok target), pick, left) := by
  -- There is something new to look at, the service goes on, and the turn is given.
  unfold poll
  rw [if_neg news, Resolver.terminalError?_eq_none.mpr serving, chosen]

/-- A pick that finds nobody waits for what it has not looked at yet. -/
theorem Pick.poll_of_nobody {resolver : Resolver} {balancer : RoundRobin}
    (serving : resolver.status = .serving) (nobody : balancer.pool = []) :
    fresh.poll resolver balancer = (.pending, ⟨some resolver.changes⟩, balancer) := by
  -- A fresh pick has seen nothing, and so it looks at the pool.
  have looks : fresh.seen? ≠ some resolver.changes := nofun
  unfold poll
  rw [if_neg looks, Resolver.terminalError?_eq_none.mpr serving,
    RoundRobin.choose_of_none (.inr nobody)]

namespace Walkthrough.Scene

variable {scene : Scene} {nodes : List (RunningNode Nat)} {launched service : Nat}
  {worker : Worker} {target : Endpoint} {left : RoundRobin}

/-! ### A resolver of the registration endpoints -/

/-- A resolver starts at the members, and no node has the stream that its task takes from. -/
theorem Invariant.follow (invariant : scene.Invariant nodes launched)
    (known : ∀ stream ∈ scene.cluster.launcher.streams,
      stream < (scene.fabric.registry membership).nextId) (projection : Projection) :
    let followed := (scene.fabric.follow membership projection true).value
    followed.1 = .ok scene.fabric.services.length ∧
      Invariant { scene with fabric := followed.2 } nodes launched ∧
      followed.2.worker? scene.fabric.services.length = some (.started projection.label
        (.stream membership projection (.startingAt (addresses nodes)) true)) := by
  -- Only the books of the membership and the list of services change.
  obtain ⟨shifts, books, created, met⟩ :=
    Fabric.follow_shifts invariant.scheduled invariant.inside invariant.lives projection true
  rw [invariant.members] at met
  intro followed
  have registries : followed.2.registries.length = scene.fabric.registries.length := by
    have lengths := congrArg List.length books
    rw [Fabric.length_books, Fabric.length_books] at lengths
    exact lengths
  have inside : membership < followed.2.registries.length := registries ▸ invariant.inside
  have book : (followed.2.registry membership).book = (scene.fabric.registry membership).book := by
    have found := Fabric.getElem?_books inside
    rw [books, Fabric.getElem?_books invariant.inside] at found
    exact (Option.some.inj found).symm
  refine ⟨created, ⟨invariant.servers, ?_, inside, ?_, shifts.scheduled, invariant.runs,
    invariant.launched, ?_⟩, met⟩
  · exact (congrArg Registry.Book.members book).trans invariant.members
  · exact (Registry.lives_of_book _ book).trans invariant.lives
  · -- The new task has a stream that was opened after those of the nodes.
    intro stream member id taken
    obtain ⟨service, found, place⟩ := Option.map_eq_some_iff.mp taken
    rcases Fabric.before_or_newest found with before | ⟨_, rfl⟩
    · obtain ⟨old, there, _, source⟩ := Fabric.mem_prepared (List.mem_of_getElem? before)
      obtain ⟨position, found⟩ := List.getElem?_of_mem there
      refine invariant.strangers stream member position ?_
      show scene.fabric.services[position]?.map _ = _
      rw [found, Option.map_some, ← source, place]
    · cases place
      exact Nat.lt_irrefl _ (known _ member)

/-! ### Picks -/

/-- A pick that is polled leaves nodes and members as they are, and all but the pool. -/
theorem Invariant.pollPick (invariant : scene.Invariant nodes launched)
    (met : scene.fabric.worker? service = some worker) {pick rest : Pick} {answer : Poll Choice}
    (polled : pick.poll worker.resolver worker.balancer = (answer, rest, left)) :
    ∃ woken fabric, scene.fabric.pollPick service pick = ((answer, woken), rest, fabric) ∧
      Invariant { scene with fabric } nodes launched ∧
      fabric.worker? service = some { worker with balancer := left } := by
  -- The pick concerns one service, and only the cursor of its pool moves.
  obtain ⟨same, kept, becomes⟩ := Fabric.pollPick_becomes invariant.scheduled met pick
  unfold Worker.pollPick at same kept becomes
  rw [polled] at same kept becomes
  exact ⟨pick.isWoken worker.resolver, _, Prod.ext same (Prod.ext kept rfl),
    invariant.becomes becomes, becomes.worker?_self⟩

/-- While there are candidates, a pick is answered at once with the next of them. -/
theorem Invariant.pick (invariant : scene.Invariant nodes launched)
    (met : scene.fabric.worker? service = some worker)
    (serving : worker.resolver.status = .serving)
    (chosen : worker.balancer.choose = (some target, left)) :
    let picked := (scene.pick service).value
    picked.1 = .ready (.ok target) ∧ picked.2.Invariant nodes launched ∧
      picked.2.fabric.worker? service = some { worker with balancer := left } := by
  -- A fresh pick looks at the pool whatever the count of changes is.
  have news : Pick.fresh.seen? ≠ some worker.resolver.changes := nofun
  obtain ⟨woken, fabric, polled, still, found⟩ :=
    invariant.pollPick met (Pick.poll_of_chosen news serving chosen)
  unfold Scene.pick
  rw [polled]
  exact ⟨rfl, still, found⟩

/-- Without candidates a pick waits, and is answered once the task has found some. -/
theorem Invariant.pick_of_waiting (invariant : scene.Invariant nodes launched)
    (met : scene.fabric.worker? service = some worker)
    (serving : worker.resolver.status = .serving) (nobody : worker.balancer.pool = [])
    (goesOn : worker.rest.resolver.status = .serving)
    (news : worker.rest.resolver.changes ≠ worker.resolver.changes)
    (chosen : worker.rest.balancer.choose = (some target, left)) :
    let picked := (scene.pick service).value
    (scene.fabric.pollPick service .fresh).1.1 = .pending ∧ picked.1 = .ready (.ok target) ∧
      picked.2.Invariant nodes launched ∧
      picked.2.fabric.worker? service = some { worker.rest with balancer := left } := by
  obtain ⟨woken, fabric, polled, still, kept⟩ :=
    invariant.pollPick met (Pick.poll_of_nobody serving nobody)
  -- While it waits, the task has its turns, and has something new for it.
  obtain ⟨waited, rested⟩ := still.wait
  have found := (rested service).trans (congrArg _ kept)
  have looks : (⟨some worker.resolver.changes⟩ : Pick).seen? ≠
      some worker.rest.resolver.changes := fun same => news (Option.some.inj same).symm
  obtain ⟨again, after, asked, last, left⟩ :=
    waited.pollPick found (Pick.poll_of_chosen looks goesOn chosen)
  have picked : (scene.pick service).value = (.ready (.ok target),
      { Scene.wait { scene with fabric } |>.value with fabric := after }) := by
    unfold Scene.pick
    rw [polled]
    simp only [Poll.isPending, if_true, Logged.bind_eq, asked, Logged.value_pure]
  rw [picked]
  exact ⟨congrArg (·.1.1) polled, rfl, last, left⟩

/-- The first of several picks is made before the others. -/
theorem value_picks_succ (answer : (scene.pick service).value.1 = .ready (.ok target))
    (count : Nat) :
    let rest := ((scene.pick service).value.2.picks service count).value
    (scene.picks service (count + 1)).value = (target :: rest.1, rest.2) := by
  -- The first pick is answered with a candidate, so that the others are made, too.
  rw [Scene.picks, Logged.bind_eq]
  generalize scene.pick service = picked at answer
  obtain ⟨⟨_, later⟩, log⟩ := picked
  obtain rfl : _ = Poll.ready (Except.ok target) := answer
  rfl

/-- While there are candidates, picks take turns among them. -/
theorem Invariant.picks (invariant : scene.Invariant nodes launched)
    (met : scene.fabric.worker? service = some worker)
    (serving : worker.resolver.status = .serving) (open_ : worker.balancer.shutDown = false)
    (some_ : worker.balancer.pool ≠ []) (count : Nat) :
    let resolved := (scene.picks service count).value
    resolved.1.map some = (worker.balancer.chooseMany count).1 ∧ resolved.2.1 = none ∧
      resolved.2.2.Invariant nodes launched := by
  -- The pool after a pick has the same candidates, so that the next one is answered at once.
  induction count generalizing scene worker with
  | zero => exact ⟨rfl, rfl, invariant⟩
  | succ count ih =>
    obtain ⟨target, left, chosen, goesOn, more⟩ := RoundRobin.exists_choice open_ some_
    obtain ⟨answer, still, found⟩ := invariant.pick met serving chosen
    obtain ⟨rest, noError, last⟩ := ih still found serving goesOn more
    rw [value_picks_succ answer, RoundRobin.chooseMany, chosen]
    exact ⟨congrArg (some target :: ·) rest, noError, last⟩

/-- The first of several picks waits, and then all of them take turns among the candidates. -/
theorem Invariant.picks_of_waiting (invariant : scene.Invariant nodes launched)
    (met : scene.fabric.worker? service = some worker)
    (serving : worker.resolver.status = .serving) (nobody : worker.balancer.pool = [])
    (goesOn : worker.rest.resolver.status = .serving)
    (news : worker.rest.resolver.changes ≠ worker.resolver.changes)
    (open_ : worker.rest.balancer.shutDown = false) (some_ : worker.rest.balancer.pool ≠ [])
    (count : Nat) :
    let resolved := (scene.picks service (count + 1)).value
    (scene.fabric.pollPick service .fresh).1.1 = .pending ∧
      resolved.1.map some = (worker.rest.balancer.chooseMany (count + 1)).1 ∧
      resolved.2.1 = none ∧ resolved.2.2.Invariant nodes launched := by
  -- Only the first pick waits, and those after it find a pool with candidates.
  obtain ⟨target, left, chosen, stays, more⟩ := RoundRobin.exists_choice open_ some_
  obtain ⟨pending, answer, still, found⟩ :=
    invariant.pick_of_waiting met serving nobody goesOn news chosen
  obtain ⟨rest, noError, last⟩ := still.picks found goesOn stays more count
  rw [value_picks_succ answer, RoundRobin.chooseMany, chosen]
  exact ⟨pending, congrArg (some target :: ·) rest, noError, last⟩

end Walkthrough.Scene

end PeerCluster
