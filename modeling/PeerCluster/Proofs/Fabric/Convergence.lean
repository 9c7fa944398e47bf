import PeerCluster.Proofs.Fabric.Between

/-! Every resolver converges to the membership that it follows, and only turns move its pool. -/

namespace PeerCluster.Fabric

open Machine

variable {strict : Nat → Projection → Prop} {fabric result : Fabric} {id registry : Nat}
  {projection : Projection} {balancer : RoundRobin}

/-- A resolver is open, follows a registry through a projection, and hands out a balancer's pool. -/
def Serves (fabric : Fabric) (id registry : Nat) (projection : Projection)
    (balancer : RoundRobin) : Prop :=
  ∃ service subscription, fabric.services[id]? = some service ∧
    service.resolver.status = .serving ∧
    service.source = .membership registry subscription projection ∧
    fabric.balancer service.balancer = balancer

/-- There is one balancer that an open resolver hands out the pool of. -/
theorem Serves.unique {other : RoundRobin}
    (serves : fabric.Serves id registry projection balancer)
    (again : fabric.Serves id registry projection other) : balancer = other := by
  obtain ⟨service, _, found, _, _, rfl⟩ := serves
  -- Services and balancers are looked up under the same id both times.
  obtain ⟨same, _, met, _, _, rfl⟩ := again
  obtain rfl := Option.some.inj (found.symm.trans met)
  rfl

/-- An open resolver is not over. -/
theorem Serves.not_isOver (serves : fabric.Serves id registry projection balancer) :
    ¬ fabric.IsOver id := by
  obtain ⟨service, _, found, serving, _⟩ := serves
  rintro ⟨same, met, ceased⟩
  -- The service that is over is the one that serves.
  obtain rfl := Option.some.inj (found.symm.trans met)
  exact ceased serving

/-! ### Runs -/

/-- In the fabric that holds nothing everything is in order. -/
theorem callInvariant_empty : empty.CallInvariant strict := by
  -- There is no service and no registry that anything could be said about.
  refine ⟨⟨fun _ => ?_, List.nodup_nil, List.nodup_nil, ?_⟩, idle_empty, lists_empty⟩
  · exact Registry.attached_empty
  · intro id service found
    cases found

/-- Every call keeps the invariant, and lets every resolver go on that it does not end. -/
theorem next_kept (invariant : fabric.CallInvariant strict)
    (distinct : ∀ registry projection, strict registry projection →
      ((fabric.registry registry).members.map projection.project).Nodup) (call : FabricCall) :
    (next fabric call).CallInvariant strict ∧ ∀ id, fabric.Persists (next fabric call) id ∨
      call.ends id = true ∧ (next fabric call).IsOver id := by
  -- Only a run gives turns, and all other calls leave pools alone.
  cases runs : call.runs with
  | true =>
    cases call with
    | run =>
      obtain ⟨invariant, _, persists⟩ := run_callInvariant invariant
      exact ⟨invariant, fun id => .inl (persists id)⟩
    | openRegistry | membership | follow | pick | pickNext | retain | release | close => cases runs
  | false =>
    obtain ⟨invariant, poolsKept⟩ := next_poolsKept invariant distinct runs
    exact ⟨invariant, poolsKept.goesOn⟩

/-- Calls keep the invariant, as strictly as the endpoints are distinct at every moment. -/
theorem callInvariant_after (invariant : fabric.CallInvariant strict) (calls : List FabricCall)
    (distinct : ∀ registry projection, strict registry projection →
      ∀ moment ∈ moments fabric calls,
        ((moment.registry registry).members.map projection.project).Nodup) :
    (after fabric calls).CallInvariant strict := by
  -- Every moment of the run that is left is a moment of the whole run.
  induction calls generalizing fabric with
  | nil => exact invariant
  | cons call rest ih =>
    have now := fun registry projection holds =>
      distinct registry projection holds fabric List.mem_cons_self
    refine ih (next_kept invariant now call).1 ?_
    intro registry projection holds moment member
    exact distinct registry projection holds moment (List.mem_cons_of_mem _ member)

/-- A setting in which nothing is strict, so that every run keeps the invariant in it. -/
def lenient (_ : Nat) (_ : Projection) : Prop :=
  False

/-- A resolver goes on, or one of the calls has ended it, and then it is over for good. -/
theorem goesOn_after (invariant : fabric.CallInvariant lenient)
    (calls : List FabricCall) (id : Nat) :
    fabric.Persists (after fabric calls) id ∨
      calls.any (·.ends id) = true ∧ (after fabric calls).IsOver id := by
  -- By induction on the calls, of which the first one may end the resolver.
  induction calls generalizing fabric with
  | nil => exact .inl (.refl fabric id)
  | cons call rest ih =>
    obtain ⟨invariant, goesOn⟩ := next_kept invariant nofun call
    rw [List.any_cons]
    -- Whoever is over after the first call stays so, and whoever goes on is left to the others.
    rcases ih invariant with later | ⟨ended, ceased⟩
    · rcases goesOn id with first | ⟨ends, ceased⟩
      · exact .inl (first.trans later)
      · exact .inr ⟨by rw [ends, Bool.true_or], ceased.persists later⟩
    · exact .inr ⟨by rw [ended, Bool.or_true], ceased⟩

/-- A resolver goes on as long as no call ends it. -/
theorem persists_after (invariant : fabric.CallInvariant lenient) (calls : List FabricCall)
    (spared : ∀ call ∈ calls, call.ends id = false) :
    fabric.Persists (after fabric calls) id := by
  rcases goesOn_after invariant calls id with persists | ⟨ended, _⟩
  · exact persists
  · -- Some call would have ended it, and none does.
    obtain ⟨call, member, ends⟩ := List.any_eq_true.mp ended
    rw [spared call member] at ends
    cases ends

/-- Calls that give no turn leave every resolver alone that they do not end. -/
theorem poolsKept_after (invariant : fabric.CallInvariant lenient) (calls : List FabricCall)
    (idle : ∀ call ∈ calls, call.runs = false) :
    fabric.PoolsKept (fun id => calls.any (·.ends id)) (after fabric calls) := by
  -- By induction on the calls, and a resolver that any of them ends need not stay the same.
  induction calls generalizing fabric with
  | nil => exact .refl _ fabric
  | cons call rest ih =>
    obtain ⟨first, later⟩ := List.forall_mem_cons.mp idle
    obtain ⟨invariant, poolsKept⟩ := next_poolsKept invariant nofun first
    exact poolsKept.trans (ih invariant later)

/-! ### Rest -/

/-- When no turn is due, no task has one coming. -/
theorem CallInvariant.resting (invariant : fabric.CallInvariant strict) (rest : fabric.due = [])
    {service : Service}
    (found : fabric.services[id]? = some service) : service.task.isDue = false := by
  -- The agenda names whoever has a turn coming, and it is empty.
  rw [← Bool.not_eq_true]
  intro due
  have member : id ∈ fabric.due := (invariant.lists.mem_iff id).mpr ⟨service, found, due⟩
  rw [rest] at member
  cases member

/-- When no turn is due, everything that an open resolver's stream has given is in its pool. -/
theorem Serves.arrived (serves : fabric.Serves id registry projection balancer)
    (invariant : fabric.CallInvariant strict) (rest : fabric.due = []) :
    balancer.pool.Perm ((fabric.registry registry).members.map projection.project) ∧
      balancer.shutDown = false ∧
      (strict registry projection →
        balancer.pool = (fabric.registry registry).members.map projection.project) := by
  obtain ⟨service, subscription, found, serving, source, rfl⟩ := serves
  obtain ⟨registry', subscription', projection', serviceSound⟩ :=
    invariant.sound.serviceSound id service found
  -- The service follows the registry that its source names.
  obtain ⟨rfl, rfl, rfl⟩ := EventSource.membership.inj (source.symm.trans serviceSound.source)
  cases serviceSound.serviceFollows with
  | ceased ceased leaving => exact absurd serving ceased
  | serving _ open_ catchesUp onStream =>
    have nothing : (fabric.registry registry).awaiting subscription = [] := by
      generalize task : service.task = phase at onStream
      cases onStream with
      | parked listens =>
        -- A task that waits has taken everything that is buffered.
        have asleep := invariant.idle id service found task
        rw [hasWork, Bool.or_eq_false_iff, source] at asleep
        have empty : (fabric.registry registry).buffered subscription = 0 :=
          Decidable.not_not.mp (of_decide_eq_false asleep.1)
        rw [← Registry.length_awaiting_of_listens _ listens] at empty
        exact List.eq_nil_of_length_eq_zero empty
      | ready listens =>
        -- A task that is ready would have a turn coming.
        have resting := invariant.resting rest found
        rw [task] at resting
        cases resting
      -- A task that is through has let go of its stream, and nothing more can come by it.
      | finished gone deaf => exact Registry.awaiting_of_deaf _ deaf
    obtain ⟨perm, eq⟩ := catchesUp.arrived nothing
    exact ⟨perm, open_, eq⟩

/-- When no turn is due and no handle is left, an open resolver's task is through. -/
theorem Serves.through (serves : fabric.Serves id registry projection balancer)
    (invariant : fabric.CallInvariant strict) (rest : fabric.due = [])
    (gone : (fabric.registry registry).lives = false) :
    ∃ service, fabric.services[id]? = some service ∧ service.task = .finished := by
  obtain ⟨service, subscription, found, serving, source, rfl⟩ := serves
  refine ⟨service, found, ?_⟩
  cases task : service.task with
  | finished => rfl
  | parked =>
    -- Without a handle the source has run dry, which would have woken the task.
    have asleep := invariant.idle id service found task
    simp [hasWork, source, isDry, gone] at asleep
  -- Tasks that are ready or told to stop would have a turn coming.
  | ready | aborted =>
    have resting := invariant.resting rest found
    rw [task] at resting
    cases resting

/-- A resolver that goes on stays open, and once its task is through, its pool stays as well. -/
theorem Serves.persists (serves : fabric.Serves id registry projection balancer)
    (persists : fabric.Persists result id) :
    ∃ later, result.Serves id registry projection later ∧
      ((∃ service, fabric.services[id]? = some service ∧ service.task = .finished) →
        later.pool = balancer.pool) := by
  -- All that an open resolver is made of is kept when it goes on.
  obtain ⟨service, subscription, found, serving, source, rfl⟩ := serves
  obtain ⟨again, met, balancer, source', status, through⟩ := persists service found
  refine ⟨result.balancer again.balancer,
    ⟨again, subscription, met, status.trans serving, source'.trans source, rfl⟩, ?_⟩
  rintro ⟨same, found', finished⟩
  obtain rfl := Option.some.inj (found'.symm.trans found)
  rw [balancer]
  exact (through finished).2

/-- Without a turn an open resolver has the pool that it had, or it is new and has none. -/
theorem PoolsKept.serves {ended : Nat → Bool} (poolsKept : fabric.PoolsKept ended result)
    (serves : result.Serves id registry projection balancer) :
    (∃ before, fabric.Serves id registry projection before ∧ before.pool = balancer.pool) ∨
      (fabric.services.length ≤ id ∧ balancer.pool = []) := by
  obtain ⟨later, subscription, found, serving, source, rfl⟩ := serves
  -- The resolver is an old one, or it was created since.
  by_cases known : id < fabric.services.length
  · have met : fabric.services[id]? = some fabric.services[id] := List.getElem?_eq_getElem known
    obtain ⟨again, found', balancer, source', stayed⟩ := poolsKept.kept id _ met
    obtain rfl := Option.some.inj (found'.symm.trans found)
    rcases stayed with same | ⟨_, ceased⟩
    · refine .inl ⟨_, ⟨_, subscription, met, same.status.symm.trans serving,
        source'.symm.trans source, rfl⟩, ?_⟩
      rw [balancer]
      exact same.pool.symm
    · -- A resolver that was ended does not serve.
      exact absurd serving ceased
  · have new := Nat.le_of_not_lt known
    exact .inr ⟨new, poolsKept.fresh id later found new serving⟩

/-! ### Picks and new resolvers -/

/-- Whoever gets a candidate gets it out of the pool of the open resolver that was asked. -/
theorem serves_of_picked (invariant : fabric.CallInvariant strict) {call : FabricCall}
    {candidate : Endpoint}
    (picked : answerTo fabric call = .picked (.ready (.ok candidate))) :
    ∃ id registry projection balancer, call.asked? = some id ∧
      fabric.Serves id registry projection balancer ∧ candidate ∈ balancer.pool := by
  -- Each call that hands something out asks a service that is found and open.
  have handsOut {id : Nat} {service : Service} (found : fabric.services[id]? = some service)
      (chosen : service.resolver.status = .serving ∧
        candidate ∈ (fabric.balancer service.balancer).pool) :
      ∃ registry projection balancer, fabric.Serves id registry projection balancer ∧
        candidate ∈ balancer.pool := by
    obtain ⟨registry, subscription, projection, serviceSound⟩ :=
      invariant.sound.serviceSound id service found
    exact ⟨registry, projection, _, ⟨service, subscription, found, chosen.1,
      serviceSound.source, rfl⟩,
      chosen.2⟩
  change (fabric.perform call).value.1 = _ at picked
  unfold perform at picked
  -- Only picks and streams of picks are answered by a candidate.
  cases call with
  | pick id pick =>
    dsimp only [pollPick] at picked
    cases found : fabric.services[id]? with
    | none =>
      rw [found] at picked
      cases picked
    | some service =>
      rw [found] at picked
      obtain ⟨_, _, chosen⟩ := pick.poll_eq service.resolver (fabric.balancer service.balancer)
      obtain ⟨registry, projection, balancer, serves, member⟩ :=
        handsOut found (chosen candidate (FabricAnswer.picked.inj picked))
      exact ⟨id, registry, projection, balancer, rfl, serves, member⟩
  | pickNext id stream =>
    dsimp only [pollPicks] at picked
    cases found : fabric.services[id]? with
    | none =>
      rw [found] at picked
      cases picked
    | some service =>
      rw [found] at picked
      obtain ⟨_, _, chosen⟩ := stream.poll_eq service.resolver (fabric.balancer service.balancer)
      obtain ⟨registry, projection, balancer, serves, member⟩ :=
        handsOut found (chosen candidate (FabricAnswer.picked.inj picked))
      exact ⟨id, registry, projection, balancer, rfl, serves, member⟩
  | membership id asked =>
    dsimp only at picked
    split at picked
    · cases picked
    · cases picked
  | follow id projection runtime =>
    dsimp only at picked
    split at picked
    · simp only [Logged.value_map] at picked
      split at picked
      · cases picked
      · cases picked
    · cases picked
  | openRegistry | retain | release | close | run => cases picked

/-- A resolver can be created as long as somebody holds a handle of the registry. -/
theorem following_of_lives (inside : registry < fabric.registries.length)
    (lives : (fabric.registry registry).lives = true) (projection : Projection) :
    answerTo fabric (.follow registry projection true) = .following fabric.services.length := by
  have reaches : fabric.reaches registry .subscribe = true := by
    simp [reaches, inside, RegistryCall.stream?]
  -- Opening the stream wakes tasks at most, so there are as many services as before.
  have services : (fabric.prepared registry).services.length = fabric.services.length :=
    List.length_map _
  show (fabric.perform (.follow registry projection true)).value.1 = _
  unfold perform
  dsimp only
  rw [reaches, lives, Bool.and_self, if_pos rfl, ← services]
  rfl

/-- A resolver that is created follows the registry, and is open. -/
theorem serves_of_following {runtime : Bool}
    (following : answerTo fabric (.follow registry projection runtime) = .following id) :
    ∃ balancer, (next fabric (.follow registry projection runtime)).Serves id registry projection
      balancer := by
  -- A follower is created only where the registry can be reached and somebody is left.
  change (fabric.perform (.follow registry projection runtime)).value.1 = _ at following
  show ∃ balancer, (fabric.perform (.follow registry projection runtime)).value.2.Serves _ _ _ _
  unfold perform at following ⊢
  dsimp only at following ⊢
  split at following
  · rename_i reached
    rw [if_pos reached]
    cases runtime with
    | true =>
      -- The new service comes last.
      obtain rfl : (fabric.prepared registry).services.length = id :=
        FabricAnswer.following.inj following
      refine ⟨_, fabric.follower registry projection, (fabric.registry registry).nextId, ?_, rfl,
        rfl, rfl⟩
      exact List.getElem?_concat_length
    -- Without a runtime nobody follows.
    | false => cases following
  · cases following

/-! ### Convergence -/

/-- Once the tasks have run no turn is due, and none is before anybody has a task. -/
theorem due_of_settled {done : List FabricCall}
    (settled : done = [] ∨ ∃ before, done = before ++ [.run]) : (after empty done).due = [] := by
  rcases settled with rfl | ⟨before, rfl⟩
  · rfl
  · -- A run brings all tasks to rest, from wherever it starts.
    have invariant : (after empty before).CallInvariant lenient :=
      callInvariant_after callInvariant_empty before nofun
    rw [after_append]
    exact (run_callInvariant invariant).2.1

/-- A resolver goes on from its creation for as long as no call ends it. -/
theorem serves_of_created {calls earlier later : List FabricCall} {runtime : Bool}
    (split : calls = earlier ++ .follow registry projection runtime :: later)
    (created : answerTo (after empty earlier) (.follow registry projection runtime) =
      .following id)
    (spared : ∀ call ∈ later, call.ends id = false) :
    ∃ balancer, (after empty calls).Serves id registry projection balancer := by
  have before : (after empty earlier).CallInvariant lenient :=
    callInvariant_after callInvariant_empty earlier nofun
  -- After its creation it serves, and it goes on through the calls that come later.
  obtain ⟨invariant, _⟩ := next_kept before nofun (.follow registry projection runtime)
  obtain ⟨balancer, serves⟩ := serves_of_following created
  obtain ⟨last, serves, _⟩ := serves.persists (persists_after invariant later spared)
  rw [split, after_append]
  exact ⟨last, serves⟩

/--
Every open resolver converges to the membership that it follows.

Right after the tasks have run until they wait, its pool are the endpoints of the members, of the
last ones if no handle is left, and it keeps this pool then until somebody ends it. Until the tasks
run again no candidate joins or leaves the pool of a resolver that stays open, so every candidate
given out is the endpoint of somebody who was a member when they ran last. A resolver can be created
while there is a handle, and it stays open until somebody ends it.
-/
theorem resolvers_converge {done idle : List FabricCall}
    (settled : done = [] ∨ ∃ before, done = before ++ [.run])
    (quiet : ∀ call ∈ idle, call.runs = false) :
    let ran := after empty done
    let final := after ran idle
    ran.due = [] ∧
    (∀ id registry projection balancer, ran.Serves id registry projection balancer →
      let endpoints := (ran.registry registry).members.map projection.project
      balancer.pool.Perm endpoints ∧
      balancer.candidateCount = (ran.registry registry).members.length ∧
      ((∀ moment ∈ moments empty done,
          ((moment.registry registry).members.map projection.project).Nodup) →
        balancer.pool = endpoints) ∧
      ∀ more : List FabricCall,
        ((∀ call ∈ more, call.ends id = false) →
          ∃ later, (after ran more).Serves id registry projection later) ∧
        ((ran.registry registry).lives = false →
          ∀ later, (after ran more).Serves id registry projection later →
            later.pool = balancer.pool)) ∧
    (∀ id registry projection balancer, final.Serves id registry projection balancer →
      (∃ before, ran.Serves id registry projection before ∧ before.pool = balancer.pool) ∨
        (ran.services.length ≤ id ∧ balancer.pool = [])) ∧
    (∀ call candidate, answerTo final call = .picked (.ready (.ok candidate)) →
      ∃ id registry projection balancer, call.asked? = some id ∧
        ran.Serves id registry projection balancer ∧
        ∃ peer ∈ (ran.registry registry).members, candidate = projection.project peer) ∧
    (∀ earlier registry projection runtime later id,
      done ++ idle = earlier ++ .follow registry projection runtime :: later →
      answerTo (after empty earlier) (.follow registry projection runtime) = .following id →
      (∀ call ∈ later, call.ends id = false) →
      ∃ balancer, final.Serves id registry projection balancer) ∧
    ∀ registry projection, registry < final.registries.length →
      (final.registry registry).lives = true →
      answerTo final (.follow registry projection true) = .following final.services.length := by
  intro ran final
  -- Order is kept track of for those followers whose endpoints have always been distinct.
  let strict (registry : Nat) (projection : Projection) : Prop :=
    ∀ moment ∈ moments empty done,
      ((moment.registry registry).members.map projection.project).Nodup
  have invariant : ran.CallInvariant strict :=
    callInvariant_after callInvariant_empty done fun _ _ holds => holds
  have always : ran.CallInvariant lenient := callInvariant_after callInvariant_empty done nofun
  have rest : ran.due = [] := due_of_settled settled
  have still : ran.PoolsKept _ final := poolsKept_after always idle quiet
  refine ⟨rest, ?_, fun _ _ _ _ => still.serves, ?_, ?_, ?_⟩
  · intro id registry projection balancer serves endpoints
    obtain ⟨perm, open_, eq⟩ := serves.arrived invariant rest
    refine ⟨perm, ?_, eq, ?_⟩
    · -- Counting candidates is counting the members they come from.
      rw [RoundRobin.candidateCount, open_, if_neg Bool.false_ne_true, perm.length_eq,
        List.length_map]
    · intro more
      constructor
      · intro spared
        obtain ⟨later, goesOn, _⟩ := serves.persists (persists_after always more spared)
        exact ⟨later, goesOn⟩
      · -- With no handle left its task is through, so that its pool stays while it is open.
        intro gone later goesOn
        rcases goesOn_after always more id with persists | ⟨_, ceased⟩
        · obtain ⟨again, same, through⟩ := serves.persists persists
          rw [goesOn.unique same]
          exact through (serves.through always rest gone)
        · exact absurd ceased goesOn.not_isOver
  · -- A candidate given out was in the pool when the tasks ran last, for a new pool has none.
    intro call candidate picked
    have finally_ : final.CallInvariant lenient := callInvariant_after always idle nofun
    obtain ⟨id, registry, projection, balancer, asked, serves, member⟩ :=
      serves_of_picked finally_ picked
    rcases still.serves serves with ⟨before, served, pool⟩ | ⟨_, none⟩
    · obtain ⟨perm, _⟩ := served.arrived invariant rest
      rw [← pool, perm.mem_iff, List.mem_map] at member
      obtain ⟨peer, known, rfl⟩ := member
      exact ⟨id, registry, projection, before, asked, served, peer, known, rfl⟩
    · -- A new resolver has no candidate to give out.
      rw [none] at member
      cases member
  · intro earlier registry projection runtime later id split created spared
    have whole : after empty (done ++ idle) = final := after_append empty done idle
    rw [← whole]
    exact serves_of_created split created spared
  · intro registry projection inside lives
    exact following_of_lives inside lives projection

/-- A member leaves after the tasks have run, and until they run again its endpoint is given out. -/
theorem resolvers_converge_of_eight_calls :
    let done : List FabricCall := [.openRegistry, .membership 0 (.add (.sample 10)),
      .follow 0 (.ofRole .discovery) true, .membership 0 (.add (.sample 20)),
      .membership 0 (.remove 0), .run]
    let idle : List FabricCall := [.membership 0 (.remove 0), .membership 0 .release]
    (∃ before, done = before ++ [.run]) ∧ (∀ call ∈ idle, call.runs = false) ∧
      (∃ balancer, (after empty done).Serves 0 0 (.ofRole .discovery) balancer ∧
        balancer.pool = [⟨"localhost", 21⟩]) ∧
      ∃ (registry : Nat) (projection : Projection),
        ∃ peer ∈ ((after empty done).registry registry).members,
          ⟨"localhost", 21⟩ = projection.project peer := by
  have settled : ∃ before : List FabricCall, [.openRegistry, .membership 0 (.add (.sample 10)),
      .follow 0 (.ofRole .discovery) true, .membership 0 (.add (.sample 20)),
      .membership 0 (.remove 0), .run] = before ++ [.run] := ⟨[_, _, _, _, _], rfl⟩
  have quiet : ∀ call ∈ [FabricCall.membership 0 (.remove 0), .membership 0 .release],
      call.runs = false := by decide
  obtain ⟨_, rested, _, picked, _, _⟩ := resolvers_converge (.inr settled) quiet
  have serves : (after empty [.openRegistry, .membership 0 (.add (.sample 10)),
      .follow 0 (.ofRole .discovery) true, .membership 0 (.add (.sample 20)),
      .membership 0 (.remove 0), .run]).Serves 0 0 (.ofRole .discovery) _ :=
    ⟨_, _, rfl, rfl, rfl, rfl⟩
  -- The endpoints are distinct at every moment, so the pool is in the order of the members.
  obtain ⟨_, _, ordered, _⟩ := rested 0 0 (.ofRole .discovery) _ serves
  refine ⟨settled, quiet, ⟨_, serves, ordered (by decide)⟩, ?_⟩
  obtain ⟨_, registry, projection, _, _, _, peer, member, same⟩ :=
    picked (.pick 0 .fresh) ⟨"localhost", 21⟩ rfl
  exact ⟨registry, projection, peer, member, same⟩

end PeerCluster.Fabric
