import Mathlib.Logic.Relation
import PeerCluster.Proofs.Resolver.Waiting
import PeerCluster.Proofs.Worker.Desk

/-! The life of a worker: what can happen to it at once, what always holds of it, and what stays. -/

namespace PeerCluster

/-- Notifications report no change in place, or there is a first one that does. -/
theorem ChangeNotification.modify_or {α : Type} (waiting : List (ChangeNotification α)) :
    (∀ notification ∈ waiting, notification.kind ≠ .modify) ∨
      ∃ earlier data later, waiting = earlier ++ ⟨.modify, data⟩ :: later ∧
        ∀ notification ∈ earlier, notification.kind ≠ .modify := by
  -- The first one either reports a change in place, or it stands before what the rest has.
  induction waiting with
  | nil => exact .inl nofun
  | cons first rest ih =>
    by_cases modifies : first.kind = .modify
    · obtain ⟨kind, data⟩ := first
      obtain rfl : kind = .modify := modifies
      exact .inr ⟨[], data, rest, rfl, nofun⟩
    · rcases ih with none | ⟨earlier, data, later, rfl, immutable⟩
      · exact .inl (List.forall_mem_cons.mpr ⟨modifies, none⟩)
      · exact .inr ⟨first :: earlier, data, later, rfl,
          List.forall_mem_cons.mpr ⟨modifies, immutable⟩⟩

namespace Worker

variable {worker later : Worker}

/-! ### What a turn comes to -/

section Turning

variable {waiting earlier rest : List (ChangeNotification Endpoint)} {data : Endpoint}
  {sending listening : Bool}

/-- A task applies all changes of its feed. -/
theorem turn_of_events (ready : worker.task = .ready) {changes : List (ChangeEvent Endpoint)}
    (inbox : worker.inbox = .feed ⟨.events changes, sending, listening⟩) :
    let applied := worker.resolver.applyAll worker.balancer changes
    worker.turn =
      { worker with
        resolver := applied.1
        balancer := applied.2
        inbox := .feed ⟨.events [], sending, sending && listening⟩
        task := if sending then .parked else .finished } := by
  -- Changes are read as they are, so nothing is left unread.
  have consumed := Resolver.consume_total id worker.resolver worker.balancer changes
  rw [List.map_id] at consumed
  dsimp only [id] at consumed
  unfold turn
  rw [ready, inbox]
  dsimp only
  rw [consumed]
  cases sending with
  | false | true => rfl

/-- A task applies all notifications of its feed if none of them reports a change in place. -/
theorem turn_of_immutable (ready : worker.task = .ready)
    (inbox : worker.inbox = .feed ⟨.notifications waiting, sending, listening⟩)
    (immutable : ∀ notification ∈ waiting, notification.kind ≠ .modify) :
    let applied := worker.resolver.applyAll worker.balancer (waiting.map (·.asEvent))
    worker.turn =
      { worker with
        resolver := applied.1
        balancer := applied.2
        inbox := .feed ⟨.notifications [], sending, sending && listening⟩
        task := if sending then .parked else .finished } := by
  -- All of them can be read, so nothing is left unread.
  have consumed := Resolver.consume_of_readable
    (fun notification member => ChangeNotification.toEvent_of_kind (immutable notification member))
    worker.resolver worker.balancer
  dsimp only at consumed
  unfold turn
  rw [ready, inbox]
  dsimp only
  rw [consumed]
  cases sending with
  | false | true => rfl

/-- A task fails over the first notification of a change in place, and takes none of the others. -/
theorem turn_of_modify (ready : worker.task = .ready)
    (inbox : worker.inbox =
      .feed ⟨.notifications (earlier ++ ⟨.modify, data⟩ :: rest), sending, listening⟩)
    (immutable : ∀ notification ∈ earlier, notification.kind ≠ .modify) :
    let applied := worker.resolver.applyAll worker.balancer (earlier.map (·.asEvent))
    worker.turn =
      { worker with
        resolver := applied.1.moveTo (.failed (.ofModify data))
        balancer := applied.2.shutdown
        inbox := worker.inbox.letGo
        task := .finished } := by
  -- The driver stops at the one that cannot be read, and drops what is behind it.
  have consumed := Resolver.consume_of_refused
    (fun notification member => ChangeNotification.toEvent_of_kind (immutable notification member))
    (ChangeNotification.toEvent_modify data) worker.resolver worker.balancer rest
  dsimp only at consumed
  unfold turn
  rw [ready, inbox]
  dsimp only
  rw [consumed]
  rfl

end Turning

/-- What the turn of a task comes to. -/
inductive Turned (worker : Worker) : Worker → Prop where
  /-- It has no turn coming. -/
  | rested (rest : worker.task.isDue = false) : Turned worker worker
  /-- It was told to stop. -/
  | stopped (aborted : worker.task = .aborted) :
      Turned worker { worker with task := .finished, inbox := worker.inbox.letGo }
  /-- It has applied what it took, which is all there was, unless it takes from a stream. -/
  | applied (ready : worker.task = .ready) (events : List (ChangeEvent Endpoint)) {inbox : Inbox}
      {task : TaskPhase}
      (held : task = .finished ∧ inbox.isHeld = false ∨
        (task = .parked ∨ task = .ready) ∧ inbox.isHeld = worker.inbox.isHeld)
      (form : inbox.form = worker.inbox.form)
      (more : task = .ready → worker.inbox.form = .members) :
      Turned worker
        { worker with
          resolver := (worker.resolver.applyAll worker.balancer events).1
          balancer := (worker.resolver.applyAll worker.balancer events).2
          inbox, task }
  /-- It came to a notification of a change in place. -/
  | failed (ready : worker.task = .ready) {earlier rest : List (ChangeNotification Endpoint)}
      {data : Endpoint} {sending listening : Bool}
      (inbox : worker.inbox =
        .feed ⟨.notifications (earlier ++ ⟨.modify, data⟩ :: rest), sending, listening⟩)
      (immutable : ∀ notification ∈ earlier, notification.kind ≠ .modify) :
      Turned worker
        { worker with
          resolver := (worker.resolver.applyAll worker.balancer
            (earlier.map (·.asEvent))).1.moveTo (.failed (.ofModify data))
          balancer := worker.balancer.shutdown
          inbox := worker.inbox.letGo
          task := .finished }

/-- When a task has applied what it took, it waits, goes on later, or lets go of its source. -/
theorem turned_settle (ready : worker.task = .ready) (events : List (ChangeEvent Endpoint))
    {inbox : Inbox} (held : inbox.isHeld = worker.inbox.isHeld)
    (form : inbox.form = worker.inbox.form) {α : Type} {tail : DrainTail}
    (more : tail = .limit → worker.inbox.form = .members) :
    let applied := worker.resolver.applyAll worker.balancer events
    let consumed : Resolver.Consumed α := ⟨applied.1, applied.2, none⟩
    worker.Turned ({ worker with inbox }.settle consumed tail) := by
  cases tail with
  | pending => exact .applied ready events (.inr ⟨.inl rfl, held⟩) form nofun
  | limit => exact .applied ready events (.inr ⟨.inr rfl, held⟩) form fun _ => more rfl
  | finished =>
    exact .applied ready events (.inl ⟨rfl, inbox.isHeld_letGo⟩) (inbox.form_letGo.trans form) nofun

/-- Every turn is of one of these kinds. -/
theorem turn_cases (worker : Worker) : worker.Turned worker.turn := by
  cases task : worker.task with
  | parked | finished =>
    have rest : worker.task.isDue = false := by
      rw [task]
      rfl
    rw [turn_of_rest rest]
    exact .rested rest
  | aborted =>
    rw [turn_of_aborted task]
    exact .stopped task
  | ready =>
    cases inbox : worker.inbox with
    | stream registry projection subscription lives =>
      have cancelled := subscription.cancelled_drain lives
        (subscription.replay.length + Fabric.turnLimit)
      unfold turn
      rw [task, inbox]
      dsimp only
      rw [Resolver.consume_total]
      apply turned_settle task
      · rw [inbox]
        exact congrArg not cancelled
      · rw [inbox]
        rfl
      · rw [inbox]
        exact fun _ => rfl
    | feed feed =>
      obtain ⟨queue, sending, listening⟩ := feed
      -- A feed is taken empty, and let go of if nobody fills it any more.
      have taken (events : List (ChangeEvent Endpoint)) (rest : FeedQueue)
          (form : (Inbox.feed ⟨rest, sending, sending && listening⟩).form = worker.inbox.form) :
          worker.Turned
            { worker with
              resolver := (worker.resolver.applyAll worker.balancer events).1
              balancer := (worker.resolver.applyAll worker.balancer events).2
              inbox := .feed ⟨rest, sending, sending && listening⟩
              task := if sending then .parked else .finished } := by
        cases sending with
        | false => exact .applied task events (.inl ⟨rfl, rfl⟩) form nofun
        | true =>
          refine .applied task events (.inr ⟨.inl rfl, ?_⟩) form nofun
          rw [inbox]
          rfl
      cases queue with
      | events waiting =>
        rw [turn_of_events task inbox]
        exact taken waiting (.events []) (by rw [inbox]; rfl)
      | notifications waiting =>
        rcases ChangeNotification.modify_or waiting with
          immutable | ⟨earlier, data, rest, rfl, immutable⟩
        · rw [turn_of_immutable task inbox immutable]
          exact taken (waiting.map (·.asEvent)) (.notifications []) (by rw [inbox]; rfl)
        · rw [turn_of_modify task inbox immutable]
          exact .failed task inbox immutable

/-! ### Steps -/

/-- What a worker can do at once, or what can happen to it. -/
inductive Steps : Worker → Worker → Prop where
  /-- Something was done at its source, which its task has not let go of by that. -/
  | filled (worker : Worker) {inbox : Inbox} (held : inbox.isHeld = worker.inbox.isHeld)
      (form : inbox.form = worker.inbox.form) : Steps worker (wake { worker with inbox })
  /-- It was asked for a candidate. -/
  | chosen {worker : Worker} (serving : worker.resolver.status = .serving) :
      Steps worker { worker with balancer := worker.balancer.choose.2 }
  /-- Others keep its resolver from being closed. -/
  | owned (worker : Worker) (owners : Nat) : Steps worker { worker with owners }
  | closed (worker : Worker) : Steps worker worker.close
  | turned (worker : Worker) : Steps worker worker.turn

/-- What always holds of a worker. -/
structure Invariant (worker : Worker) : Prop where
  awakeForWork : worker.AwakeForWork
  coupled : worker.resolver.Coupled worker.balancer
  /-- A task takes nothing any more once the service is over. -/
  ceased : worker.resolver.status ≠ .serving → worker.task = .aborted ∨ worker.task = .finished
  /-- A task is told to stop only by closing its service. -/
  aborted : worker.task = .aborted → worker.resolver.status = .closed
  /-- A service fails only over a change in place, and its task lets go of the source by that. -/
  failed : ∀ error, worker.resolver.status = .failed error →
    (∃ data : Endpoint, error = .ofModify data) ∧ worker.task = .finished
  /-- A task that is not through with its source holds it. -/
  held : worker.inbox.isHeld = true ↔ worker.task ≠ .finished

/-- Waking a task is all that is done by it. -/
theorem wake_eq (worker : Worker) :
    -- The task is put at ready if it waits for something that is there.
    worker.wake = worker ∨
      worker.task = .parked ∧ worker.wake = { worker with task := .ready } := by
  unfold wake
  split
  · rename_i woken
    rw [Bool.and_eq_true, decide_eq_true_eq] at woken
    exact .inr ⟨woken.1, rfl⟩
  · exact .inl rfl

/-- The invariant holds of a new worker, if nobody has let go of its source yet. -/
theorem invariant_started (role : String) {inbox : Inbox} (held : inbox.isHeld = true) :
    (started role inbox).Invariant where
  awakeForWork := nofun
  coupled := ⟨fun _ => rfl, fun ceased => absurd rfl ceased⟩
  ceased ceased := absurd rfl ceased
  aborted := nofun
  failed := nofun
  held := iff_of_true held nofun

/-- Only a service that goes on has a task that takes something at its next turn. -/
theorem Invariant.serving_of_ready (invariant : worker.Invariant) (ready : worker.task = .ready) :
    worker.resolver.status = .serving := by
  -- A service that is over has a task that was told to stop or is through.
  by_contra ceased
  rcases invariant.ceased ceased with task | task
  · cases ready.symm.trans task
  · cases ready.symm.trans task

/-- A service that is over is not closed again. -/
theorem Invariant.close_eq (invariant : worker.Invariant)
    (ceased : worker.resolver.status ≠ .serving) : worker.close = worker := by
  -- Status, pool and task are each what closing would make of them.
  have pool := invariant.coupled.ceased ceased
  have task : worker.task.stopped = worker.task := by
    rcases invariant.ceased ceased with task | task
    · rw [task]
      rfl
    · rw [task]
      rfl
  obtain ⟨resolver, balancer, inbox, phase, owners⟩ := worker
  show (⟨resolver.moveTo .closed, balancer.shutdown, inbox, phase.stopped, owners⟩ : Worker) = _
  rw [Resolver.moveTo_of_over ceased, task, ← pool]

/-- A service that goes on is closed for good. -/
theorem close_of_serving (serving : worker.resolver.status = .serving) :
    worker.close =
      { worker with
        resolver := { worker.resolver with
          status := .closed, changes := worker.resolver.changes + 1 }
        balancer := worker.balancer.shutdown
        task := worker.task.stopped } := by
  -- Closing a service that goes on enters the status and counts one more change.
  rw [← Resolver.moveTo_of_serving serving]
  rfl

/-- A task that is told to stop is about to, unless it has been through with its source before. -/
theorem stopped_eq (task : TaskPhase) :
    (task.stopped = .aborted ∧ task ≠ .finished) ∨
      (task.stopped = .finished ∧ task = .finished) := by
  -- Only a task that is through has nothing left to stop.
  cases task with
  | parked | ready | aborted => exact .inl ⟨rfl, nofun⟩
  | finished => exact .inr ⟨rfl, rfl⟩

/-- What is done at a source keeps the invariant of the worker on it. -/
theorem Invariant.filled (invariant : worker.Invariant) {inbox : Inbox}
    (held : inbox.isHeld = worker.inbox.isHeld) : (wake { worker with inbox }).Invariant := by
  -- The task is woken for what was filled in, or it had no reason to wait for it.
  have awakeForWork := awakeForWork_wake { worker with inbox }
  have same : ({ worker with inbox } : Worker).inbox.isHeld = worker.inbox.isHeld := held
  rcases wake_eq { worker with inbox } with asleep | ⟨parked, woken⟩
  · rw [asleep] at awakeForWork ⊢
    exact ⟨awakeForWork, invariant.coupled, invariant.ceased, invariant.aborted, invariant.failed,
      by rw [same]; exact invariant.held⟩
  · -- Whoever is woken was waiting, so its service is not over.
    have parked : worker.task = .parked := parked
    rw [woken]
    refine ⟨nofun, invariant.coupled, fun ceased => ?_, nofun, fun error failed => ?_, ?_⟩
    · have := invariant.ceased ceased
      rw [parked] at this
      rcases this with absurd | absurd <;> cases absurd
    · have := (invariant.failed error failed).2
      rw [parked] at this
      cases this
    · refine iff_of_true ?_ nofun
      rw [same, invariant.held, parked]
      nofun

/-- Closing a service keeps the invariant of its worker. -/
theorem Invariant.close (invariant : worker.Invariant) : worker.close.Invariant := by
  by_cases serving : worker.resolver.status = .serving
  · rw [close_of_serving serving]
    -- The task stops at its next turn, or it was through with its source before.
    refine ⟨fun parked => ?_, ⟨nofun, fun _ => rfl⟩, fun _ => ?_, fun _ => rfl, nofun,
      invariant.held.trans ?_⟩
    all_goals rcases stopped_eq worker.task with ⟨stopped, task⟩ | ⟨stopped, task⟩
    · cases stopped.symm.trans parked
    · cases stopped.symm.trans parked
    · exact .inl stopped
    · exact .inr stopped
    · exact iff_of_true task (by rw [stopped]; nofun)
    · exact iff_of_false (not_not_intro task) (not_not_intro stopped)
  · rw [invariant.close_eq serving]
    exact invariant

/-- A turn takes care of all that is at the source. -/
theorem Invariant.awakeForWork_turn (invariant : worker.Invariant) : worker.turn.AwakeForWork := by
  -- A task without a turn coming stays as it is, and so waits for nothing that is there.
  cases due : worker.task.isDue with
  | true => exact (turn_spec worker due).1
  | false =>
    rw [turn_of_rest due]
    exact invariant.awakeForWork

/-- A turn keeps the invariant. -/
theorem Invariant.turn (invariant : worker.Invariant) : worker.turn.Invariant := by
  -- Each way in which a turn can go is checked against all that always holds.
  have awakeForWork := invariant.awakeForWork_turn
  have turned := worker.turn_cases
  generalize worker.turn = later at awakeForWork turned
  cases turned with
  | rested => exact invariant
  | stopped aborted =>
    refine ⟨awakeForWork, invariant.coupled, fun _ => .inr rfl, nofun, fun error failed => ?_, ?_⟩
    · exact ⟨(invariant.failed error failed).1, rfl⟩
    · exact iff_of_false (by simp) (not_not_intro rfl)
  | applied ready events held form more =>
    have serving := invariant.serving_of_ready ready
    obtain ⟨status, _, open_⟩ :=
      worker.resolver.applyAll_of_open (invariant.coupled.serving serving) events
    have goesOn := status.trans serving
    refine ⟨awakeForWork, ⟨fun _ => open_, fun ceased => absurd goesOn ceased⟩,
      fun ceased => absurd goesOn ceased, fun aborted => ?_, fun error failed => ?_, ?_⟩
    · rcases held with ⟨task, _⟩ | ⟨task | task, _⟩
      all_goals cases task.symm.trans aborted
    · cases goesOn.symm.trans failed
    · -- The task holds the source exactly if it goes on.
      rcases held with ⟨through, gone⟩ | ⟨goesOn, same⟩
      · exact iff_of_false (by simp [gone]) (not_not_intro through)
      · refine iff_of_true ?_ ?_
        · rw [same, invariant.held, ready]
          nofun
        · rcases goesOn with task | task
          · rw [task]
            nofun
          · rw [task]
            nofun
  | @failed ready earlier rest data sending listening inbox immutable =>
    -- What came before the change in place was applied, and then the service ended.
    have serving := invariant.serving_of_ready ready
    have status : (worker.resolver.applyAll worker.balancer
        (earlier.map (·.asEvent))).1.status = .serving := by
      rw [Resolver.applyAll_of_serving serving, serving]
    rw [Resolver.moveTo_of_serving status] at awakeForWork ⊢
    refine ⟨awakeForWork, ⟨nofun, fun _ => rfl⟩, fun _ => .inr rfl, nofun, ?_, ?_⟩
    · rintro error ⟨⟩
      exact ⟨⟨data, rfl⟩, rfl⟩
    · exact iff_of_false (by simp) (not_not_intro rfl)

/-- Whatever can happen to a worker keeps the invariant. -/
theorem Steps.invariant (steps : Steps worker later) (invariant : worker.Invariant) :
    -- A step fills something in, takes a turn from the pool, counts owners, closes, or is a turn.
    later.Invariant := by
  cases steps with
  | filled held _ => exact invariant.filled held
  | chosen serving =>
    obtain ⟨_, shutDown, _⟩ := worker.balancer.choose_eq
    refine ⟨invariant.awakeForWork, ⟨fun _ => ?_, fun ceased => absurd serving ceased⟩,
      invariant.ceased, invariant.aborted, invariant.failed, invariant.held⟩
    exact shutDown.trans (invariant.coupled.serving serving)
  | owned owners =>
    exact ⟨invariant.awakeForWork, invariant.coupled, invariant.ceased, invariant.aborted,
      invariant.failed, invariant.held⟩
  | closed => exact invariant.close
  | turned => exact invariant.turn

/-! ### What stays -/

/-- What can be told of a worker later on by what it was before. -/
structure Precedes (before after : Worker) : Prop where
  role : after.resolver.role = before.resolver.role
  changes : before.resolver.changes ≤ after.resolver.changes
  /-- Whatever a waiting pick would have to look at is counted. -/
  unchanged : after.resolver.changes = before.resolver.changes →
    after.resolver = before.resolver ∧ after.balancer.pool = before.balancer.pool
  /-- A service that is over stays as it is. -/
  ceased : before.resolver.status ≠ .serving →
    after.resolver = before.resolver ∧ after.balancer = before.balancer
  /-- A task that is through with its source never takes it up again. -/
  through : before.task = .finished → after.task = .finished
  /-- Changes come in the same form as before. -/
  form : after.inbox.form = before.inbox.form

namespace Precedes

/-- A worker stays as it is by itself. -/
theorem refl (worker : Worker) : worker.Precedes worker :=
  ⟨rfl, Nat.le_refl _, fun _ => ⟨rfl, rfl⟩, fun _ => ⟨rfl, rfl⟩, id, rfl⟩

/-- What stays twice stays. -/
theorem trans {before between after : Worker} (first : before.Precedes between)
    (second : between.Precedes after) : before.Precedes after := by
  refine ⟨second.role.trans first.role, Nat.le_trans first.changes second.changes, ?_, ?_,
    second.through ∘ first.through, second.form.trans first.form⟩
  · intro same
    -- Nothing is counted in between if nothing is counted in all.
    have less := first.changes
    have more := second.changes
    obtain ⟨resolver, pool⟩ := second.unchanged (by omega)
    obtain ⟨earlier, before⟩ := first.unchanged (by omega)
    exact ⟨resolver.trans earlier, pool.trans before⟩
  · intro ceased
    obtain ⟨resolver, balancer⟩ := first.ceased ceased
    obtain ⟨later, after⟩ := second.ceased (by rw [resolver]; exact ceased)
    exact ⟨later.trans resolver, after.trans balancer⟩

/-- What is done at a source of the same form leaves what stays of the worker on it. -/
theorem filled (worker : Worker) {inbox : Inbox} (form : inbox.form = worker.inbox.form) :
    worker.Precedes (wake { worker with inbox }) := by
  -- Waking writes the phase of a task that was waiting, and so was not through.
  rcases wake_eq { worker with inbox } with asleep | ⟨parked, woken⟩
  · rw [asleep]
    exact ⟨rfl, Nat.le_refl _, fun _ => ⟨rfl, rfl⟩, fun _ => ⟨rfl, rfl⟩, id, form⟩
  · rw [woken]
    refine ⟨rfl, Nat.le_refl _, fun _ => ⟨rfl, rfl⟩, fun _ => ⟨rfl, rfl⟩, fun through => ?_, form⟩
    cases through.symm.trans parked

end Precedes

/-- Closing is counted, unless the service is over. -/
theorem Invariant.precedes_close (invariant : worker.Invariant) : worker.Precedes worker.close := by
  -- A service that goes on is counted to be closed, and one that is over stays as it is.
  by_cases serving : worker.resolver.status = .serving
  · rw [close_of_serving serving]
    refine ⟨rfl, Nat.le_succ _, fun same => ?_, fun ceased => absurd serving ceased, ?_, rfl⟩
    · exact absurd same (Nat.succ_ne_self _)
    · intro through
      show worker.task.stopped = .finished
      rw [through]
      rfl
  · rw [invariant.close_eq serving]
    exact .refl worker

/-- A turn counts every change it applies, and a failure. -/
theorem Invariant.precedes_turn (invariant : worker.Invariant) : worker.Precedes worker.turn := by
  -- Whatever a turn applies is counted, so that nothing changes without a count.
  have turned := worker.turn_cases
  generalize worker.turn = later at turned
  cases turned with
  | rested => exact .refl worker
  | stopped =>
    exact ⟨rfl, Nat.le_refl _, fun _ => ⟨rfl, rfl⟩, fun _ => ⟨rfl, rfl⟩, fun _ => rfl,
      worker.inbox.form_letGo⟩
  | applied ready events held form more =>
    have serving := invariant.serving_of_ready ready
    have counted := Resolver.applyAll_of_serving serving worker.balancer events
    refine ⟨?_, ?_, fun same => ?_, fun ceased => absurd serving ceased, fun through => ?_, form⟩
    · rw [counted]
    · rw [counted]
      exact Nat.le_add_right _ _
    · -- Where nothing is counted, nothing was applied.
      dsimp only at same
      rw [counted] at same
      have none : events = [] := List.eq_nil_of_length_eq_zero (Nat.add_eq_left.mp same)
      rw [none]
      exact ⟨rfl, rfl⟩
    · cases through.symm.trans ready
  | @failed ready earlier rest data sending listening inbox immutable =>
    have serving := invariant.serving_of_ready ready
    have counted := Resolver.applyAll_of_serving serving worker.balancer
      (earlier.map (·.asEvent))
    have goesOn : (worker.resolver.applyAll worker.balancer
        (earlier.map (·.asEvent))).1.status = .serving := by
      rw [counted, serving]
    rw [Resolver.moveTo_of_serving goesOn, counted]
    refine ⟨rfl, by dsimp only; omega, fun same => ?_, fun ceased => absurd serving ceased,
      fun _ => rfl, worker.inbox.form_letGo⟩
    dsimp only at same
    omega

/-- What can happen to a worker at once leaves what stays. -/
theorem Steps.precedes (steps : Steps worker later) (invariant : worker.Invariant) :
    worker.Precedes later := by
  -- Only closing and turns touch the resolver, and a turn from the pool leaves its members.
  cases steps with
  | filled _ form => exact .filled worker form
  | chosen serving =>
    obtain ⟨pool, _⟩ := worker.balancer.choose_eq
    exact ⟨rfl, Nat.le_refl _, fun _ => ⟨rfl, pool⟩, fun ceased => absurd serving ceased, id, rfl⟩
  | owned owners => exact ⟨rfl, Nat.le_refl _, fun _ => ⟨rfl, rfl⟩, fun _ => ⟨rfl, rfl⟩, id, rfl⟩
  | closed => exact invariant.precedes_close
  | turned => exact invariant.precedes_turn

/-! ### What comes of several steps -/

/-- What a worker can come to. -/
def Reaches : Worker → Worker → Prop :=
  Relation.ReflTransGen Steps

namespace Reaches

/-- Several steps keep the invariant, and what stays of a worker has stayed. -/
theorem kept (reaches : worker.Reaches later) (invariant : worker.Invariant) :
    later.Invariant ∧ worker.Precedes later := by
  -- The induction is on the steps, and each one starts from a worker that keeps the invariant.
  induction reaches with
  | refl => exact ⟨invariant, .refl worker⟩
  | tail _ steps ih =>
    obtain ⟨invariant, precedes⟩ := ih
    exact ⟨steps.invariant invariant, precedes.trans (steps.precedes invariant)⟩

/-- A worker comes to where it goes at once. -/
theorem single (steps : Steps worker later) : worker.Reaches later :=
  Relation.ReflTransGen.single steps

/-- A worker comes to where it is. -/
theorem refl (worker : Worker) : worker.Reaches worker :=
  Relation.ReflTransGen.refl

/-- A worker comes to where it goes from what it comes to. -/
theorem trans {last : Worker} (first : worker.Reaches later) (second : later.Reaches last) :
    worker.Reaches last :=
  Relation.ReflTransGen.trans first second

/-- Something is filled in. -/
theorem send (kind : NotificationKind) (target : Endpoint) (worker : Worker) :
    worker.Reaches (worker.send kind target).2 := by
  -- Filling something in keeps the source held or not, and of the same form.
  unfold Worker.send
  cases inbox : worker.inbox with
  | stream => exact refl worker
  | feed feed =>
    dsimp only
    split
    · apply single
      apply Steps.filled
      · rw [inbox]
        rfl
      · rw [inbox]
        exact Inbox.form_push feed kind target
    · exact refl worker

/-- Nothing is filled in any more. -/
theorem hangUp (worker : Worker) : worker.Reaches worker.hangUp := by
  -- Giving up the other end keeps the source held or not, and of the same form.
  unfold Worker.hangUp
  cases inbox : worker.inbox with
  | stream => exact refl worker
  | feed feed =>
    apply single
    apply Steps.filled
    · rw [inbox]
      rfl
    · rw [inbox]
      rfl

/-- The pool gives one turn, or none. -/
theorem choose {balancer : RoundRobin}
    (turn : balancer = worker.balancer ∨
      worker.resolver.status = .serving ∧ balancer = worker.balancer.choose.2) :
    worker.Reaches { worker with balancer } := by
  -- The pool is the same, or a turn of it was taken while the service went on.
  rcases turn with same | ⟨serving, turn⟩
  · rw [same]
    exact refl worker
  · rw [turn]
    exact single (.chosen serving)

/-- A pick looks at a resolver and at its pool. -/
theorem pollPick (pick : Pick) (worker : Worker) : worker.Reaches (worker.pollPick pick).2.2 :=
  choose (pick.poll_turn worker.resolver worker.balancer)

/-- A stream of picks looks at a resolver and at its pool. -/
theorem pollPicks (stream : PickStream) (worker : Worker) :
    worker.Reaches (worker.pollPicks stream).2.2 :=
  choose (stream.poll_turn worker.resolver worker.balancer)

/-- Somebody ceases to keep the resolver from being closed. -/
theorem release (worker : Worker) : worker.Reaches worker.release := by
  -- One owner less is a step, and the last one closes in a second step.
  have fewer := single (.owned worker (worker.owners - 1))
  unfold Worker.release
  dsimp only
  split
  · exact fewer.trans (single (.closed _))
  · exact fewer

/-- A task is given its turns. -/
theorem rest (worker : Worker) : worker.Reaches worker.rest := by
  -- A run is a number of turns, and each of them is one step.
  have turns (count : Nat) : worker.Reaches (turn^[count] worker) := by
    induction count with
    | zero => exact refl worker
    | succ count ih =>
      rw [Function.iterate_succ_apply']
      exact ih.trans (single (.turned _))
  exact turns _

end Reaches

end Worker

end PeerCluster
