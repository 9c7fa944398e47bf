import Mathlib.Logic.Function.Iterate
import PeerCluster.Fabric
import PeerCluster.Proofs.Fabric.Agenda
import PeerCluster.Proofs.Registry.Awaiting

/-! Workers: one service on its own, with its pool, its source, and what its task does in a turn. -/

namespace PeerCluster

/-! ### Sources -/

namespace Subscription

/-- A stream gives what it awaits, and then it goes on while it is listened to and can be fed. -/
theorem gives_poll (lives : Bool) :
    Gives (poll lives) awaiting fun subscription => lives && !subscription.cancelled := by
  intro subscription
  rcases subscription.poll_awaiting lives with ⟨event, rest, awaited, answer, left⟩ | nothing
  · exact .inl ⟨event, rest, awaited, answer, left, by simp only [cancelled_poll]⟩
  · exact .inr nothing

/-- Asking a stream again and again does not cancel it. -/
theorem cancelled_drain (lives : Bool) (limit : Nat) (subscription : Subscription) :
    (drain (poll lives) limit subscription).2.cancelled = subscription.cancelled := by
  refine drain_kept (fun left : Subscription => left.cancelled = subscription.cancelled) ?_ limit
    rfl
  intro before same
  rw [cancelled_poll, same]

/-- What is listened to awaits all that is buffered. -/
theorem length_awaiting {subscription : Subscription} (open_ : subscription.cancelled = false) :
    subscription.awaiting.length = subscription.buffered := by
  simp [awaiting, buffered, open_]

end Subscription

/-- What the task of a service finds at its source. -/
inductive Inbox where
  /-- A stream of a registry, whose items are seen through a projection. -/
  | stream (registry : Nat) (projection : Projection) (subscription : Subscription) (lives : Bool)
  | feed (feed : Feed)

/-- In which form changes come to a task. -/
inductive Form where
  /-- As changes of the members of a registry. -/
  | members
  | events
  | notifications
deriving DecidableEq, Repr

namespace Inbox

/-- How many items wait. -/
def backlog : Inbox → Nat
  | .stream _ _ subscription _ => subscription.buffered
  | .feed source => source.queue.length

/-- Whether nothing comes any more. -/
def isDry : Inbox → Bool
  | .stream _ _ _ lives => !lives
  | .feed source => !source.sending

/-- Whether a task would find an item, or the end. -/
def hasWork (inbox : Inbox) : Bool :=
  inbox.backlog ≠ 0 || inbox.isDry

/-- Whether the task has not let go of its source yet. -/
def isHeld : Inbox → Bool
  | .stream _ _ subscription _ => !subscription.cancelled
  | .feed source => source.listening

/-- What it carries. -/
def form : Inbox → Form
  | .stream .. => .members
  | .feed source =>
    match source.queue with
    | .events _ => .events
    | .notifications _ => .notifications

/-- The notifications that wait. -/
def waiting : Inbox → List (ChangeNotification Endpoint)
  | .feed ⟨.notifications waiting, _, _⟩ => waiting
  | _ => []

/-- What is left of a source that the task has let go of. -/
def letGo : Inbox → Inbox
  | .stream registry projection subscription lives =>
    .stream registry projection subscription.ended lives
  | .feed source => .feed { source with listening := false, queue := source.queue.cleared }

/-- Only a feed carries notifications. -/
theorem eq_feed_of_form {inbox : Inbox} (form : inbox.form = .notifications) :
    ∃ sending listening, inbox = .feed ⟨.notifications inbox.waiting, sending, listening⟩ := by
  -- The other two kinds of sources say that they carry something else.
  cases inbox with
  | stream => cases form
  | feed source =>
    obtain ⟨queue, sending, listening⟩ := source
    cases queue with
    | events => cases form
    | notifications => exact ⟨sending, listening, rfl⟩

/-- What a feed carries does not change by filling something in. -/
theorem form_push (feed : Feed) (kind : NotificationKind) (target : Endpoint) :
    form (.feed { feed with queue := feed.queue.push kind target }) = form (.feed feed) := by
  -- A feed is filled with items of the kind that it carries.
  obtain ⟨queue, sending, listening⟩ := feed
  cases queue with
  | notifications waiting => rfl
  | events waiting =>
    cases kind with
    | add | modify | delete => rfl

/-- What it carries does not change by letting go of it. -/
@[simp] theorem form_letGo (inbox : Inbox) : inbox.letGo.form = inbox.form := by
  -- A source is let go of in the form that it had.
  cases inbox with
  | stream => rfl
  | feed source =>
    obtain ⟨queue, sending, listening⟩ := source
    cases queue with
    | events | notifications => rfl

/-- Nothing is kept of a source that was let go of. -/
@[simp] theorem waiting_letGo (inbox : Inbox) : inbox.letGo.waiting = [] := by
  -- A feed that was let go of has been cleared, and no other source has notifications.
  cases inbox with
  | stream => rfl
  | feed source =>
    obtain ⟨queue, sending, listening⟩ := source
    cases queue with
    | events | notifications => rfl

/-- Nobody holds a source that was let go of. -/
@[simp] theorem isHeld_letGo (inbox : Inbox) : inbox.letGo.isHeld = false := by
  -- The stream is cancelled, or the end of the feed is given up.
  cases inbox with
  | stream => simp [letGo, isHeld]
  | feed => rfl

end Inbox

/-! ### Workers -/

/-- A service on its own: its resolver and its pool, its source and its task. -/
structure Worker where
  resolver : Resolver
  balancer : RoundRobin
  inbox : Inbox
  task : TaskPhase
  owners : Nat

namespace Worker

variable {worker : Worker}

/-- The task of a worker does not wait for a source that has something for it. -/
def AwakeForWork (worker : Worker) : Prop :=
  worker.task = .parked → worker.inbox.hasWork = false

/-- Gives a waiting task a turn if its source has something for it. -/
def wake (worker : Worker) : Worker :=
  if worker.task = .parked && worker.inbox.hasWork then { worker with task := .ready } else worker

/-- A woken task does not wait in vain. -/
theorem awakeForWork_wake (worker : Worker) : worker.wake.AwakeForWork := by
  -- It was woken just now, or the source had nothing for it.
  unfold wake AwakeForWork
  split
  · intro parked
    cases parked
  · -- It was not woken, and that for want of work.
    rename_i asleep
    intro parked
    simpa [parked] using asleep

/-- Nobody is woken who does not wait in vain. -/
theorem AwakeForWork.wake_eq (awakeForWork : worker.AwakeForWork) : worker.wake = worker := by
  -- Waking would need a task that waits while its source has something for it.
  unfold wake
  refine if_neg fun woken => ?_
  rw [Bool.and_eq_true, decide_eq_true_eq] at woken
  rw [awakeForWork woken.1] at woken
  cases woken.2

/-- Puts back what a task worked on, and lets go of the source if the task is through with it. -/
def settle {α : Type} (worker : Worker) (consumed : Resolver.Consumed α) (tail : DrainTail) :
    Worker :=
  let worker := { worker with resolver := consumed.resolver, balancer := consumed.balancer }
  match consumed.unread?, tail with
  | some _, _ => { worker with task := .finished, inbox := worker.inbox.letGo }
  | none, .finished => { worker with task := .finished, inbox := worker.inbox.letGo }
  | none, .pending => { worker with task := .parked }
  | none, .limit => { worker with task := .ready }

/-- Gives the task its turn: it works through what its source has ready. -/
def turn (worker : Worker) : Worker :=
  match worker.task, worker.inbox with
  | .aborted, inbox => { worker with task := .finished, inbox := inbox.letGo }
  | .ready, .stream registry projection subscription lives =>
    let limit := subscription.replay.length + Fabric.turnLimit
    let (drained, rest) := drain (Subscription.poll lives) limit subscription
    let consumed := worker.resolver.consume
      (fun event => .quiet (.ok (projection.projectEvent event))) worker.balancer drained.items
    { worker with inbox := .stream registry projection rest lives }.settle consumed.value
      drained.tail
  | .ready, .feed feed =>
    let tail := if feed.sending then DrainTail.pending else .finished
    match feed.queue with
    | .events waiting =>
      let consumed := worker.resolver.consume (fun event => .quiet (.ok event)) worker.balancer
        waiting
      { worker with inbox := .feed { feed with queue := .events [] } }.settle consumed.value tail
    | .notifications waiting =>
      let consumed := worker.resolver.consume ChangeNotification.toEvent worker.balancer waiting
      let rest := FeedQueue.notifications (consumed.value.unread?.getD [])
      { worker with inbox := .feed { feed with queue := rest } }.settle consumed.value tail
  | _, _ => worker

/-- Whoever has no turn coming does nothing with one. -/
theorem turn_of_rest (rest : worker.task.isDue = false) : worker.turn = worker := by
  -- The other two phases have a turn coming.
  unfold turn
  cases task : worker.task with
  | parked | finished => rfl
  | ready | aborted =>
    rw [task] at rest
    cases rest

/-- Whoever was told to stop lets go of the source, and does nothing else. -/
theorem turn_of_aborted (aborted : worker.task = .aborted) :
    worker.turn = { worker with task := .finished, inbox := worker.inbox.letGo } := by
  unfold turn
  rw [aborted]

/-- After so many turns that the task has none coming, more of them would change nothing. -/
theorem iterate_turn_unique {count other : Nat} (rest : (turn^[count] worker).task.isDue = false)
    (again : (turn^[other] worker).task.isDue = false) :
    turn^[count] worker = turn^[other] worker := by
  -- Whichever count is larger, the turns beyond the smaller one are given to somebody at rest.
  rcases Nat.le_total count other with fewer | more
  · obtain ⟨extra, rfl⟩ := Nat.exists_eq_add_of_le' fewer
    rw [Function.iterate_add_apply, Function.iterate_fixed (turn_of_rest rest)]
  · obtain ⟨extra, rfl⟩ := Nat.exists_eq_add_of_le' more
    rw [Function.iterate_add_apply, Function.iterate_fixed (turn_of_rest again)]

/-! ### What a turn leaves -/

/-- What a task that worked through its source is told to do next. -/
theorem task_settle {α : Type} (worker : Worker) (consumed : Resolver.Consumed α)
    (tail : DrainTail) :
    let settled := worker.settle consumed tail
    settled.task = .finished ∨
      (settled.inbox = worker.inbox ∧ consumed.unread? = none ∧
        (settled.task = .parked ∧ tail = .pending ∨ settled.task = .ready ∧ tail = .limit)) := by
  -- A task is through if something is left unread, or else the tail of the drain decides.
  unfold settle
  cases unread : consumed.unread? with
  | some rest => exact .inl rfl
  | none =>
    cases tail with
    | finished => exact .inl rfl
    | pending => exact .inr ⟨rfl, rfl, .inl ⟨rfl, rfl⟩⟩
    | limit => exact .inr ⟨rfl, rfl, .inr ⟨rfl, rfl⟩⟩

/-- A task that is through with its source waits for nothing, and has no turn coming. -/
theorem spec_of_finished (finished : worker.task = .finished) {fewer : Prop} :
    worker.AwakeForWork ∧ (worker.task.isDue = true → fewer) := by
  -- Its phase is neither waiting nor ready.
  refine ⟨fun parked => ?_, fun due => ?_⟩
  · rw [finished] at parked
    cases parked
  · rw [finished] at due
    cases due

/-- What is said of the source when a task parks, and when it reaches the limit, is enough. -/
theorem settle_spec {α : Type} {consumed : Resolver.Consumed α} {tail : DrainTail} {bound : Nat}
    (parks : consumed.unread? = none → tail = .pending → worker.inbox.hasWork = false)
    (limited : tail = .limit → worker.inbox.backlog < bound) :
    let settled := worker.settle consumed tail
    settled.AwakeForWork ∧
      (settled.task.isDue = true → settled.task = .ready ∧ settled.inbox.backlog < bound) := by
  -- The task is through, it parks, or it has reached the limit.
  rcases task_settle worker consumed tail with
    finished | ⟨same, unread, ⟨parked, pending⟩ | ⟨ready, limit⟩⟩
  · exact spec_of_finished finished
  · refine ⟨fun _ => ?_, fun due => ?_⟩
    · rw [same]
      exact parks unread pending
    · rw [parked] at due
      cases due
  · refine ⟨fun parked => ?_, fun _ => ⟨ready, ?_⟩⟩
    · rw [ready] at parked
      cases parked
    · rw [same]
      exact limited limit

/-- A turn takes a stream empty unless it reaches the limit, and then it has taken something. -/
theorem drained_spec (registry : Nat) (projection : Projection) (subscription : Subscription)
    (lives : Bool) :
    let drained := drain (Subscription.poll lives)
      (subscription.replay.length + Fabric.turnLimit) subscription
    (drained.1.tail = .pending →
      (Inbox.stream registry projection drained.2 lives).hasWork = false) ∧
    (drained.1.tail = .limit → drained.2.buffered < subscription.buffered) := by
  -- All that the stream awaits is taken, up to the limit.
  obtain ⟨answer, awaits⟩ := drain_of_gives (Subscription.gives_poll lives)
    (subscription.replay.length + Fabric.turnLimit) subscription
  have cancelled := subscription.cancelled_drain lives
    (subscription.replay.length + Fabric.turnLimit)
  intro drained
  change drained.1 = _ at answer
  change drained.2.cancelled = _ at cancelled
  change Subscription.awaiting drained.2 = _ at awaits
  refine ⟨fun pending => ?_, fun limited => ?_⟩
  · -- A stream that is pending was taken empty, and can still be fed.
    rw [answer] at pending
    dsimp only at pending
    split at pending
    · cases pending
    · rename_i short
      split at pending
      · rename_i goesOn
        rw [Bool.and_eq_true, Bool.not_eq_true'] at goesOn
        have nothing : drained.2.awaiting = [] := by
          rw [awaits]
          exact List.drop_eq_nil_of_le (by omega)
        have length := Subscription.length_awaiting (cancelled.trans goesOn.2)
        rw [nothing, List.length_nil] at length
        simp [Inbox.hasWork, Inbox.backlog, Inbox.isDry, goesOn.1, ← length]
      · cases pending
  · -- At the limit as many items were taken as it allows, which is one at least.
    rw [answer] at limited
    dsimp only at limited
    split at limited
    · rename_i more
      have positive : 0 < Fabric.turnLimit := by decide
      have open_ : subscription.cancelled = false := by
        cases ended : subscription.cancelled with
        | false => rfl
        | true =>
          simp only [Subscription.awaiting, ended, if_true, List.length_nil] at more
          omega
      have before := Subscription.length_awaiting open_
      have rest := Subscription.length_awaiting (cancelled.trans open_)
      rw [awaits, List.length_drop] at rest
      omega
    · split at limited
      · cases limited
      · cases limited

/-- A turn leaves nobody waiting in vain, and who can use another one has taken something. -/
theorem turn_spec (worker : Worker) (due : worker.task.isDue = true) :
    worker.turn.AwakeForWork ∧ (worker.turn.task.isDue = true →
      worker.turn.task = .ready ∧ worker.turn.inbox.backlog < worker.inbox.backlog) := by
  -- Only a task that is ready reads its source, and a stream and a feed are read differently.
  obtain ⟨resolver, balancer, inbox, task, owners⟩ := worker
  cases task with
  | parked | finished => cases due
  | aborted => exact spec_of_finished rfl
  | ready =>
    cases inbox with
    | stream registry projection subscription lives =>
      obtain ⟨parks, limited⟩ := drained_spec registry projection subscription lives
      exact settle_spec (fun _ => parks) limited
    | feed feed =>
      obtain ⟨queue, sending, listening⟩ := feed
      -- A feed is always taken empty, unless the resolver fails over one of its items.
      have empty {rest : FeedQueue} (none : rest.length = 0)
          (pending : (if sending then DrainTail.pending else .finished) = .pending) :
          (Inbox.feed ⟨rest, sending, listening⟩).hasWork = false := by
        cases sending with
        | true => simp [Inbox.hasWork, Inbox.backlog, Inbox.isDry, none]
        | false => cases pending
      have unlimited : (if sending then DrainTail.pending else .finished) ≠ .limit := by
        cases sending
        · nofun
        · nofun
      unfold turn
      cases queue with
      | events waiting =>
        exact settle_spec (fun _ pending => empty rfl pending) fun limited =>
          absurd limited unlimited
      | notifications waiting =>
        refine settle_spec (fun unread pending => empty ?_ pending) fun limited =>
          absurd limited unlimited
        rw [unread]
        rfl

/-! ### As many turns as it takes -/

/-- Gives the task turns until it has none coming. -/
def rest (worker : Worker) : Worker :=
  -- Who can use another turn has taken an item in this one.
  turn^[worker.inbox.backlog + 1] worker

/-- As many turns as there are items, and one more, are enough. -/
theorem isDue_iterate_turn {count : Nat} (worker : Worker) (enough : worker.inbox.backlog < count) :
    (turn^[count] worker).task.isDue = false := by
  -- The induction is on the turns, of which each takes an item or is the last one.
  induction count generalizing worker with
  | zero => exact absurd enough (Nat.not_lt_zero _)
  | succ count ih =>
    rw [Function.iterate_succ_apply]
    cases again : worker.turn.task.isDue with
    | false =>
      rw [Function.iterate_fixed (turn_of_rest again)]
      exact again
    | true =>
      cases due : worker.task.isDue with
      | false =>
        -- A task without a turn coming has none after a turn either.
        rw [turn_of_rest due, due] at again
        cases again
      | true =>
        have fewer := ((turn_spec worker due).2 again).2
        exact ih worker.turn (by omega)

/-- Once it was given its turns, a task has none coming. -/
@[simp] theorem isDue_rest (worker : Worker) : worker.rest.task.isDue = false :=
  isDue_iterate_turn worker (Nat.lt_succ_self _)

/-- A task that has no turn coming is given none. -/
theorem rest_of_rest (rest : worker.task.isDue = false) : worker.rest = worker :=
  Function.iterate_fixed (turn_of_rest rest) _

/-- However many turns it took, a task that has none coming was given all of them. -/
theorem iterate_turn_eq_rest {count : Nat} (done : (turn^[count] worker).task.isDue = false) :
    turn^[count] worker = worker.rest :=
  iterate_turn_unique done worker.isDue_rest

end Worker

end PeerCluster
