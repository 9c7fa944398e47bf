import PeerCluster.Proofs.Worker.Holding

/-! Notifications as changes: a worker does with either what it does with the other. -/

namespace PeerCluster

/-! ### Feeds -/

namespace FeedQueue

/-- The same items, each as the change that it reports. -/
def asEvents : FeedQueue → FeedQueue
  | events waiting => events waiting
  | notifications waiting => events (waiting.map (·.asEvent))

/-- No item reports a change in place. -/
def Immutable : FeedQueue → Prop
  | events _ => True
  | notifications waiting => ∀ notification ∈ waiting, notification.kind ≠ .modify

/-- There are as many changes as notifications. -/
@[simp] theorem length_asEvents (queue : FeedQueue) : queue.asEvents.length = queue.length := by
  -- Each notification is converted on its own.
  cases queue with
  | events waiting => rfl
  | notifications waiting => exact List.length_map _

/-- What is filled in is the change that it reports. -/
theorem asEvents_push (queue : FeedQueue) (kind : NotificationKind) (target : Endpoint) :
    (queue.push kind target).asEvents = queue.asEvents.push kind target := by
  -- A feed that carries changes converts what is filled in at once.
  cases queue with
  | events waiting =>
    cases kind with
    | add | modify | delete => rfl
  | notifications waiting =>
    dsimp only [push, asEvents]
    rw [List.map_append]
    cases kind with
    | add | modify | delete => rfl

/-- Nothing waits where nothing waited. -/
theorem asEvents_cleared (queue : FeedQueue) : queue.cleared.asEvents = queue.asEvents.cleared := by
  -- Nothing is left in either, in whatever form it came.
  cases queue with
  | events | notifications => rfl

end FeedQueue

namespace Inbox

/-- The same source, whose feed carries changes if it is one. -/
def asEvents : Inbox → Inbox
  | stream registry projection subscription lives => stream registry projection subscription lives
  | feed source => feed { source with queue := source.queue.asEvents }

/-- Nothing that waits reports a change in place. -/
def Immutable : Inbox → Prop
  | stream .. => True
  | feed source => source.queue.Immutable

/-- As much waits in the one as in the other. -/
theorem backlog_asEvents (inbox : Inbox) : inbox.asEvents.backlog = inbox.backlog := by
  cases inbox with
  | stream => rfl
  | feed source => exact source.queue.length_asEvents

/-- There is something for a task in the one if there is in the other. -/
theorem hasWork_asEvents (inbox : Inbox) : inbox.asEvents.hasWork = inbox.hasWork := by
  -- Whether more can come is said by the registry, or by the other end of the feed.
  have dry : inbox.asEvents.isDry = inbox.isDry := by
    cases inbox with
    | stream | feed => rfl
  unfold hasWork
  rw [backlog_asEvents, dry]

/-- What carries no notifications is the same. -/
theorem asEvents_of_form {inbox : Inbox} (form : inbox.form ≠ .notifications) :
    inbox.asEvents = inbox ∧ inbox.Immutable := by
  cases inbox with
  | stream => exact ⟨rfl, trivial⟩
  | feed source =>
    obtain ⟨queue, sending, listening⟩ := source
    cases queue with
    | events => exact ⟨rfl, trivial⟩
    | notifications => exact absurd rfl form

/-- Nothing waits any more in what was let go of. -/
theorem immutable_letGo (inbox : Inbox) : inbox.letGo.Immutable := by
  -- A feed that was let go of has been cleared.
  cases inbox with
  | stream => trivial
  | feed source =>
    obtain ⟨queue, sending, listening⟩ := source
    cases queue with
    | events => trivial
    | notifications => exact nofun

/-- What is let go of is the same source. -/
theorem asEvents_letGo (inbox : Inbox) : inbox.letGo.asEvents = inbox.asEvents.letGo := by
  -- Clearing and converting can be done in either order.
  cases inbox with
  | stream => rfl
  | feed source =>
    show Inbox.feed { source with listening := false, queue := source.queue.cleared.asEvents } = _
    rw [FeedQueue.asEvents_cleared]
    rfl

end Inbox

/-! ### Workers -/

namespace Worker

variable {worker : Worker}

/-- The same worker, whose feed carries changes if it takes from one. -/
def asEvents (worker : Worker) : Worker :=
  { worker with inbox := worker.inbox.asEvents }

/-- The one is woken if the other is. -/
theorem wake_asEvents (worker : Worker) : worker.asEvents.wake = worker.wake.asEvents := by
  -- Waking looks at how much waits, and that is the same.
  unfold wake asEvents
  dsimp only
  rw [Inbox.hasWork_asEvents]
  split
  · rfl
  · rfl

/-- Changes come to a task in the same form after a turn. -/
theorem form_turn (worker : Worker) : worker.turn.inbox.form = worker.inbox.form := by
  -- A turn reads from the source or lets go of it, and neither changes what it carries.
  have turned := worker.turn_cases
  generalize worker.turn = later at turned
  cases turned with
  | rested => rfl
  | stopped | failed => exact worker.inbox.form_letGo
  | applied ready events held form more => exact form

/-- A task does with changes what it does with the notifications that report them. -/
theorem turn_asEvents (worker : Worker) (immutable : worker.inbox.Immutable) :
    worker.asEvents.turn = worker.turn.asEvents ∧ worker.turn.inbox.Immutable := by
  -- Only a task that is ready reads anything, and only notifications are read differently.
  cases task : worker.task with
  | parked | finished =>
    have rest : worker.task.isDue = false := by
      rw [task]
      rfl
    have same : worker.asEvents.turn = worker.asEvents := turn_of_rest rest
    rw [turn_of_rest rest, same]
    exact ⟨rfl, immutable⟩
  | aborted =>
    have again : worker.asEvents.task = .aborted := task
    rw [turn_of_aborted task, turn_of_aborted again]
    unfold asEvents
    dsimp only
    rw [Inbox.asEvents_letGo]
    exact ⟨rfl, Inbox.immutable_letGo _⟩
  | ready =>
    by_cases form : worker.inbox.form = .notifications
    · obtain ⟨sending, listening, inbox⟩ := Inbox.eq_feed_of_form form
      rw [inbox] at immutable
      have first : worker.asEvents.task = .ready := task
      have converted : worker.asEvents.inbox =
          .feed ⟨.events (worker.inbox.waiting.map (·.asEvent)), sending, listening⟩ :=
        congrArg Inbox.asEvents inbox
      rw [turn_of_immutable task inbox immutable, turn_of_events first converted]
      exact ⟨rfl, nofun⟩
    · -- Nothing is converted where no notifications come.
      have still : worker.turn.inbox.form ≠ .notifications := worker.form_turn ▸ form
      obtain ⟨same, immutable⟩ := Inbox.asEvents_of_form still
      unfold asEvents
      rw [same, (Inbox.asEvents_of_form form).1]
      exact ⟨rfl, immutable⟩

/-- So does it with all the turns that it takes. -/
theorem rest_asEvents (worker : Worker) (immutable : worker.inbox.Immutable) :
    worker.asEvents.rest = worker.rest.asEvents ∧ worker.rest.inbox.Immutable := by
  -- As much waits in the one as in the other, so both are given the same number of turns.
  have turns (count : Nat) : turn^[count] worker.asEvents = (turn^[count] worker).asEvents ∧
      (turn^[count] worker).inbox.Immutable := by
    induction count with
    | zero => exact ⟨rfl, immutable⟩
    | succ count ih =>
      obtain ⟨same, still⟩ := ih
      rw [Function.iterate_succ_apply', Function.iterate_succ_apply', same]
      exact turn_asEvents _ still
  unfold rest
  have backlog : worker.asEvents.inbox.backlog = worker.inbox.backlog :=
    worker.inbox.backlog_asEvents
  rw [backlog]
  exact turns _

/-- What is filled in is accepted by the one if it is by the other. -/
theorem send_asEvents (kind : NotificationKind) (target : Endpoint) (worker : Worker) :
    worker.asEvents.send kind target =
      ((worker.send kind target).1, (worker.send kind target).2.asEvents) := by
  -- What is filled in is converted before or after, and somebody listens in both or in neither.
  obtain ⟨resolver, balancer, inbox, task, owners⟩ := worker
  cases inbox with
  | stream => rfl
  | feed feed =>
    let pushed : Worker :=
      ⟨resolver, balancer, .feed { feed with queue := feed.queue.push kind target }, task, owners⟩
    have woken := wake_asEvents pushed
    dsimp only [pushed, asEvents, Inbox.asEvents] at woken
    dsimp only [send, asEvents, Inbox.asEvents]
    rw [← FeedQueue.asEvents_push, woken]
    split
    · rfl
    · rfl

/-- Nothing is filled in any more in the one or in the other. -/
theorem hangUp_asEvents (worker : Worker) : worker.asEvents.hangUp = worker.hangUp.asEvents := by
  obtain ⟨resolver, balancer, inbox, task, owners⟩ := worker
  -- Only a feed has another end to give up.
  cases inbox with
  | stream => rfl
  | feed feed =>
    exact wake_asEvents ⟨resolver, balancer, .feed { feed with sending := false }, task, owners⟩

/-- Whatever is done to a worker, the same is done to it when its feed carries changes. -/
theorem handling_asEvents :
    handling.Follows (fun worker other => other = worker.asEvents) handling where
  front? := by
    -- No operation looks at what waits, except by waking a task for it.
    rintro worker _ rfl
    refine congrArg some ?_
    unfold front asEvents
    dsimp only
    cases worker.inbox with
    | stream | feed => rfl
  send := by
    rintro worker _ kind target rfl
    have sent := send_asEvents kind target worker
    exact ⟨(congrArg Prod.fst sent).symm, congrArg Prod.snd sent⟩
  hangUp := by
    rintro worker _ rfl
    exact hangUp_asEvents worker
  pollPick := by
    rintro worker _ pick rfl
    exact ⟨rfl, rfl, rfl⟩
  pollPicks := by
    rintro worker _ stream rfl
    exact ⟨rfl, rfl, rfl⟩
  retain := by
    rintro worker _ rfl
    rfl
  release := by
    rintro worker _ rfl
    dsimp only [handling, release, asEvents]
    split
    · rfl
    · rfl
  close := by
    rintro worker _ rfl
    rfl

end Worker

/-! ### Desks -/

namespace Desk

/-- The same resolver, whose feed carries changes if it takes from one. -/
def asEvents (desk : Desk) : Desk :=
  { desk with worker := desk.worker.asEvents }

/-- Whatever is asked is answered alike if the feed carries changes. -/
theorem serve_asEvents (desk : Desk) (request : DeskRequest) :
    (desk.asEvents.serve request).1 = (desk.serve request).1 ∧
      (desk.asEvents.serve request).2 = (desk.serve request).2.asEvents := by
  -- Two ways to handle a resolver that do the same lead to the same answers.
  have alike : (fun worker other : Worker => other = worker.asEvents) desk.worker
      desk.worker.asEvents := rfl
  obtain ⟨answer, rest, homes⟩ :=
    Ledger.serve_follows Worker.handling_asEvents alike desk.ledger request
  refine ⟨answer.symm, ?_⟩
  unfold serve asEvents
  dsimp only
  rw [rest, homes]

end Desk

end PeerCluster
