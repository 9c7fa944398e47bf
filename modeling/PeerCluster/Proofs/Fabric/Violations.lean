import PeerCluster.Proofs.Fabric.Altering
import PeerCluster.Proofs.Fabric.Holding
import PeerCluster.Proofs.Resolver.Consuming
import PeerCluster.Proofs.Violations

/-! A resolver fails only in a run that takes the offending notification, and logs it. -/

namespace PeerCluster

open Resolver

/-! ### Drivers -/

namespace Resolver

/-- No resolver starts or ends its service by changes. -/
theorem status_applyAll (resolver : Resolver) (balancer : RoundRobin)
    (events : List (ChangeEvent Endpoint)) :
    (resolver.applyAll balancer events).1.status = resolver.status := by
  -- By induction on the changes, none of which moves a resolver that has ended.
  induction events generalizing resolver balancer with
  | nil => rfl
  | cons event rest ih =>
    rw [applyAll_cons, ih, status_moveTo_serving]

/-- Whether a resolver fails is not decided by changes. -/
theorem status_moveTo_moveTo (resolver : Resolver) (status : ResolverStatus) :
    ((resolver.moveTo .serving).moveTo status).status = (resolver.moveTo status).status := by
  -- Serving already, a resolver is left as it is by the first move, and otherwise by both.
  cases standing : resolver.status with
  | serving | closed | failed => simp [moveTo, standing]

/-- What a driver does that reads notifications; it ends at the first that it must refuse. -/
inductive Driven (resolver : Resolver) (waiting : List (ChangeNotification Endpoint)) :
    Logged (Consumed (ChangeNotification Endpoint)) → Prop where
  /-- All notifications were changes. -/
  | through {consumed : Consumed (ChangeNotification Endpoint)} {log : List LogRecord}
      (all : consumed.unread? = none) (status : consumed.resolver.status = resolver.status) :
      Driven resolver waiting ⟨consumed, log⟩
  /-- One of them reports a change in place, and the error is logged. -/
  | refused {consumed : Consumed (ChangeNotification Endpoint)} {log : List LogRecord}
      {notification : ChangeNotification Endpoint} {rest : List (ChangeNotification Endpoint)}
      (offending : notification ∈ waiting) (inPlace : notification.kind = .modify)
      (left : consumed.unread? = some rest) (fewer : rest ⊆ waiting)
      (status : consumed.resolver.status =
        (resolver.moveTo (.failed (.ofModify notification.data))).status)
      (logged : LogsError (.ofModify notification.data) log) :
      Driven resolver waiting ⟨consumed, log⟩

/-- Every driver that reads notifications does one of these. -/
theorem consume_driven (resolver : Resolver) (balancer : RoundRobin)
    (waiting : List (ChangeNotification Endpoint)) :
    Driven resolver waiting (resolver.consume ChangeNotification.toEvent balancer waiting) := by
  -- A notification that is a change is applied, and then the others decide.
  induction waiting generalizing resolver balancer with
  | nil => exact .through rfl rfl
  | cons notification rest ih =>
    rw [consume, Logged.bind_eq]
    -- A report of a change in place is refused, and its error is logged as it is found.
    by_cases inPlace : notification.kind = .modify
    · have same : notification = ⟨.modify, notification.data⟩ := by rw [← inPlace]
      have said : LogsError (.ofModify notification.data) notification.toEvent.log := by
        rw [same]
        exact .single rfl List.mem_cons_self
      have refused : notification.toEvent.value = .error (.ofModify notification.data) := by
        rw [same]
        rfl
      rw [refused]
      exact .refused List.mem_cons_self inPlace rfl (List.subset_cons_self _ _) rfl (said.before _)
    · rw [ChangeNotification.toEvent_of_kind inPlace]
      have later := ih (resolver.apply balancer notification.asEvent).value.1
        (resolver.apply balancer notification.asEvent).value.2
      simp only [Logged.bind_eq]
      generalize consume ChangeNotification.toEvent
        (resolver.apply balancer notification.asEvent).value.1
        (resolver.apply balancer notification.asEvent).value.2 rest = outcome at later ⊢
      have goesOn : (resolver.apply balancer notification.asEvent).value.1 =
          resolver.moveTo .serving := rfl
      rw [goesOn] at later
      -- The first notification was a change, so what the others come to is all that counts.
      cases later with
      | through all status => exact .through all (by rw [status, status_moveTo_serving])
      | refused offending inPlace left fewer status logged =>
        refine .refused (List.mem_cons_of_mem _ offending) inPlace left
          (List.subset_cons_of_subset _ fewer) ?_ ((logged.behind _).behind _)
        rw [status, status_moveTo_moveTo]

end Resolver

/-! ### Feeds -/

namespace FeedQueue

/-- What is left of a queue when nothing has come to it. -/
def Shrinks : FeedQueue → FeedQueue → Prop
  | events _, events _ => True
  | notifications waiting, notifications left => left ⊆ waiting
  | _, _ => False

variable {queue middle left : FeedQueue}

/-- A queue that nothing was taken from is what is left of it. -/
theorem Shrinks.refl (queue : FeedQueue) : queue.Shrinks queue := by
  -- By the kind of the queue, which tells what may be left of it.
  cases queue with
  | events => trivial
  | notifications => exact fun _ => id

/-- What is left of what is left of a queue is left of it. -/
theorem Shrinks.trans (first : queue.Shrinks middle) (second : middle.Shrinks left) :
    queue.Shrinks left := by
  -- Queues of different kinds are not left of each other.
  cases queue <;> cases middle <;> cases left <;>
    first
    | trivial
    | exact first.elim
    | exact second.elim
    | exact fun _ member => first (second member)

/-- Nothing is left of a queue that was cleared. -/
theorem shrinks_cleared (queue : FeedQueue) : queue.Shrinks queue.cleared := by
  -- No events are compared, and no notification is left.
  cases queue with
  | events => trivial
  | notifications => exact List.nil_subset _

end FeedQueue

/-! ### Services -/

/-- How a service stands, and where it takes its changes from. -/
def Service.standing (service : Service) : ResolverStatus × EventSource :=
  (service.resolver.status, service.source)

namespace Fabric

variable {fabric middle result : Fabric} {id : Nat} {service worked : Service}
  {before after between : ResolverStatus × EventSource} {log more : List LogRecord}
  {error : ClusterError}

/-- How all services stand, in order. -/
def standings (fabric : Fabric) : List (ResolverStatus × EventSource) :=
  fabric.services.map Service.standing

/-- Whoever is woken stands as before. -/
@[simp] theorem standings_wake (fabric : Fabric) : fabric.wake.standings = fabric.standings := by
  rw [wake_eq]
  unfold standings
  -- Each service is mapped to itself but for its task, which is no part of how it stands.
  rw [List.map_map]
  refine List.map_congr_left fun service _ => ?_
  show (fabric.woken service).standing = service.standing
  rw [woken_eq]
  rfl

/-- A registry has no say in how services stand. -/
@[simp] theorem standings_setRegistry (home : Nat) (left : Registry) :
    (fabric.setRegistry home left).standings = fabric.standings :=
  standings_wake _

/-- A feed has no say in how services stand. -/
@[simp] theorem standings_setFeed (id : Nat) (feed : Feed) :
    (fabric.setFeed id feed).standings = fabric.standings :=
  standings_wake _

/-- A balancer has no say in how services stand. -/
@[simp] theorem standings_setBalancer (id : Nat) (balancer : RoundRobin) :
    (fabric.setBalancer id balancer).standings = fabric.standings := rfl

/-- A service that is put back stands as it was put. -/
@[simp] theorem standings_setService (id : Nat) (worked : Service) :
    (fabric.setService id worked).standings = fabric.standings.set id worked.standing :=
  List.map_set

/-- Whoever lets go of a source stands as before. -/
@[simp] theorem standings_letGo (source : EventSource) :
    (fabric.letGo source).value.standings = fabric.standings := by
  -- Letting go of a source wakes tasks at most.
  cases source with
  | membership | feed => exact standings_wake _

/-- A feed that was put back is found where it was, if there is such a feed at all. -/
theorem feed_setFeed (fabric : Fabric) (id : Nat) (feed : Feed) (other : Nat) :
    (fabric.setFeed id feed).feed other =
      if other = id ∧ id < fabric.feeds.length then feed else fabric.feed other := by
  show (fabric.feeds.set id feed).getD other _ = _
  -- Past the last feed nothing is put back.
  by_cases inside : id < fabric.feeds.length
  · rw [getD_set _ _ _ inside]
    simp only [inside, and_true]
    rfl
  · rw [List.set_eq_of_length_le (Nat.le_of_not_lt inside), if_neg fun both => inside both.2]
    rfl

/-- Nothing comes to any feed. -/
def FeedsShrink (fabric result : Fabric) : Prop :=
  ∀ feed, (fabric.feed feed).queue.Shrinks (result.feed feed).queue

namespace FeedsShrink

/-- Nothing comes to feeds that are left alone. -/
theorem of_feeds (same : result.feeds = fabric.feeds) : fabric.FeedsShrink result := by
  intro feed
  -- A feed is looked up in the list of them, which is the same.
  have alike : result.feed feed = fabric.feed feed := by
    unfold Fabric.feed
    rw [same]
  rw [alike]
  exact .refl _

/-- Nothing comes to feeds by what brings nothing twice. -/
theorem trans (first : fabric.FeedsShrink middle) (second : middle.FeedsShrink result) :
    fabric.FeedsShrink result :=
  fun feed => (first feed).trans (second feed)

/-- Nothing comes to a feed by what takes from it. -/
theorem setFeed {feed : Feed} (shrinks : (fabric.feed id).queue.Shrinks feed.queue) :
    fabric.FeedsShrink (fabric.setFeed id feed) := by
  intro other
  -- The feed put back shrinks, and the others stay as they are.
  rw [feed_setFeed]
  split
  · rename_i here
    exact here.1 ▸ shrinks
  · exact .refl _

/-- Nothing comes to a source by whoever lets go of it. -/
theorem letGo (fabric : Fabric) (source : EventSource) :
    fabric.FeedsShrink (fabric.letGo source).value := by
  -- A stream is no feed, and a feed that is let go of is emptied.
  cases source with
  | membership home stream projection => exact of_feeds rfl
  | feed feed => exact .setFeed (FeedQueue.shrinks_cleared _)

end FeedsShrink

/-! ### Failures -/

/--
A service that went on has failed over a report of a change in place. The report waited in its feed,
from which everything is taken then, and the log has the error.
-/
structure FailedOver (fabric : Fabric) (log : List LogRecord) (result : Fabric)
    (before after : ResolverStatus × EventSource) (error : ClusterError) : Prop where
  serving : before.1 = .serving
  failed : after.1 = .failed error
  offence : ∃ feed waiting notification, before.2 = .feed feed ∧
    (fabric.feed feed).queue = .notifications waiting ∧
    notification ∈ waiting ∧ notification.kind = .modify ∧
    error = .ofModify notification.data ∧
    (result.feed feed).queue = .notifications []
  logged : LogsError error log

/-- What becomes of services and feeds by the work of tasks. -/
structure Tasked (fabric : Fabric) (log : List LogRecord) (result : Fabric) : Prop where
  feeds : fabric.FeedsShrink result
  standings : ∀ (id : Nat) after, result.standings[id]? = some after →
    ∃ before, fabric.standings[id]? = some before ∧ after.2 = before.2 ∧
      (after.1 = before.1 ∨ ∃ error, FailedOver fabric log result before after error)

/-- Only its status and its source count of a service that has failed. -/
theorem FailedOver.later (failed : FailedOver fabric log middle before between error)
    (shrinks : middle.FeedsShrink result) (same : after.1 = between.1) (more : List LogRecord) :
    FailedOver fabric (log ++ more) result before after error := by
  obtain ⟨serving, failed, ⟨feed, waiting, notification, source, queue, offence⟩, logged⟩ := failed
  obtain ⟨among, inPlace, rfl, taken⟩ := offence
  refine ⟨serving, same.trans failed, ⟨feed, waiting, notification, source, queue, among, inPlace,
    rfl, ?_⟩, logged.before more⟩
  -- Nothing comes to the feed that was emptied.
  have shrinks := shrinks feed
  rw [taken] at shrinks
  generalize (result.feed feed).queue = left at shrinks ⊢
  cases left with
  | events => exact shrinks.elim
  | notifications left => rw [List.subset_nil.mp shrinks]

/-- What waits in a feed later waited there before, if nothing has come to it. -/
theorem FailedOver.earlier (failed : FailedOver middle more result between after error)
    (shrinks : fabric.FeedsShrink middle) (status : between.1 = before.1)
    (source : between.2 = before.2) (log : List LogRecord) :
    FailedOver fabric (log ++ more) result before after error := by
  obtain ⟨serving, failed, ⟨feed, waiting, notification, from_, queue, among, rest⟩, logged⟩ :=
    failed
  refine ⟨status ▸ serving, failed, ?_, logged.behind log⟩
  -- What waits later waited earlier, so the report was there from the start.
  have shrinks := shrinks feed
  rw [queue] at shrinks
  cases earlier : (fabric.feed feed).queue with
  | events =>
    rw [earlier] at shrinks
    exact shrinks.elim
  | notifications more =>
    rw [earlier] at shrinks
    exact ⟨feed, more, notification, source ▸ from_, earlier, shrinks among, rest⟩

namespace Tasked

/-- Nothing becomes of services and feeds without work. -/
theorem of_standings (feeds : fabric.FeedsShrink result)
    (standings : result.standings = fabric.standings) (log : List LogRecord) :
    fabric.Tasked log result :=
  ⟨feeds, fun _ after found => ⟨after, standings ▸ found, rfl, .inl rfl⟩⟩

/-- What becomes of services by work after work. -/
theorem trans (first : fabric.Tasked log middle) (second : middle.Tasked more result) :
    fabric.Tasked (log ++ more) result := by
  refine ⟨first.feeds.trans second.feeds, fun id after found => ?_⟩
  -- Each service is traced back to the middle, and from there to the start.
  obtain ⟨between, met, source, same | ⟨error, failed⟩⟩ := second.standings id after found
  all_goals obtain ⟨before, begun, source', same' | ⟨error', failed'⟩⟩ :=
    first.standings id between met
  · exact ⟨before, begun, source.trans source', .inl (same.trans same')⟩
  · exact ⟨before, begun, source.trans source',
      .inr ⟨error', failed'.later second.feeds same more⟩⟩
  · exact ⟨before, begun, source.trans source',
      .inr ⟨error, failed.earlier first.feeds same' source' log⟩⟩
  · -- Whoever has failed does not go on, and so it does not fail again.
    cases failed.serving.symm.trans failed'.failed

/-- What becomes of one service is all that becomes of them when the others are left alone. -/
theorem put (feeds : fabric.FeedsShrink result) (found : fabric.standings[id]? = some before)
    (standings : result.standings = fabric.standings.set id after) (source : after.2 = before.2)
    (fared : after.1 = before.1 ∨ ∃ error, FailedOver fabric log result before after error) :
    fabric.Tasked log result := by
  refine ⟨feeds, fun other stands met => ?_⟩
  -- The service is the one put back, or it stands as before.
  rw [standings, List.getElem?_set] at met
  split at met
  · rename_i same
    subst same
    split at met
    · obtain rfl := Option.some.inj met
      exact ⟨before, found, source, fared⟩
    · cases met
  · exact ⟨stands, met, rfl, .inl rfl⟩

end Tasked

/-! ### Turns -/

/-- What a task works on is put back as it is then, whether or not its source is let go of. -/
theorem standings_settle {α : Type} (fabric : Fabric) (id : Nat) (service : Service)
    (consumed : Resolver.Consumed α) (tail : DrainTail) :
    (fabric.settle id service consumed tail).value.standings =
      fabric.standings.set id (consumed.resolver.status, service.source) := by
  -- With something left unread the source is let go of at once.
  unfold settle
  cases consumed.unread? with
  | some rest => simp [Service.standing]
  -- Otherwise the tail decides, and the source has no say in how the service stands.
  | none => cases tail <;> simp [Logged.bind_eq, Service.standing]

/-- Nothing comes to any feed when what a task worked on is put back. -/
theorem feeds_settle {α : Type} (fabric : Fabric) (id : Nat) (service : Service)
    (consumed : Resolver.Consumed α) (tail : DrainTail) :
    fabric.FeedsShrink (fabric.settle id service consumed tail).value := by
  -- Whether it is let go of or not, nothing comes to the source.
  have letGo (worked : Service) : fabric.FeedsShrink
      (((fabric.setBalancer service.balancer consumed.balancer).setService id worked).letGo
        service.source).value := by
    have settled : fabric.FeedsShrink
        ((fabric.setBalancer service.balancer consumed.balancer).setService id worked) :=
      .of_feeds rfl
    exact settled.trans (.letGo _ _)
  unfold settle
  cases consumed.unread? with
  | some rest => exact letGo _
  | none =>
    cases tail with
    | finished => exact letGo _
    | pending | limit => exact .of_feeds rfl

/-- Whoever has failed over its feed takes everything from it. -/
theorem feed_settle_of_refused {α : Type} (fabric : Fabric) (id : Nat) {service : Service}
    {consumed : Resolver.Consumed α} {rest : List α} (left : consumed.unread? = some rest)
    (tail : DrainTail) {feed : Nat} (source : service.source = .feed feed)
    (inside : feed < fabric.feeds.length) :
    ((fabric.settle id service consumed tail).value.feed feed).queue =
      (fabric.feed feed).queue.cleared := by
  -- The rest is dropped by letting go of the feed, which clears it.
  unfold settle
  simp only [left, source]
  exact congrArg Feed.queue ((feed_setFeed _ _ _ _).trans (if_pos ⟨rfl, inside⟩))

/-- A task that comes to no notification changes nothing but feeds that it takes from. -/
theorem tasked_settle {α : Type} (found : fabric.standings[id]? = some service.standing)
    {consumed : Resolver.Consumed α} (status : consumed.resolver.status = service.resolver.status)
    (tail : DrainTail) (log : List LogRecord) :
    fabric.Tasked log (fabric.settle id service consumed tail).value :=
  .put (fabric.feeds_settle id service consumed tail) found
    (fabric.standings_settle id service consumed tail) rfl (.inl status)

/-- A task that comes to a report of a change in place fails over it, if its service goes on. -/
theorem tasked_refused (found : fabric.standings[id]? = some service.standing) {feed : Nat}
    (source : service.source = .feed feed) {waiting rest : List (ChangeNotification Endpoint)}
    (queue : (fabric.feed feed).queue = .notifications waiting)
    {consumed : Consumed (ChangeNotification Endpoint)}
    {notification : ChangeNotification Endpoint} (offending : notification ∈ waiting)
    (inPlace : notification.kind = .modify) (left : consumed.unread? = some rest)
    (fewer : rest ⊆ waiting)
    (status : consumed.resolver.status =
      (service.resolver.moveTo (.failed (.ofModify notification.data))).status)
    (logged : LogsError (.ofModify notification.data) log) (tail : DrainTail) :
    let taken := fabric.setFeed feed { fabric.feed feed with queue := .notifications rest }
    let settled := taken.settle id service consumed tail
    fabric.Tasked (log ++ settled.log) settled.value := by
  intro taken settled
  -- The rest of the queue is put back before the work is, and it is part of the queue.
  have shrinks : fabric.FeedsShrink taken := .setFeed (by rw [queue]; exact fewer)
  have same : taken.standings = fabric.standings := standings_setFeed _ _
  have standings : settled.value.standings =
      fabric.standings.set id (consumed.resolver.status, service.source) := by
    rw [← same]
    exact taken.standings_settle id service consumed tail
  refine .put (shrinks.trans (taken.feeds_settle id service consumed tail)) found standings rfl ?_
  by_cases serving : service.resolver.status = .serving
  · -- An open service fails over the report, and the error is the one that it tells of.
    rw [moveTo_of_serving serving] at status
    refine .inr ⟨_, serving, status, ⟨feed, waiting, notification, source, queue, offending,
      inPlace, rfl, ?_⟩, logged.before _⟩
    -- A feed in which something waits is there, so what is put back is found again.
    have inside : feed < fabric.feeds.length := by
      refine Nat.lt_of_not_le fun outside => ?_
      have nothing : fabric.feed feed = ⟨.events [], false, false⟩ := by
        unfold Fabric.feed
        rw [List.getD_eq_getElem?_getD, List.getElem?_eq_none outside]
        rfl
      rw [nothing] at queue
      cases queue
    have still : feed < taken.feeds.length := by
      show feed < (fabric.feeds.set feed _).length
      rwa [List.length_set]
    rw [feed_settle_of_refused taken id left tail source still, feed_setFeed, if_pos ⟨rfl, inside⟩]
    rfl
  · -- A service that is over stays as it is.
    rw [moveTo_of_over serving] at status
    exact .inl status

/-- What becomes of services and feeds by a turn. -/
theorem tasked_turn (fabric : Fabric) (id : Nat) :
    fabric.Tasked (fabric.turn id).log (fabric.turn id).value := by
  unfold turn
  cases found : fabric.services[id]? with
  -- Where there is no service nothing happens.
  | none => exact .of_standings (.of_feeds rfl) rfl _
  | some service =>
    have met : fabric.standings[id]? = some service.standing := by
      simp [standings, found]
    dsimp only
    cases task : service.task with
    -- Neither does anything where no turn is due.
    | parked | finished => exact .of_standings (.of_feeds rfl) rfl _
    | aborted =>
      -- A task told to stop lets go of its source, and its service stands as before.
      have through : fabric.FeedsShrink (fabric.setService id { service with task := .finished }) :=
        .of_feeds rfl
      have letGo := through.trans (.letGo _ service.source)
      have same : ((fabric.setService id { service with task := .finished }).letGo
          service.source).value.standings = fabric.standings.set id service.standing := by
        rw [standings_letGo, standings_setService]
        rfl
      exact .put letGo met same rfl (.inl rfl)
    | ready =>
      cases source : service.source with
      | membership home stream projection =>
        -- A change of the membership is one, whatever the projection makes of it.
        simp only [Logged.bind_eq]
        generalize (fabric.registry home).drain stream _ = drained
        have spared : fabric.FeedsShrink (fabric.setRegistry home drained.2) := .of_feeds rfl
        have taken (log : List LogRecord) : fabric.Tasked log (fabric.setRegistry home drained.2) :=
          .of_standings spared (standings_setRegistry _ _) log
        refine (taken _).trans (tasked_settle ?_ ?_ _ _)
        · rw [standings_setRegistry, met]
        · rw [consume_total, status_applyAll]
      | feed feed =>
        dsimp only
        cases queue : (fabric.feed feed).queue with
        -- Events are changes already, so none of them can be refused.
        | events waiting =>
          simp only [Logged.bind_eq]
          have shrinks : fabric.FeedsShrink
              (fabric.setFeed feed { fabric.feed feed with queue := .events [] }) :=
            .setFeed (by rw [queue]; trivial)
          have taken (log : List LogRecord) : fabric.Tasked log
              (fabric.setFeed feed { fabric.feed feed with queue := .events [] }) :=
            .of_standings shrinks (standings_setFeed _ _) log
          refine (taken _).trans (tasked_settle ?_ ?_ _ _)
          · rw [standings_setFeed, met]
          · rw [consume_total (fun event => event), status_applyAll]
        | notifications waiting =>
          simp only [Logged.bind_eq]
          -- Notifications are read until one must be refused.
          have driven := service.resolver.consume_driven (fabric.balancer service.balancer) waiting
          generalize service.resolver.consume ChangeNotification.toEvent
            (fabric.balancer service.balancer) waiting = outcome at driven
          cases driven with
          | @through consumed log all status =>
            have shrinks : fabric.FeedsShrink
                (fabric.setFeed feed { fabric.feed feed with queue := .notifications [] }) :=
              .setFeed (by rw [queue]; exact List.nil_subset _)
            have taken : fabric.Tasked log
                (fabric.setFeed feed { fabric.feed feed with queue := .notifications [] }) :=
              .of_standings shrinks (standings_setFeed _ _) log
            simp only [all, Option.getD_none]
            refine taken.trans (tasked_settle ?_ status _ _)
            rw [standings_setFeed, met]
          | refused offending inPlace left fewer status logged =>
            simp only [left, Option.getD_some]
            exact tasked_refused met source queue offending inPlace left fewer status logged _

/-- What becomes of services and feeds by several turns. -/
theorem tasked_turns (fabric : Fabric) (ids : List Nat) :
    fabric.Tasked (fabric.turns ids).log (fabric.turns ids).value.2 := by
  -- By induction on the turns, joining their logs.
  induction ids generalizing fabric with
  | nil => exact .of_standings (.of_feeds rfl) rfl _
  | cons id rest ih =>
    have both := (fabric.tasked_turn id).trans (ih (fabric.turn id).value)
    simp only [turns, Logged.bind_eq, Logged.log_pure, Logged.value_pure, List.append_nil]
    exact both

/-- The agenda plays no part in what becomes of services and feeds. -/
theorem Tasked.withDue (fabric : Fabric) (due : List Nat) :
    fabric.Tasked [] { fabric with due } := by
  have spared : fabric.FeedsShrink { fabric with due } := .of_feeds rfl
  exact .of_standings spared rfl []

/-- What becomes of services and feeds by a round of turns. -/
theorem tasked_round (fabric : Fabric) :
    fabric.Tasked fabric.round.log fabric.round.value := by
  let begun : Fabric := { fabric with due := (fabric.due.splitAt roundLimit).2 }
  have given := begun.tasked_turns (fabric.due.splitAt roundLimit).1
  have ended := Tasked.withDue (begun.turns (fabric.due.splitAt roundLimit).1).value.2
    ((begun.turns (fabric.due.splitAt roundLimit).1).value.1 ++
      (begun.turns (fabric.due.splitAt roundLimit).1).value.2.due)
  exact (Tasked.withDue fabric _).trans (given.trans ended)

/-- What becomes of services and feeds by rounds of turns. -/
theorem tasked_rounds (fabric : Fabric) (limit : Nat) :
    fabric.Tasked (fabric.rounds limit).log (fabric.rounds limit).value := by
  -- By induction on the rounds, joining their logs.
  induction limit generalizing fabric with
  | zero => exact .of_standings (.of_feeds rfl) rfl _
  | succ limit ih =>
    rw [rounds]
    split
    · exact .of_standings (.of_feeds rfl) rfl _
    · exact fabric.tasked_round.trans (ih _)

/-- What becomes of services and feeds by a run. -/
theorem tasked_run (fabric : Fabric) : fabric.Tasked fabric.run.log fabric.run.value :=
  fabric.tasked_rounds _

end Fabric

end PeerCluster
