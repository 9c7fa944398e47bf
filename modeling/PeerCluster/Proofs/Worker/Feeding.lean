import PeerCluster.Proofs.Worker.Converting
import PeerCluster.Proofs.Worker.Ending

/-! Feeds: what notifications become of, whether they were applied, wait, or came too late. -/

namespace PeerCluster

open ChangeEvent

/-! ### What is filled in -/

/-- What somebody could fill in by a request, as far as the answer says. -/
def DeskAnswer.fed : DeskRequest → DeskAnswer → List (ChangeNotification Endpoint)
  | .send kind target, .sent true => [⟨kind, target⟩]
  | _, _ => []

/-- What becomes of a source when its feed is filled by hand. -/
inductive Inbox.Filled (inbox : Inbox) : List (ChangeNotification Endpoint) → Inbox → Prop where
  | kept : Filled inbox [] inbox
  | hungUp {feed : Feed} (same : inbox = .feed feed) :
      Filled inbox [] (.feed { feed with sending := false })
  | pushed {feed : Feed} (same : inbox = .feed feed) (listening : feed.listening = true)
      (kind : NotificationKind) (target : Endpoint) :
      Filled inbox [⟨kind, target⟩] (.feed { feed with queue := feed.queue.push kind target })

namespace Worker

/-- Exactly what is accepted is filled in. -/
theorem send_filled (kind : NotificationKind) (target : Endpoint) (worker : Worker) :
    worker.inbox.Filled (DeskAnswer.fed (.send kind target) (.sent (worker.send kind target).1))
      (worker.send kind target).2.inbox := by
  -- Only a feed that somebody listens to takes the item, and that is what the answer says.
  obtain ⟨resolver, balancer, inbox, task, owners⟩ := worker
  cases inbox with
  | stream => exact .kept
  | feed feed =>
    cases listening : feed.listening with
    | false =>
      have refused : (Worker.send kind target ⟨resolver, balancer, .feed feed, task, owners⟩) =
          (false, ⟨resolver, balancer, .feed feed, task, owners⟩) := by
        unfold send
        dsimp only
        rw [listening, if_neg Bool.false_ne_true]
      rw [refused]
      exact .kept
    | true =>
      unfold send
      dsimp only
      rw [if_pos listening]
      dsimp only
      rw [inbox_wake]
      exact .pushed rfl listening kind target

/-- Nothing is filled in by giving up the end of a feed. -/
theorem hangUp_filled (worker : Worker) : worker.inbox.Filled [] worker.hangUp.inbox := by
  obtain ⟨resolver, balancer, inbox, task, owners⟩ := worker
  cases inbox with
  | stream => exact .kept
  | feed feed =>
    unfold hangUp
    dsimp only
    rw [inbox_wake]
    exact .hungUp rfl

end Worker

namespace Inbox.Filled

variable {inbox left : Inbox} {more : List (ChangeNotification Endpoint)}

/-- What is filled in waits behind the others, and only somebody who still listens is given it. -/
theorem waiting (filled : inbox.Filled more left) (form : inbox.form = .notifications) :
    left.waiting = inbox.waiting ++ more ∧ left.isHeld = inbox.isHeld ∧
      (inbox.isHeld = false → more = []) := by
  -- A feed of notifications is extended at its end, or left alone.
  obtain ⟨sending, listening, whole⟩ := Inbox.eq_feed_of_form form
  cases filled with
  | kept => exact ⟨(List.append_nil _).symm, rfl, fun _ => rfl⟩
  | hungUp same =>
    obtain rfl := Inbox.feed.inj (same.symm.trans whole)
    rw [same]
    exact ⟨(List.append_nil _).symm, rfl, fun _ => rfl⟩
  | pushed same listens kind target =>
    obtain rfl := Inbox.feed.inj (same.symm.trans whole)
    rw [same]
    exact ⟨rfl, rfl, fun gone => nomatch listens.symm.trans gone⟩

/-- Nothing reports a change in place if nothing did, and nothing that is filled in does. -/
theorem immutable (filled : inbox.Filled more left) (before : inbox.Immutable)
    (fresh : ∀ notification ∈ more, notification.kind ≠ .modify) : left.Immutable := by
  -- Changes report none in place whatever they are, and notifications were checked.
  cases filled with
  | kept => exact before
  | hungUp same =>
    rw [same] at before
    exact before
  | @pushed feed same listens kind target =>
    rw [same] at before
    obtain ⟨queue, sending, listening⟩ := feed
    cases queue with
    | events waiting =>
      cases kind with
      | add | modify | delete => trivial
    | notifications waiting => exact List.forall_mem_append.mpr ⟨before, fresh⟩

end Inbox.Filled

/-! ### What becomes of it -/

namespace Worker

variable {worker : Worker} {news earlier later : List (ChangeNotification Endpoint)}
  {data : Endpoint}

/-- Everything that a worker was told was applied, or waits, or came too late. -/
structure Told (worker : Worker) (news : List (ChangeNotification Endpoint)) : Prop where
  form : worker.inbox.form = .notifications
  /-- What its task has let go of is not kept. -/
  cleared : worker.inbox.isHeld = false → worker.inbox.waiting = []
  /-- While it serves, everything was applied but what waits, and none of that in place. -/
  serving : worker.resolver.status = .serving → ∃ applied,
    news = applied ++ worker.inbox.waiting ∧
      (∀ notification ∈ applied, notification.kind ≠ .modify) ∧
      worker.resolver.changes = applied.length ∧
      worker.balancer.pool = rebuild [] (applied.map (·.asEvent))
  /-- If it has failed, that was over the first change in place, and nothing behind it counts. -/
  failed : ∀ error, worker.resolver.status = .failed error → ∃ earlier data later,
    news = earlier ++ ⟨.modify, data⟩ :: later ∧
      (∀ notification ∈ earlier, notification.kind ≠ .modify) ∧
      error = .ofModify data ∧ worker.resolver.changes = earlier.length + 1

/-- A new worker was told what waits in its feed. -/
theorem told_started (role : String) (waiting : List (ChangeNotification Endpoint)) :
    (started role (.feed ⟨.notifications waiting, true, true⟩)).Told waiting where
  form := rfl
  cleared := nofun
  serving _ := ⟨[], rfl, nofun, rfl, rfl⟩
  failed := nofun

/-- While a service goes on, its task waits for a turn to come to a change in place. -/
theorem Told.meets (told : worker.Told news) (invariant : worker.Invariant)
    (serving : worker.resolver.status = .serving)
    (split : news = earlier ++ ⟨.modify, data⟩ :: later)
    (immutable : ∀ notification ∈ earlier, notification.kind ≠ .modify) :
    ∃ applied rest, earlier = applied ++ rest ∧
      worker.resolver.changes = applied.length ∧
      worker.balancer.pool = rebuild [] (applied.map (·.asEvent)) ∧ worker.Meets rest data := by
  obtain ⟨applied, whole, fresh, changes, pool⟩ := told.serving serving
  -- The change in place was not applied, so it waits behind the rest of what came earlier.
  obtain ⟨rest, rfl, waiting⟩ : ∃ rest, earlier = applied ++ rest ∧
      worker.inbox.waiting = rest ++ ⟨.modify, data⟩ :: later := by
    rcases List.append_eq_append_iff.mp (split.symm.trans whole) with
      ⟨extra, applied_eq, rest⟩ | ⟨extra, earlier_eq, rest⟩
    · cases extra with
      | nil => exact ⟨[], by simpa using applied_eq.symm, rest.symm⟩
      | cons first extra =>
        obtain ⟨rfl, _⟩ := List.cons_eq_cons.mp rest
        exact absurd rfl (fresh ⟨.modify, data⟩ (by simp [applied_eq]))
    · exact ⟨extra, earlier_eq, rest⟩
  obtain ⟨sending, listening, inbox⟩ := Inbox.eq_feed_of_form told.form
  refine ⟨applied, rest, rfl, changes, pool, ?_, ⟨later, sending, listening, ?_⟩, ?_⟩
  · -- A task with something waiting is neither through with its source nor at rest.
    cases task : worker.task with
    | ready => rfl
    | aborted => cases serving.symm.trans (invariant.aborted task)
    | finished =>
      have gone : worker.inbox.isHeld = false :=
        Bool.eq_false_iff.mpr fun held => invariant.held.mp held task
      rw [told.cleared gone] at waiting
      cases (List.append_eq_nil_iff.mp waiting.symm).2
    | parked =>
      have idle := invariant.awakeForWork task
      rw [inbox, waiting] at idle
      simp [Inbox.hasWork, Inbox.backlog, FeedQueue.length] at idle
  · rw [← waiting]
    exact inbox
  · exact fun notification member => immutable notification (List.mem_append_right _ member)

/-- Whatever turns its task is given, a worker was told no more by that. -/
theorem Told.rest (told : worker.Told news) (invariant : worker.Invariant) :
    worker.rest.Told news := by
  cases task : worker.task with
  | parked | finished =>
    rw [rest_of_rest (by rw [task]; rfl)]
    exact told
  | aborted =>
    have turned := turn_of_aborted task
    have closed := invariant.aborted task
    rw [rest_eq_turn (by rw [turned]; rfl), turned]
    refine ⟨(Inbox.form_letGo _).trans told.form, fun _ => Inbox.waiting_letGo _, ?_, ?_⟩
    · exact fun serving => nomatch closed.symm.trans serving
    · exact fun error failed => nomatch closed.symm.trans failed
  | ready =>
    have serving := invariant.serving_of_ready task
    obtain ⟨applied, whole, fresh, changes, pool⟩ := told.serving serving
    -- It takes all that waits, or it comes to a change in place.
    rcases ChangeNotification.modify_or worker.inbox.waiting with
      immutable | ⟨before, data, after, waiting, immutable⟩
    · obtain ⟨form, empty, resolver, rebuilt⟩ :=
        rest_of_immutable invariant task told.form immutable
      refine ⟨form, fun _ => empty, fun _ => ⟨news, ?_, ?_, ?_, ?_⟩, fun error failed => ?_⟩
      · rw [empty, List.append_nil]
      · rw [whole]
        exact List.forall_mem_append.mpr ⟨fresh, immutable⟩
      · rw [resolver, whole, List.length_append, ← changes]
      · rw [rebuilt, pool, ← rebuild_append, ← List.map_append, ← whole]
      · rw [resolver] at failed
        cases serving.symm.trans failed
    · have meets : worker.Meets before data := by
        obtain ⟨sending, listening, inbox⟩ := Inbox.eq_feed_of_form told.form
        rw [waiting] at inbox
        exact ⟨task, ⟨after, sending, listening, inbox⟩, immutable⟩
      rw [meets.rest_eq invariant]
      refine ⟨(Inbox.form_letGo _).trans told.form, fun _ => Inbox.waiting_letGo _, nofun, ?_⟩
      rintro error ⟨⟩
      refine ⟨applied ++ before, data, after, ?_, ?_, rfl, ?_⟩
      · rw [whole, waiting, List.append_assoc]
      · exact List.forall_mem_append.mpr ⟨fresh, immutable⟩
      · dsimp only
        rw [changes, List.length_append]

end Worker

/-! ### What is asked -/

namespace Desk

/-- What is asked at a desk fills the feed by what was accepted, and by nothing else. -/
theorem Served.filled {desk after : Desk} {request : DeskRequest} {answer : DeskAnswer}
    (served : desk.Served request answer after) :
    desk.worker.inbox.Filled (answer.fed request) after.worker.inbox := by
  -- Apart from the two requests about the feed, nothing concerns the source at all.
  have kept {left : Inbox} (same : left = desk.worker.inbox) : desk.worker.inbox.Filled [] left :=
    same ▸ .kept
  cases served with
  | refused request =>
    cases request
    all_goals exact .kept
  | sent kind target => exact desk.worker.send_filled kind target
  | hungUp => exact desk.worker.hangUp_filled
  | picked held polled | waited found polled => exact kept (Worker.pollPick_keeps polled).2
  | handedOut held polled => exact kept (Worker.pollPick_keeps polled).2
  | answered found polled =>
    exact kept ((Worker.inbox_release _).trans (Worker.pollPick_keeps polled).2)
  | pickDropped | dropped => exact kept (Worker.inbox_release _)
  | streamed found polled => exact kept (Worker.pollPicks_keeps polled).2
  | denied | resolved | streamDropped | inspected | closed => exact .kept

/-- Whatever is asked, a worker was told exactly what was accepted by that. -/
theorem Served.told {desk after : Desk} {request : DeskRequest} {answer : DeskAnswer}
    (served : desk.Served request answer after) (invariant : desk.Invariant)
    {news : List (ChangeNotification Endpoint)} (told : desk.worker.Told news) :
    after.worker.Told (news ++ answer.fed request) := by
  -- A request leaves the resolver, or it closes it, and then there is nothing to show.
  have filled := served.filled
  have same : after.worker.resolver = desk.worker.resolver ∨
      after.worker.resolver.status = .closed := by
    rcases served.resolver invariant with same | ⟨closed, _⟩
    · exact .inl same
    · by_cases serving : desk.worker.resolver.status = .serving
      · rw [closed, Resolver.moveTo_of_serving serving]
        exact .inr rfl
      · rw [closed, Resolver.moveTo_of_over serving]
        exact .inl rfl
  obtain ⟨_, precedes⟩ := served.reaches.kept invariant.worker
  generalize answer.fed request = more at filled ⊢
  obtain ⟨waiting, held, unheard⟩ := filled.waiting told.form
  refine ⟨precedes.form.trans told.form, fun gone => ?_, fun serving => ?_, fun error failed => ?_⟩
  · rw [held] at gone
    rw [waiting, told.cleared gone, unheard gone]
    rfl
  · rcases same with same | closed
    · obtain ⟨applied, whole, fresh, changes, pool⟩ := told.serving (by rw [← same, serving])
      obtain ⟨_, still⟩ := precedes.unchanged (by rw [same])
      refine ⟨applied, ?_, fresh, ?_, still.trans pool⟩
      · rw [waiting, whole, List.append_assoc]
      · rw [same, changes]
    · cases closed.symm.trans serving
  · rcases same with same | closed
    · obtain ⟨earlier, data, later, whole, fresh, text, changes⟩ :=
        told.failed error (by rw [← same, failed])
      refine ⟨earlier, data, later ++ more, ?_, fresh, text, ?_⟩
      · rw [whole, List.append_assoc, List.cons_append]
      · rw [same, changes]
    · cases closed.symm.trans failed

end Desk

end PeerCluster
