import PeerCluster.Proofs.Worker.Holding

/-! How the service of a resolver ends, and what its holders are answered before and after. -/

namespace PeerCluster

open ChangeEvent

namespace Worker

variable {worker : Worker}

/-! ### Failures -/

/-- The next turn of a task comes to a notification of a change in place. -/
structure Meets (worker : Worker) (earlier : List (ChangeNotification Endpoint)) (data : Endpoint) :
    Prop where
  ready : worker.task = .ready
  waiting : ∃ rest sending listening, worker.inbox =
    .feed ⟨.notifications (earlier ++ ⟨.modify, data⟩ :: rest), sending, listening⟩
  /-- It is the first one. -/
  immutable : ∀ notification ∈ earlier, notification.kind ≠ .modify

/-- A task that has no turn coming after its first one is given no other. -/
theorem rest_eq_turn (done : worker.turn.task.isDue = false) : worker.rest = worker.turn := by
  have once : (turn^[1] worker).task.isDue = false := done
  exact (iterate_turn_eq_rest once).symm

/-- When it comes to a change in place, a task applies what came before it, and that is all. -/
theorem Meets.rest_eq {earlier : List (ChangeNotification Endpoint)} {data : Endpoint}
    (meets : worker.Meets earlier data) (invariant : worker.Invariant) :
    worker.rest =
      { worker with
        resolver := { worker.resolver with
          status := .failed (.ofModify data)
          changes := worker.resolver.changes + earlier.length + 1 }
        balancer := worker.balancer.shutdown
        inbox := worker.inbox.letGo
        task := .finished } := by
  -- One turn is enough, because a task that has failed has no other one coming.
  obtain ⟨ready, ⟨rest, sending, listening, inbox⟩, immutable⟩ := meets
  have serving := invariant.serving_of_ready ready
  have turned := turn_of_modify ready inbox immutable
  have counted := Resolver.applyAll_of_serving serving worker.balancer (earlier.map (·.asEvent))
  have goesOn : (worker.resolver.applyAll worker.balancer
      (earlier.map (·.asEvent))).1.status = .serving := by
    rw [counted, serving]
  rw [rest_eq_turn (by rw [turned]; rfl), turned, Resolver.moveTo_of_serving goesOn, counted,
    List.length_map]
  rfl

/-- When it comes to no change in place, a task applies all that waits, in one turn. -/
theorem rest_of_immutable (invariant : worker.Invariant) (ready : worker.task = .ready)
    (form : worker.inbox.form = .notifications)
    (immutable : ∀ notification ∈ worker.inbox.waiting, notification.kind ≠ .modify) :
    worker.rest.inbox.form = .notifications ∧ worker.rest.inbox.waiting = [] ∧
      worker.rest.resolver =
        { worker.resolver with
          changes := worker.resolver.changes + worker.inbox.waiting.length } ∧
      worker.rest.balancer.pool =
        rebuild worker.balancer.pool (worker.inbox.waiting.map (·.asEvent)) := by
  have serving := invariant.serving_of_ready ready
  obtain ⟨sending, listening, inbox⟩ := Inbox.eq_feed_of_form form
  have turned := turn_of_immutable ready inbox immutable
  -- It waits for more, or it is through if nobody can fill anything in.
  have done : worker.turn.task.isDue = false := by
    rw [turned]
    cases sending with
    | true | false => rfl
  have counted := Resolver.applyAll_of_serving serving worker.balancer
    (worker.inbox.waiting.map (·.asEvent))
  rw [List.length_map] at counted
  obtain ⟨_, rebuilt, _⟩ := worker.resolver.applyAll_of_open
    (invariant.coupled.serving serving) (worker.inbox.waiting.map (·.asEvent))
  rw [rest_eq_turn done, turned]
  exact ⟨rfl, rfl, counted, rebuilt⟩

/-- Turns end no service as long as the task takes from a stream, or has nothing more to take. -/
theorem status_iterate_turn (invariant : worker.Invariant)
    (peaceful : worker.task = .ready → worker.inbox.form = .members) (count : Nat) :
    (turn^[count] worker).resolver.status = worker.resolver.status := by
  -- The induction is on the turns, and a task that goes on still takes from a stream.
  induction count generalizing worker with
  | zero => rfl
  | succ count ih =>
    have still := (Steps.turned worker).invariant invariant
    rw [Function.iterate_succ_apply]
    have turned := worker.turn_cases
    generalize worker.turn = later at still turned ⊢
    cases turned with
    | rested => exact ih invariant peaceful
    | stopped => exact ih still nofun
    | applied ready events held form more =>
      rw [ih still fun ready => form.trans (more ready)]
      exact (worker.resolver.applyAll_of_open
        (invariant.coupled.serving (invariant.serving_of_ready ready)) events).1
    | failed ready inbox immutable =>
      have absurd := peaceful ready
      rw [inbox] at absurd
      cases absurd

/-- The turns of a task end its service only if it comes to a change in place. -/
theorem rest_cases (invariant : worker.Invariant) :
    worker.rest.resolver.status = worker.resolver.status ∨
      ∃ earlier data, worker.Meets earlier data := by
  -- The first turn decides: whoever takes from a feed takes it empty, or fails.
  have still := (Steps.turned worker).invariant invariant
  have first : worker.rest = turn^[worker.inbox.backlog] worker.turn :=
    Function.iterate_succ_apply ..
  rw [first]
  have turned := worker.turn_cases
  generalize worker.turn = later at still turned ⊢
  cases turned with
  | rested rest =>
    refine .inl (status_iterate_turn invariant (fun ready => ?_) _)
    rw [ready] at rest
    cases rest
  | stopped => exact .inl (status_iterate_turn still nofun _)
  | applied ready events held form more =>
    refine .inl ((status_iterate_turn still (fun ready => form.trans (more ready)) _).trans ?_)
    exact (worker.resolver.applyAll_of_open
      (invariant.coupled.serving (invariant.serving_of_ready ready)) events).1
  | failed ready inbox immutable =>
    exact .inr ⟨_, _, ready, ⟨_, _, _, inbox⟩, immutable⟩

/-- A task that was told to stop, or that has failed, has let go of its source after its turns. -/
theorem finished_rest_of_over (invariant : worker.Invariant)
    (ceased : worker.resolver.status ≠ .serving) : worker.rest.task = .finished := by
  -- It is about to stop, which takes one turn, or it was through with its source before.
  rcases invariant.ceased ceased with aborted | finished
  · have turned := turn_of_aborted aborted
    rw [rest_eq_turn (by rw [turned]; rfl), turned]
  · exact ((Reaches.rest worker).kept invariant).2.through finished

end Worker

namespace Desk

variable {desk : Desk}

/-! ### Closing -/

/-- What is asked of a resolver closes it or leaves its status; the last owner closes it, too. -/
theorem Served.resolver {request : DeskRequest} {answer : DeskAnswer} {after : Desk}
    (served : desk.Served request answer after) (invariant : desk.Invariant) :
    after.worker.resolver = desk.worker.resolver ∨
      after.worker.resolver = desk.worker.resolver.moveTo .closed ∧
        (request = .close ∨ after.ledger.owners = 0) := by
  have still := (served.invariant invariant).owners
  -- Whoever ceases to keep a resolver from being closed may be the last one.
  have released {left : Worker} {rest : Ledger} (owners : left.release.owners = rest.owners)
      (same : left.resolver = desk.worker.resolver) :
      left.release.resolver = desk.worker.resolver ∨
        left.release.resolver = desk.worker.resolver.moveTo .closed ∧
          (request = .close ∨ rest.owners = 0) := by
    obtain ⟨fewer, resolver⟩ := left.release_spec
    rw [same] at resolver
    split at resolver
    · exact .inr ⟨resolver, .inr (by omega)⟩
    · exact .inl resolver
  cases served with
  | refused | denied | resolved | streamDropped | inspected => exact .inl rfl
  | sent kind target => exact .inl (desk.worker.send_keeps kind target).1
  | hungUp => exact .inl desk.worker.hangUp_keeps.1
  | picked held polled | waited found polled => exact .inl (Worker.pollPick_keeps polled).1
  | handedOut held polled => exact .inl (Worker.pollPick_keeps polled).1
  | answered found polled => exact released still (Worker.pollPick_keeps polled).1
  | pickDropped | dropped => exact released still rfl
  | streamed found polled => exact .inl (Worker.pollPicks_keeps polled).1
  | closed => exact .inr ⟨rfl, .inl rfl⟩

/-! ### Answers -/

/-- A pick that is asked for is polled at once. -/
theorem serve_pick (held : desk.ledger.held = true) :
    (desk.serve .pick).1 =
      .chosen (Pick.fresh.poll desk.worker.resolver desk.worker.balancer).1 false := by
  -- Whether or not the pick is handed out, its answer is passed on.
  unfold serve
  dsimp only [Ledger.serve]
  rw [if_pos held]
  dsimp only [Ledger.handOut]
  split
  · rfl
  · rfl

/-- A pick that was handed out is polled. -/
theorem serve_pollPick {index : Nat} {pick : Pick}
    (found : desk.ledger.pick? index = some pick) :
    (desk.serve (.pollPick index)).1 =
      .chosen (pick.poll desk.worker.resolver desk.worker.balancer).1
        (pick.isWoken desk.worker.resolver) := by
  -- Whether or not the pick is taken back, its answer is passed on.
  unfold serve
  dsimp only [Ledger.serve]
  rw [found]
  dsimp only [Ledger.takeBack]
  split
  · rfl
  · rfl

/-- A stream of picks that was handed out is polled, and kept unless it came to its end. -/
theorem serve_pollPicks {index : Nat} {stream : PickStream}
    (found : desk.ledger.stream? index = some stream) :
    let polled := stream.poll desk.worker.resolver desk.worker.balancer
    (desk.serve (.pollPicks index)).1 =
        .chosen polled.1 (stream.isWoken desk.worker.resolver) ∧
      (desk.serve (.pollPicks index)).2.ledger.stream? index =
        if polled.1.isFinished then none else some polled.2.1 := by
  -- The place of the stream is filled with what the poll has left of it.
  unfold serve
  dsimp only [Ledger.serve]
  rw [found]
  refine ⟨rfl, (desk.ledger.stream?_setStream found _ index).trans ?_⟩
  exact if_pos rfl

/-- Who asks for a stream of picks is told if the service is over. -/
theorem serve_resolve (held : desk.ledger.held = true) :
    (desk.serve .resolve).1 =
      match desk.worker.resolver.terminalError? with
      | some error => .failed error
      | none => .done := by
  -- The answer is looked at before a stream is handed out.
  unfold serve
  dsimp only [Ledger.serve]
  rw [if_pos held]
  show (Prod.fst (match desk.worker.resolver.terminalError? with
    | some error => _
    | none => _)) = _
  split
  · rfl
  · rfl

/-- Who looks at a resolver is shown it, and how many candidates it has. -/
theorem serve_inspect (held : desk.ledger.held = true) :
    (desk.serve .inspect).1 =
      .inspected desk.worker.resolver desk.worker.balancer.candidateCount := by
  -- The front of a worker is what it is asked for.
  unfold serve
  dsimp only [Ledger.serve]
  rw [held]
  rfl

/-- Whoever has a resolver can close it. -/
theorem serve_close (held : desk.ledger.held = true) :
    -- Who holds the resolver is not refused.
    desk.serve .close = (.done, { desk with worker := desk.worker.close }) := by
  unfold serve
  dsimp only [Ledger.serve]
  rw [if_pos held]
  rfl

/-- Whoever drops a resolver has it no longer, and ceases to keep it from being closed. -/
theorem serve_drop (held : desk.ledger.held = true) :
    desk.serve .drop = (.done, ⟨desk.worker.release, { desk.ledger with held := false }⟩) := by
  -- Who holds the resolver is not refused, and gives it up by this.
  unfold serve
  dsimp only [Ledger.serve]
  rw [if_pos held]
  rfl

/-- What somebody has stays there while others ask for something else. -/
theorem Served.stream? {request : DeskRequest} {answer : DeskAnswer} {after : Desk}
    (served : desk.Served request answer after) {index : Nat}
    (polls : request ≠ .pollPicks index) (drops : request ≠ .dropPicks index)
    {stream : PickStream} (found : desk.ledger.stream? index = some stream) :
    after.ledger.stream? index = some stream := by
  -- Only the two requests about its own place could take the stream away.
  cases served with
  | refused | sent | hungUp | picked | handedOut | answered | waited | pickDropped | denied
  | inspected | closed | dropped => exact found
  | resolved =>
    -- The new stream comes after those that were handed out before.
    have there := Option.join_eq_some_iff.mp found
    have inside := (List.getElem?_eq_some_iff.mp there).1
    refine (Ledger.join_concat desk.ledger.streams .fresh index).trans ?_
    rw [if_neg (Nat.ne_of_lt inside)]
    exact found
  | streamed before polled =>
    refine (Ledger.stream?_setStream before _ index).trans ?_
    rw [if_neg (by rintro rfl; exact polls rfl)]
    exact found
  | streamDropped before =>
    refine (Ledger.stream?_setStream before _ index).trans ?_
    rw [if_neg (by rintro rfl; exact drops rfl)]
    exact found

end Desk

end PeerCluster
