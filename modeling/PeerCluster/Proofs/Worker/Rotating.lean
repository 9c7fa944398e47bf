import PeerCluster.Proofs.RoundRobin.Calls
import PeerCluster.Proofs.Worker.Ending

/-! Turns: all picks of a resolver, at once or from streams, draw on the rotation of its pool. -/

namespace PeerCluster

/-! ### What a poll takes from the pool -/

/-- The candidate that is given by an answer, if one is. -/
def granted? : Poll Choice → Option Endpoint
  | .ready (.ok candidate) => some candidate
  | _ => none

namespace RoundRobin

/-- A balancer that has no turn to give stays as it is. -/
theorem eq_of_choose_none {balancer left : RoundRobin} (nobody : balancer.choose = (none, left)) :
    -- A balancer that is shut down has no turn to give, and any other one has nobody to give it to.
    left = balancer := by
  cases shutDown : balancer.shutDown with
  | true => exact (Prod.mk.inj (nobody.symm.trans (choose_of_none (.inl shutDown)))).2
  | false => exact (pool_eq_nil_of_choose shutDown nobody).2

end RoundRobin

/-- What polling a pick takes from the pool, whatever the pick has looked at before. -/
inductive Pick.Takes (resolver : Resolver) (balancer : RoundRobin) :
    Poll Choice × Pick × RoundRobin → Prop where
  | waits (rest : Pick) : Takes resolver balancer (.pending, rest, balancer)
  | refused (ceased : resolver.status ≠ .serving) (error : ClusterError) (rest : Pick) :
      Takes resolver balancer (.ready (.error error), rest, balancer)
  /-- The candidate whose turn it is, and nobody else. -/
  | turn (serving : resolver.status = .serving) {candidate : Endpoint} {left : RoundRobin}
      (choice : balancer.choose = (some candidate, left)) (rest : Pick) :
      Takes resolver balancer (.ready (.ok candidate), rest, left)

/-- A pick takes the next turn exactly if it is answered with a candidate. -/
theorem Pick.takes_poll (pick : Pick) (resolver : Resolver) (balancer : RoundRobin) :
    Takes resolver balancer (pick.poll resolver balancer) := by
  -- The pool is asked only if there is something new and the service goes on.
  unfold poll
  split
  · exact .waits pick
  · cases terminal : resolver.terminalError? with
    | some error =>
      refine .refused (fun serving => ?_) error pick
      rw [Resolver.terminalError?_eq_none.mpr serving] at terminal
      cases terminal
    | none =>
      rcases choice : balancer.choose with ⟨candidate?, left⟩
      cases candidate? with
      | some candidate => exact .turn (Resolver.terminalError?_eq_none.mp terminal) choice pick
      | none =>
        obtain rfl := RoundRobin.eq_of_choose_none choice
        exact .waits _

/-- So does a stream of picks, whether it waits with a pick under way or has yet to ask. -/
theorem PickStream.takes_poll (stream : PickStream) (resolver : Resolver) (balancer : RoundRobin) :
    let polled := stream.poll resolver balancer
    granted? polled.1 = none ∧ polled.2.2 = balancer ∨
      resolver.status = .serving ∧ ∃ candidate, granted? polled.1 = some candidate ∧
        balancer.choose = (some candidate, polled.2.2) := by
  -- A candidate is passed on as it is, and of the other answers none takes anything.
  cases stream with
  | done => exact .inl ⟨rfl, rfl⟩
  | picking pick =>
    have takes := pick.takes_poll resolver balancer
    dsimp only [poll]
    generalize pick.poll resolver balancer = outcome at takes
    cases takes with
    | waits => exact .inl ⟨rfl, rfl⟩
    | turn serving choice => exact .inr ⟨serving, _, rfl, choice⟩
    | refused ceased error =>
      refine .inl ?_
      cases error with
      | _ => exact ⟨rfl, rfl⟩

/-! ### Turns of a worker -/

namespace Worker

variable {worker later : Worker}

/-- Nobody gets a turn: the resolver and its pool stay as they are, or the service is ended. -/
inductive TakesNoTurn (worker later : Worker) : Prop where
  | kept (resolver : later.resolver = worker.resolver) (balancer : later.balancer = worker.balancer)
  | ended (status : later.resolver.status ≠ .serving)
      (balancer : later.balancer = worker.balancer.shutdown)

/-- Closing gives nobody a turn. -/
theorem takesNoTurn_close (worker : Worker) : worker.TakesNoTurn worker.close :=
  .ended worker.resolver.status_moveTo_closed rfl

/-- Neither does it when somebody ceases to keep the resolver from being closed. -/
theorem takesNoTurn_release (worker : Worker) : worker.TakesNoTurn worker.release := by
  -- The last owner closes, and any other one is only counted.
  unfold release
  dsimp only
  split
  · exact .ended worker.resolver.status_moveTo_closed rfl
  · exact .kept rfl rfl

/-- Waking a task leaves the pool alone. -/
theorem balancer_wake (worker : Worker) : worker.wake.balancer = worker.balancer := by
  -- At most the phase of the task is written.
  rcases worker.wake_eq with same | ⟨_, woken⟩
  · rw [same]
  · rw [woken]

/-- What is filled in is applied later, by the task. -/
theorem balancer_send (kind : NotificationKind) (target : Endpoint) (worker : Worker) :
    (worker.send kind target).2.balancer = worker.balancer := by
  -- The item is put into the feed, and the task may be woken for it.
  unfold send
  split
  · rfl
  · split
    · exact balancer_wake _
    · rfl

/-- The end of what is filled in leaves the pool alone, too. -/
theorem balancer_hangUp (worker : Worker) : worker.hangUp.balancer = worker.balancer := by
  -- At most the task is woken.
  unfold hangUp
  split
  · rfl
  · exact balancer_wake _

/-- The two parts of a resolver go on agreeing if nobody gets a turn. -/
theorem TakesNoTurn.coupled (noTurn : worker.TakesNoTurn later)
    (coupled : worker.resolver.Coupled worker.balancer) :
    later.resolver.Coupled later.balancer := by
  -- Both parts are as they were, or both are those of a service that is over.
  cases noTurn with
  | kept resolver balancer =>
    rw [resolver, balancer]
    exact coupled
  | ended status balancer =>
    rw [balancer]
    exact ⟨fun serving => absurd serving status, fun _ => rfl⟩

/-- A service that is over has nothing left in its pool that anything could be done to. -/
theorem TakesNoTurn.balancer_of_over (noTurn : worker.TakesNoTurn later)
    (coupled : worker.resolver.Coupled worker.balancer)
    (ceased : worker.resolver.status ≠ .serving) : later.balancer = worker.balancer := by
  -- An end after the end shuts down what is shut down.
  cases noTurn with
  | kept resolver balancer => exact balancer
  | ended status balancer => exact balancer.trans (coupled.ceased ceased).symm

/-- What polling a pick leaves, by what it takes from the pool. -/
inductive Takes (worker : Worker) : Poll Choice → Worker → Prop where
  | waits : Takes worker .pending worker
  | refused (ceased : worker.resolver.status ≠ .serving) (error : ClusterError) :
      Takes worker (.ready (.error error)) worker
  | turn (serving : worker.resolver.status = .serving) {candidate : Endpoint} {left : RoundRobin}
      (choice : worker.balancer.choose = (some candidate, left)) :
      Takes worker (.ready (.ok candidate)) { worker with balancer := left }

/-- Polling a pick takes a turn exactly if it is answered with a candidate. -/
theorem takes_of_pollPick {pick rest : Pick} {answer : Poll Choice} {woken : Bool}
    (polled : worker.pollPick pick = ((answer, woken), rest, later)) :
    worker.Takes answer later := by
  -- The poll of the worker is the poll of the pick, put back into the worker.
  have takes := pick.takes_poll worker.resolver worker.balancer
  unfold pollPick at polled
  generalize pick.poll worker.resolver worker.balancer = outcome at takes polled
  cases takes with
  | waits =>
    cases polled
    exact .waits
  | refused ceased error =>
    cases polled
    exact .refused ceased error
  | turn serving choice =>
    cases polled
    exact .turn serving choice

/-- So does polling a stream of picks. -/
theorem takes_of_pollPicks {stream rest : PickStream} {answer : Poll Choice} {woken : Bool}
    (polled : worker.pollPicks stream = ((answer, woken), rest, later)) :
    granted? answer = none ∧ later = worker ∨
      worker.resolver.status = .serving ∧ ∃ candidate left, granted? answer = some candidate ∧
        worker.balancer.choose = (some candidate, left) ∧
        later = { worker with balancer := left } := by
  -- The poll of the worker is the poll of the stream, put back into the worker.
  have takes := stream.takes_poll worker.resolver worker.balancer
  unfold pollPicks at polled
  generalize stream.poll worker.resolver worker.balancer = outcome at takes polled
  obtain ⟨again, next, left⟩ := outcome
  cases polled
  rcases takes with ⟨nobody, rfl⟩ | ⟨serving, candidate, granted, choice⟩
  · exact .inl ⟨nobody, rfl⟩
  · exact .inr ⟨serving, candidate, left, granted, choice, rfl⟩

end Worker

/-! ### Turns of a desk -/

/-- The candidate that is given by an answer, if one is. -/
def DeskAnswer.granted? : DeskAnswer → Option Endpoint
  | chosen answer _ => PeerCluster.granted? answer
  | _ => none

/-- Whether a request gives up what somebody has, or ends the service. -/
def DeskRequest.leaves : DeskRequest → Bool
  | dropPick _ | close | drop => true
  | _ => false

namespace Desk

open Machine

variable {desk later : Desk} {request : DeskRequest} {answer : DeskAnswer}

/-- What a request takes from the pool: one turn for the candidate it is answered, or none. -/
inductive Turns (desk later : Desk) : Option Endpoint → Prop where
  | nobody (noTurn : desk.worker.TakesNoTurn later.worker) : Turns desk later none
  /-- What is done to the resolver besides, because somebody was answered, comes afterwards. -/
  | turn (serving : desk.worker.resolver.status = .serving) {candidate : Endpoint}
      {left : RoundRobin} (choice : desk.worker.balancer.choose = (some candidate, left))
      (noTurn : Worker.TakesNoTurn { desk.worker with balancer := left } later.worker) :
      Turns desk later (some candidate)

/-- A poll of a pick takes its turn before anything else is done because of its answer. -/
theorem turns_of_pollPick {pick rest : Pick} {chosen : Poll Choice} {woken : Bool} {left : Worker}
    (polled : desk.worker.pollPick pick = ((chosen, woken), rest, left))
    (noTurn : left.TakesNoTurn later.worker) : desk.Turns later (granted? chosen) := by
  -- The pool gives the turn, and what is done to the resolver afterwards gives none.
  cases Worker.takes_of_pollPick polled with
  | waits | refused => exact .nobody noTurn
  | turn serving choice => exact .turn serving choice noTurn

/-- Every request takes the turn of the candidate it is answered, and no other one. -/
theorem Served.turns (served : desk.Served request answer later) :
    desk.Turns later answer.granted? := by
  -- Polls ask the pool, and whatever else is done gives nobody a turn.
  cases served with
  | refused | denied | resolved | streamDropped | inspected => exact .nobody (.kept rfl rfl)
  | sent kind target =>
    exact .nobody (.kept (desk.worker.send_keeps kind target).1 (Worker.balancer_send ..))
  | hungUp => exact .nobody (.kept desk.worker.hangUp_keeps.1 (Worker.balancer_hangUp _))
  | picked held polled | handedOut held polled | waited found polled =>
    exact turns_of_pollPick polled (.kept rfl rfl)
  | answered found polled => exact turns_of_pollPick polled (Worker.takesNoTurn_release _)
  | pickDropped | dropped => exact .nobody desk.worker.takesNoTurn_release
  | closed => exact .nobody desk.worker.takesNoTurn_close
  | @streamed index stream found chosen woken rest left polled =>
    dsimp only [DeskAnswer.granted?]
    rcases Worker.takes_of_pollPicks polled with
      ⟨nobody, rfl⟩ | ⟨serving, candidate, left, granted, choice, rfl⟩
    · rw [nobody]
      exact .nobody (.kept rfl rfl)
    · rw [granted]
      exact .turn serving choice (.kept rfl rfl)

/-- A poll that gives nobody leaves the pool as it was, and so does dropping a stream of picks. -/
theorem Served.balancer (served : desk.Served request answer later)
    (coupled : desk.worker.resolver.Coupled desk.worker.balancer)
    (stays : request.leaves = false) (nobody : answer.granted? = none) :
    later.worker.balancer = desk.worker.balancer := by
  -- A pick that is told an error is taken back, which changes nothing once the service is over.
  cases served with
  | refused | denied | resolved | streamDropped | inspected => rfl
  | pickDropped | dropped | closed => cases stays
  | sent kind target => exact desk.worker.balancer_send kind target
  | hungUp => exact desk.worker.balancer_hangUp
  | handedOut held polled | waited found polled =>
    cases Worker.takes_of_pollPick polled with
    | waits => rfl
  | picked held polled =>
    cases Worker.takes_of_pollPick polled with
    | waits | refused => rfl
    | turn => cases nobody
  | answered found polled ready =>
    cases Worker.takes_of_pollPick polled with
    | waits => cases ready
    | refused ceased => exact desk.worker.takesNoTurn_release.balancer_of_over coupled ceased
    | turn => cases nobody
  | streamed found polled =>
    rcases Worker.takes_of_pollPicks polled with ⟨_, rfl⟩ | ⟨_, candidate, _, granted, _⟩
    · rfl
    · cases granted.symm.trans nobody

end Desk

end PeerCluster
