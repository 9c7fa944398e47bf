import PeerCluster.Proofs.Venue.Desks
import PeerCluster.Proofs.Worker.Ending

/-! The life of a resolver: it serves, then it is closed or fails, and that is the last word. -/

namespace PeerCluster

/-- What becomes of a status when a resolver is closed: a service that is over stays as it is. -/
def ResolverStatus.whenClosed : ResolverStatus → ResolverStatus
  | .serving => .closed
  | .closed => .closed
  | .failed error => .failed error

/-- What closing leaves of the status of a resolver. -/
theorem Resolver.status_moveTo_whenClosed (resolver : Resolver) :
    (resolver.moveTo .closed).status = resolver.status.whenClosed := by
  unfold moveTo
  cases status : resolver.status with
  | serving => rfl
  | closed | failed => exact status

/-- Whoever was closed serves no longer. -/
theorem ResolverStatus.whenClosed_ne (status : ResolverStatus) : status.whenClosed ≠ .serving := by
  cases status with
  | serving | closed | failed => nofun

/-- How a call ends the service of a resolver. -/
inductive Desk.Ends (key : Nat) (desk later : Desk) : VenueCall → Prop where
  /-- It is closed, by request or because nobody keeps it from that any more. -/
  | closed {request : DeskRequest} (how : request = .close ∨ later.ledger.owners = 0)
      (status : later.worker.resolver.status = .closed) :
      Ends key desk later (.ask key (.desk request))
  /-- Its task comes to the first notification of a change in place. -/
  | failed {earlier : List (ChangeNotification Endpoint)} {data : Endpoint}
      (meets : desk.worker.Meets earlier data)
      (status : later.worker.resolver.status = .failed (.ofModify data)) : Ends key desk later .run

namespace Venue

open Machine

/-- What is answered by a resolver that serves. -/
structure Serves (venue : Venue) (key : Nat) (desk : Desk) : Prop where
  pick : desk.ledger.held = true → ∃ answer, Offers desk.worker.balancer.pool answer ∧
    answerTo venue (.ask key (.desk .pick)) = .desk (.chosen answer false)
  pollPick : ∀ {index pick}, desk.ledger.pick? index = some pick →
    ∃ answer woken, Offers desk.worker.balancer.pool answer ∧
      answerTo venue (.ask key (.desk (.pollPick index))) = .desk (.chosen answer woken)
  resolve : desk.ledger.held = true → answerTo venue (.ask key (.desk .resolve)) = .desk .done
  /-- No stream is done while the resolver serves. -/
  pollPicks : ∀ {index stream}, desk.ledger.stream? index = some stream → stream ≠ .done ∧
    ∃ answer woken, Offers desk.worker.balancer.pool answer ∧
      answerTo venue (.ask key (.desk (.pollPicks index))) = .desk (.chosen answer woken)

/-- What is answered by a resolver that serves no longer. -/
structure Refuses (venue : Venue) (key : Nat) (desk : Desk) (error : ClusterError) : Prop where
  pick : desk.ledger.held = true →
    answerTo venue (.ask key (.desk .pick)) = .desk (.chosen (.ready (.error error)) false)
  /-- Whoever waits has been woken for it. -/
  pollPick : ∀ {index pick}, desk.ledger.pick? index = some pick →
    answerTo venue (.ask key (.desk (.pollPick index))) =
      .desk (.chosen (.ready (.error error)) true)
  resolve : desk.ledger.held = true →
    answerTo venue (.ask key (.desk .resolve)) = .desk (.failed error)
  inspect : desk.ledger.held = true → ∃ resolver, resolver.isClosed = true ∧
    answerTo venue (.ask key (.desk .inspect)) = .desk (.inspected resolver 0)

/-- A stream of picks comes to its end when it is polled next. -/
def Finishes (venue : Venue) (key index : Nat) : Prop :=
  ∃ woken, answerTo venue (.ask key (.desk (.pollPicks index))) = .desk (.chosen .finished woken) ∧
    ∃ later, (next venue (.ask key (.desk (.pollPicks index)))).desk? key = some later ∧
      later.ledger.stream? index = none

/-- Calls leave a stream of picks alone. -/
def StreamUntouched (key index : Nat) (calls : List VenueCall) : Prop :=
  ∀ call ∈ calls, call ≠ .ask key (.desk (.pollPicks index)) ∧
    call ≠ .ask key (.desk (.dropPicks index))

/-- The task of a resolver lets go of its source in a call. -/
def Releases (venue : Venue) (key : Nat) (call : VenueCall) : Prop :=
  (∃ desk, venue.desk? key = some desk ∧ desk.worker.inbox.isHeld = true) ∧
    ∃ later, (next venue call).desk? key = some later ∧ later.worker.inbox.isHeld = false

/--
From a call on a resolver keeps a status, whatever else is called.

Its source is let go of as soon as there was a run of the tasks, be it this call itself.
-/
def Settles (venue : Venue) (key : Nat) (call : VenueCall) (status : ResolverStatus) : Prop :=
  ∀ more, ∃ later, (after venue (call :: more)).desk? key = some later ∧
    later.worker.resolver.status = status ∧
    (.run ∈ call :: more → later.worker.inbox.isHeld = false)

/-- What can be told of a resolver after a run. -/
structure Lifecycle (calls : List VenueCall) (key : Nat) (desk : Desk) : Prop where
  /-- A call leaves the status of a resolver, or it ends its service. -/
  moves : ∀ call, ∃ later, (next (after Venue.empty calls) call).desk? key = some later ∧
    (later.worker.resolver.status = desk.worker.resolver.status ∨
      desk.worker.resolver.status = .serving ∧ desk.Ends key later call)
  /-- Whoever closes it ends its service for good, unless it has failed, which stays so. -/
  closes : desk.ledger.held = true →
    answerTo (after Venue.empty calls) (.ask key (.desk .close)) = .desk .done ∧
      (after Venue.empty calls).Settles key (.ask key (.desk .close))
        desk.worker.resolver.status.whenClosed
  /-- Whoever drops it closes it, too, unless somebody waits for a pick. -/
  drops : desk.ledger.held = true →
    answerTo (after Venue.empty calls) (.ask key (.desk .drop)) = .desk .done ∧
      (∃ later, (next (after Venue.empty calls) (.ask key (.desk .drop))).desk? key = some later ∧
        later.ledger.held = false ∧ later.ledger.owners + 1 = desk.ledger.owners) ∧
      (desk.ledger.owners = 1 → (after Venue.empty calls).Settles key (.ask key (.desk .drop))
        desk.worker.resolver.status.whenClosed)
  /-- When its task comes to a change in place, a run makes it fail for good. -/
  fails : ∀ {earlier data}, desk.worker.Meets earlier data →
    (after Venue.empty calls).Settles key .run (.failed (.ofModify data))
  /-- Nothing that is called afterwards changes it again, and nothing more is applied. -/
  final : desk.worker.resolver.status ≠ .serving → ∀ more, ∃ later,
    (after Venue.empty (calls ++ more)).desk? key = some later ∧
      later.worker.resolver = desk.worker.resolver ∧ later.worker.balancer = desk.worker.balancer
  ceased : desk.worker.resolver.status ≠ .serving →
    desk.worker.resolver.isClosed = true ∧ desk.worker.balancer.candidateCount = 0
  /-- A resolver is over as soon as it was dropped and nobody waits for it. -/
  deserted : desk.ledger.owners = 0 → desk.worker.resolver.status ≠ .serving
  serving : desk.worker.resolver.status = .serving → (after Venue.empty calls).Serves key desk
  closed : desk.worker.resolver.status = .closed →
    (after Venue.empty calls).Refuses key desk (.resolverClosed desk.worker.resolver.role) ∧
      ∀ {index stream}, desk.ledger.stream? index = some stream →
        (after Venue.empty calls).Finishes key index
  /-- A stream of picks passes the error on once, and then it comes to its end. -/
  failed : ∀ error, desk.worker.resolver.status = .failed error →
    (after Venue.empty calls).Refuses key desk error ∧
      ∀ {index stream}, desk.ledger.stream? index = some stream →
        (stream = .done → (after Venue.empty calls).Finishes key index) ∧
        (stream ≠ .done →
          (∃ woken, answerTo (after Venue.empty calls) (.ask key (.desk (.pollPicks index))) =
            .desk (.chosen (.ready (.error error)) woken)) ∧
          ∀ more, StreamUntouched key index more → (after Venue.empty
            (calls ++ .ask key (.desk (.pollPicks index)) :: more)).Finishes key index)
  /-- A stream of picks changes by nothing but by being asked for the next one. -/
  spared : ∀ {index stream}, desk.ledger.stream? index = some stream → ∀ more,
    StreamUntouched key index more → ∃ later,
      (after Venue.empty (calls ++ more)).desk? key = some later ∧
      later.ledger.stream? index = some stream
  /-- Its task lets go of the source once, at the next run at the latest, and never again. -/
  released : desk.worker.resolver.status ≠ .serving →
    ∃ earlier call later, calls ++ [.run] = earlier ++ call :: later ∧
      (after Venue.empty earlier).Releases key call ∧
      ∀ more other again rest, calls ++ .run :: more = other ++ again :: rest →
        (after Venue.empty other).Releases key again → other = earlier

variable {venue : Venue} {key : Nat} {desk : Desk}

/-! ### Answers -/

/-- A resolver that serves answers by its pool. -/
theorem Invariant.serves (invariant : venue.Invariant) (found : venue.desk? key = some desk)
    (serving : desk.worker.resolver.status = .serving) : venue.Serves key desk := by
  -- Every answer is what the desk says, and a resolver that serves has no other ones.
  have asks := answerTo_ask invariant.sound found
  have fits := invariant.desk found
  refine ⟨fun held => ?_, fun {index pick} there => ?_, fun held => ?_,
    fun {index stream} there => ?_⟩
  · have polled := Pick.polled_poll fits.worker.coupled Pick.waits_fresh
    rw [asks, Desk.serve_pick held]
    exact ⟨_, polled.offers serving, rfl⟩
  · have polled := Pick.polled_poll fits.worker.coupled (fits.waits.picks there).1
    rw [asks, Desk.serve_pollPick there]
    exact ⟨_, _, polled.offers serving, rfl⟩
  · rw [asks, Desk.serve_resolve held, Resolver.terminalError?_eq_none.mpr serving]
  · have underWay : stream ≠ .done := by
      rintro rfl
      obtain ⟨error, failed⟩ := fits.waits.done there
      cases serving.symm.trans failed
    rw [asks, (Desk.serve_pollPicks there).1]
    exact ⟨underWay, _, _, (fits.polled there).offers underWay serving, rfl⟩

/-- A resolver that serves no longer answers by the reason. -/
theorem Invariant.refuses (invariant : venue.Invariant) (found : venue.desk? key = some desk)
    {error : ClusterError} (terminal : desk.worker.resolver.terminalError? = some error) :
    venue.Refuses key desk error := by
  -- Every answer is what the desk says, and whoever waited has something to look at.
  have asks := answerTo_ask invariant.sound found
  have fits := invariant.desk found
  have ceased : desk.worker.resolver.status ≠ .serving := by
    intro serving
    rw [Resolver.terminalError?_eq_none.mpr serving] at terminal
    cases terminal
  refine ⟨fun held => ?_, fun {index pick} there => ?_, fun held => ?_, fun held => ?_⟩
  · have polled := Pick.polled_poll fits.worker.coupled Pick.waits_fresh
    rw [asks, Desk.serve_pick held, polled.refuses terminal]
  · obtain ⟨waits, looked⟩ := fits.waits.picks there
    have told := (Pick.polled_poll fits.worker.coupled waits).refuses terminal
    have woken := Pick.isWoken_of_answered looked (by rw [told]; nofun)
    rw [asks, Desk.serve_pollPick there, told, woken]
  · rw [asks, Desk.serve_resolve held, terminal]
  · rw [asks, Desk.serve_inspect held, fits.worker.coupled.candidateCount ceased]
    refine ⟨_, ?_, rfl⟩
    unfold Resolver.isClosed
    rw [terminal]
    rfl

/-- A stream of picks whose poll comes to the end is taken back by that. -/
theorem Invariant.finishes (invariant : venue.Invariant)
    (found : venue.desk? key = some desk) {index : Nat}
    {stream : PickStream} (there : desk.ledger.stream? index = some stream)
    (finished : (stream.poll desk.worker.resolver desk.worker.balancer).1 = .finished) :
    venue.Finishes key index := by
  -- The answer is the end, and the place of the stream is empty after it.
  obtain ⟨answer, rest⟩ := Desk.serve_pollPicks there
  rw [finished] at answer rest
  obtain ⟨later, left, moves⟩ := next_desk invariant.sound found
    (.ask key (.desk (.pollPicks index)))
  refine ⟨_, (answerTo_ask invariant.sound found _).trans (congrArg _ answer), later, left, ?_⟩
  cases moves with
  | stays runs asks => exact absurd rfl (asks _)
  | served request => exact rest

/-- A stream of picks that nobody asks for the next one stays as it is. -/
theorem Invariant.spared (invariant : venue.Invariant)
    (found : venue.desk? key = some desk) {index : Nat}
    {stream : PickStream} (there : desk.ledger.stream? index = some stream)
    {more : List VenueCall} (spared : StreamUntouched key index more) :
    ∃ later, (after venue more).desk? key = some later ∧
      later.ledger.stream? index = some stream := by
  -- The induction is on the calls, none of which concerns the stream.
  induction more generalizing venue desk with
  | nil => exact ⟨desk, found, there⟩
  | cons call rest ih =>
    obtain ⟨⟨polls, drops⟩, spared⟩ := List.forall_mem_cons.mp spared
    obtain ⟨later, left, moves⟩ := next_desk invariant.sound found call
    refine ih (invariant.step call) left ?_ spared
    cases moves with
    | stays | heard | rested => exact there
    | served request =>
      refine (desk.serve_cases request).stream? ?_ ?_ there
      · rintro rfl
        exact polls rfl
      · rintro rfl
        exact drops rfl

/-- A stream of picks passes the error of a failure on, and afterwards it comes to its end. -/
theorem Invariant.fails (invariant : venue.Invariant)
    (found : venue.desk? key = some desk) {index : Nat}
    {stream : PickStream} (there : desk.ledger.stream? index = some stream)
    (underWay : stream ≠ .done) {error : ClusterError}
    (failed : desk.worker.resolver.status = .failed error) :
    (∃ woken, answerTo venue (.ask key (.desk (.pollPicks index))) =
      .desk (.chosen (.ready (.error error)) woken)) ∧
      ∀ more, StreamUntouched key index more →
        (after venue (.ask key (.desk (.pollPicks index)) :: more)).Finishes key index := by
  -- After the error the stream is done, and it stays so until it is polled again.
  obtain ⟨told, done⟩ := ((invariant.desk found).polled there).fails underWay failed
  obtain ⟨answer, rest⟩ := Desk.serve_pollPicks there
  rw [told] at answer rest
  refine ⟨⟨_, (answerTo_ask invariant.sound found _).trans (congrArg _ answer)⟩,
    fun more spared => ?_⟩
  obtain ⟨later, left, moves⟩ := next_desk invariant.sound found
    (.ask key (.desk (.pollPicks index)))
  have fits := invariant.step (.ask key (.desk (.pollPicks index)))
  have ceased : later.ledger.stream? index = some .done := by
    cases moves with
    | stays runs asks => exact absurd rfl (asks _)
    | served request => exact rest.trans (congrArg some done)
  obtain ⟨last, reached, still⟩ := fits.spared left ceased spared
  exact (fits.run more).finishes reached still rfl

/-! ### Ends -/

/-- A call leaves the status of a resolver, or it ends its service. -/
theorem Invariant.moves (invariant : venue.Invariant) (found : venue.desk? key = some desk)
    (call : VenueCall) :
    ∃ later, (next venue call).desk? key = some later ∧
      (later.worker.resolver.status = desk.worker.resolver.status ∨
        desk.worker.resolver.status = .serving ∧ desk.Ends key later call) := by
  -- What is over never changes; a resolver that serves is ended by a run or by a request.
  have fits := invariant.desk found
  obtain ⟨later, left, moves⟩ := next_desk invariant.sound found call
  refine ⟨later, left, ?_⟩
  by_cases serving : desk.worker.resolver.status = .serving
  · cases moves with
    | stays => exact .inl rfl
    | heard registry call change? lives =>
      exact .inl (congrArg _ (Desk.hear_keeps registry change? lives _).1)
    | rested =>
      rcases Worker.rest_cases fits.worker with same | ⟨earlier, data, meets⟩
      · exact .inl same
      · refine .inr ⟨serving, .failed meets ?_⟩
        rw [meets.rest_eq fits.worker]
    | served request =>
      rcases (desk.serve_cases request).resolver fits with same | ⟨closed, how⟩
      · exact .inl (congrArg _ same)
      · refine .inr ⟨serving, .closed how ?_⟩
        rw [closed, Resolver.moveTo_of_serving serving]
  · -- What is over stays as it is.
    obtain ⟨_, precedes⟩ := moves.reaches.kept fits.worker
    exact .inl (congrArg _ (precedes.ceased serving).1)

/-! ### Sources -/

/-- A task that has let go of its source does not take it up again. -/
theorem Invariant.isHeld_after (invariant : venue.Invariant) (found : venue.desk? key = some desk)
    (gone : desk.worker.inbox.isHeld = false) (more : List VenueCall) :
    ∃ later, (after venue more).desk? key = some later ∧ later.worker.inbox.isHeld = false := by
  obtain ⟨later, left, fits, precedes⟩ := invariant.desk_after found more
  have finished : desk.worker.task = .finished := by
    by_contra goesOn
    cases gone.symm.trans ((invariant.desk found).worker.held.mpr goesOn)
  refine ⟨later, left, Bool.eq_false_iff.mpr fun held => ?_⟩
  exact fits.worker.held.mp held (precedes.through finished)

/-- A resolver that serves no longer has let go of its source after any run of the tasks. -/
theorem Invariant.isHeld_of_run (invariant : venue.Invariant) (found : venue.desk? key = some desk)
    (ceased : desk.worker.resolver.status ≠ .serving) {more : List VenueCall} (run : .run ∈ more) :
    ∃ later, (after venue more).desk? key = some later ∧ later.worker.inbox.isHeld = false := by
  -- The calls are cut at a run, after which the task is finished and takes up nothing again.
  obtain ⟨earlier, rest, rfl⟩ := List.append_of_mem run
  rw [after_append]
  obtain ⟨before, reached, fits, precedes⟩ := invariant.desk_after found earlier
  have ended : before.worker.resolver.status ≠ .serving := by
    rw [(precedes.ceased ceased).1]
    exact ceased
  obtain ⟨rested, left, moves⟩ := next_desk (invariant.run earlier).sound reached .run
  refine ((invariant.run earlier).step .run).isHeld_after left ?_ rest
  have still := (moves.invariant fits).worker.held
  cases moves with
  | stays runs => exact absurd rfl runs
  | rested =>
    exact Bool.eq_false_iff.mpr fun held =>
      still.mp held (Worker.finished_rest_of_over fits.worker ended)

/-- A call that ends the service of a resolver settles what becomes of it. -/
theorem Invariant.settles (invariant : venue.Invariant) {call : VenueCall} {later : Desk}
    (left : (next venue call).desk? key = some later)
    (ceased : later.worker.resolver.status ≠ .serving)
    (gone : call = .run → later.worker.inbox.isHeld = false) :
    venue.Settles key call later.worker.resolver.status := by
  -- What is over stays as it is; its source was let go of by this call, or is by a later run.
  intro more
  obtain ⟨last, reached, _, precedes⟩ := (invariant.step call).desk_after left more
  refine ⟨last, reached, congrArg _ (precedes.ceased ceased).1, fun run => ?_⟩
  have released : ∃ other, (after (next venue call) more).desk? key = some other ∧
      other.worker.inbox.isHeld = false := by
    rcases List.mem_cons.mp run with same | run
    · exact (invariant.step call).isHeld_after left (gone same.symm) more
    · exact (invariant.step call).isHeld_of_run left ceased run
  obtain ⟨other, found, free⟩ := released
  obtain rfl := Option.some.inj (found.symm.trans reached)
  exact free

/-- What is asked of a resolver leaves of it what it would on a desk of its own. -/
theorem next_ask (sound : venue.Sound) (found : venue.desk? key = some desk)
    (request : DeskRequest) :
    (next venue (.ask key (.desk request))).desk? key = some (desk.serve request).2 := by
  obtain ⟨later, left, moves⟩ := next_desk sound found (.ask key (.desk request))
  cases moves with
  | stays runs asks => exact absurd rfl (asks _)
  | served => exact left

/-- Whoever closes a resolver ends its service for good, unless it was over before. -/
theorem Invariant.closes (invariant : venue.Invariant) (found : venue.desk? key = some desk)
    (held : desk.ledger.held = true) :
    answerTo venue (.ask key (.desk .close)) = .desk .done ∧
      venue.Settles key (.ask key (.desk .close)) desk.worker.resolver.status.whenClosed := by
  have answer := answerTo_ask invariant.sound found .close
  have left := next_ask invariant.sound found .close
  rw [Desk.serve_close held] at answer left
  have status : desk.worker.close.resolver.status = desk.worker.resolver.status.whenClosed :=
    desk.worker.resolver.status_moveTo_whenClosed
  have settles := invariant.settles left (status ▸ ResolverStatus.whenClosed_ne _) nofun
  exact ⟨answer, status ▸ settles⟩

/-- Whoever drops a resolver ends its service for good, unless somebody waits for a pick. -/
theorem Invariant.drops (invariant : venue.Invariant) (found : venue.desk? key = some desk)
    (held : desk.ledger.held = true) :
    answerTo venue (.ask key (.desk .drop)) = .desk .done ∧
      (∃ later, (next venue (.ask key (.desk .drop))).desk? key = some later ∧
        later.ledger.held = false ∧ later.ledger.owners + 1 = desk.ledger.owners) ∧
      (desk.ledger.owners = 1 → venue.Settles key (.ask key (.desk .drop))
        desk.worker.resolver.status.whenClosed) := by
  have answer := answerTo_ask invariant.sound found .drop
  have left := next_ask invariant.sound found .drop
  rw [Desk.serve_drop held] at answer left
  refine ⟨answer, ⟨_, left, rfl, ?_⟩, fun last => ?_⟩
  · -- The holder counted for one, and every pick that waits is still there.
    unfold Ledger.owners
    dsimp only
    rw [if_pos held, if_neg Bool.false_ne_true]
    omega
  · -- The worker counts as many owners, so the last one of them closes the resolver.
    have released := desk.worker.release_spec.2
    rw [if_pos ((invariant.desk found).owners.trans last)] at released
    have status : desk.worker.release.resolver.status =
        desk.worker.resolver.status.whenClosed := by
      rw [released, Resolver.status_moveTo_whenClosed]
    have settles := invariant.settles left (status ▸ ResolverStatus.whenClosed_ne _) nofun
    exact status ▸ settles

/-- A run in which the task of a resolver comes to a change in place makes it fail for good. -/
theorem Invariant.meets (invariant : venue.Invariant) (found : venue.desk? key = some desk)
    {earlier : List (ChangeNotification Endpoint)} {data : Endpoint}
    (meets : desk.worker.Meets earlier data) :
    venue.Settles key .run (.failed (.ofModify data)) := by
  obtain ⟨later, left, moves⟩ := next_desk invariant.sound found .run
  cases moves with
  | stays runs => exact absurd rfl runs
  | rested =>
    have rested := meets.rest_eq (invariant.desk found).worker
    have status : desk.worker.rest.resolver.status = .failed (.ofModify data) := by
      rw [rested]
    have gone : desk.worker.rest.inbox.isHeld = false := by
      rw [rested]
      exact Inbox.isHeld_letGo _
    have settles := invariant.settles left (by rw [status]; nofun) fun _ => gone
    exact status ▸ settles

/-- A task that has let go of its source by the end of a run did so in one of the calls. -/
theorem Invariant.exists_release (invariant : venue.Invariant) (found : venue.desk? key = some desk)
    (held : desk.worker.inbox.isHeld = true) {calls : List VenueCall} {last : Desk}
    (reached : (after venue calls).desk? key = some last)
    (gone : last.worker.inbox.isHeld = false) :
    ∃ earlier call later, calls = earlier ++ call :: later ∧
      (after venue earlier).Releases key call := by
  -- The induction is on the calls: the first one after which it is not held is the one.
  induction calls generalizing venue desk with
  | nil =>
    obtain rfl := Option.some.inj (found.symm.trans reached)
    cases held.symm.trans gone
  | cons call rest ih =>
    obtain ⟨between, left, _⟩ := next_desk invariant.sound found call
    cases still : between.worker.inbox.isHeld with
    | false => exact ⟨[], call, rest, rfl, ⟨desk, found, held⟩, between, left, still⟩
    | true =>
      obtain ⟨earlier, other, later, rfl, releases⟩ := ih (invariant.step call) left still reached
      exact ⟨call :: earlier, other, later, rfl, releases⟩

/-- Whoever has a resolver in the end has got it in one of the calls, with its source held. -/
theorem Invariant.exists_opened (invariant : venue.Invariant) (nobody : venue.desk? key = none)
    {calls : List VenueCall} (found : (after venue calls).desk? key = some desk) :
    ∃ earlier later opened, calls = earlier ++ later ∧
      (after venue earlier).desk? key = some opened ∧ opened.worker.inbox.isHeld = true := by
  -- The induction is on the calls: the first one after which there is a resolver is the one.
  induction calls generalizing venue with
  | nil => cases nobody.symm.trans found
  | cons call rest ih =>
    cases left : (next venue call).desk? key with
    | none =>
      obtain ⟨earlier, later, opened, rfl, reached, held⟩ := ih (invariant.step call) left found
      exact ⟨call :: earlier, later, opened, rfl, reached, held⟩
    | some opened =>
      refine ⟨[call], rest, opened, rfl, left, ?_⟩
      cases (next_opens invariant.sound nobody left).1 with
      | following | consuming => rfl

/-- A source is let go of in no more than one call of a run. -/
theorem releases_once {earlier other later rest : List VenueCall} {call again : VenueCall}
    (same : earlier ++ call :: later = other ++ again :: rest)
    (first : (after Venue.empty earlier).Releases key call)
    (second : (after Venue.empty other).Releases key again) : earlier = other := by
  -- After the first of the two calls the source is not held, so it is not let go of again.
  have once {before after_ : List VenueCall} {call again : VenueCall}
      (first : (after Venue.empty before).Releases key call)
      (second : (after Venue.empty (before ++ call :: after_)).Releases key again) : False := by
    obtain ⟨_, between, left, gone⟩ := first
    obtain ⟨⟨desk, found, held⟩, _⟩ := second
    rw [after_append] at found
    obtain ⟨later, reached, still⟩ :=
      ((invariant_after before).step call).isHeld_after left gone after_
    obtain rfl := Option.some.inj (reached.symm.trans found)
    cases held.symm.trans still
  rcases List.append_eq_append_iff.mp same with ⟨extra, rfl, rest⟩ | ⟨extra, rfl, rest⟩
  · cases extra with
    | nil => exact (List.append_nil _).symm
    | cons head extra =>
      obtain ⟨rfl, _⟩ := List.cons_eq_cons.mp rest
      exact (once first second).elim
  · cases extra with
    | nil => exact List.append_nil _
    | cons head extra =>
      obtain ⟨rfl, _⟩ := List.cons_eq_cons.mp rest
      exact (once second first).elim

/-- The source of a resolver that is over is let go of once, at the next run at the latest. -/
theorem released_once {calls : List VenueCall}
    (found : (after Venue.empty calls).desk? key = some desk)
    (ceased : desk.worker.resolver.status ≠ .serving) :
    ∃ earlier call later, calls ++ [.run] = earlier ++ call :: later ∧
      (after Venue.empty earlier).Releases key call ∧
      ∀ more other again rest, calls ++ .run :: more = other ++ again :: rest →
        (after Venue.empty other).Releases key again → other = earlier := by
  have invariant := invariant_after calls
  -- After one more run the source is not held.
  obtain ⟨last, left, gone⟩ := invariant.isHeld_of_run found ceased (List.mem_singleton_self _)
  -- When the resolver was created it was, so there is a call between that lets go of it.
  obtain ⟨before, rest, opened, rfl, begun, held⟩ := (invariant_after []).exists_opened rfl found
  have reached : (after (after Venue.empty before) (rest ++ [.run])).desk? key = some last := by
    rw [← after_append, ← List.append_assoc, after_append]
    exact left
  obtain ⟨front, call, back, split, releases⟩ :=
    (invariant_after before).exists_release begun held reached gone
  rw [← after_append] at releases
  have whole : before ++ rest ++ [.run] = before ++ front ++ call :: back := by
    rw [List.append_assoc, split, List.append_assoc]
  refine ⟨before ++ front, call, back, whole, releases,
    fun more other again rest' same second => ?_⟩
  have longer : before ++ front ++ call :: (back ++ more) = other ++ again :: rest' := by
    rw [← same, ← List.cons_append, ← List.append_assoc, ← whole]
    simp
  exact (releases_once longer releases second).symm

/--
The life of a resolver.

However a run went on, a resolver serves until it is closed, by request or for want of owners, or
until its task comes to the first notification of a change in place. Whatever happens afterwards,
this stays the last word. Until then who picks is given a candidate or has to wait, and from then on
is told why: a closed resolver ends streams of picks at once, and a failed one after its error.
-/
theorem resolver_lifecycle (calls : List VenueCall) (key : Nat) {desk : Desk}
    (found : (after Venue.empty calls).desk? key = some desk) : Lifecycle calls key desk := by
  -- Each part was shown of a venue that keeps the invariant, and every run leads to one.
  have invariant := invariant_after calls
  have fits := invariant.desk found
  constructor
  case moves => exact invariant.moves found
  case final =>
    intro ceased more
    obtain ⟨later, left, _, precedes⟩ := invariant.desk_after found more
    rw [after_append]
    exact ⟨later, left, precedes.ceased ceased⟩
  case ceased =>
    intro ceased
    refine ⟨?_, fits.worker.coupled.candidateCount ceased⟩
    unfold Resolver.isClosed
    rw [Option.isSome_iff_ne_none]
    exact fun none => ceased (Resolver.terminalError?_eq_none.mp none)
  case closes => exact invariant.closes found
  case drops => exact invariant.drops found
  case fails => exact invariant.meets found
  case deserted => exact fits.deserted
  case serving => exact invariant.serves found
  case closed =>
    intro closed
    refine ⟨invariant.refuses found ?_, fun there => ?_⟩
    · unfold Resolver.terminalError?
      rw [closed]
    · exact invariant.finishes found there ((fits.polled there).finished closed)
  case failed =>
    intro error failed
    refine ⟨invariant.refuses found ?_,
      fun {index stream} there => ⟨fun done => ?_, fun underWay => ?_⟩⟩
    · unfold Resolver.terminalError?
      rw [failed]
    · subst done
      exact invariant.finishes found there rfl
    · obtain ⟨told, ends⟩ := invariant.fails found there underWay failed
      refine ⟨told, fun more spared => ?_⟩
      rw [after_append]
      exact ends more spared
  case spared =>
    intro index stream there more spared
    rw [after_append]
    exact invariant.spared found there spared
  case released => exact released_once found

/--
Somebody has a stream of picks when a resolver fails, and when one is closed.

The one that was closed comes to a change in place afterwards, which it takes no notice of.
-/
theorem resolver_lifecycle_of_five_calls :
    let create : VenueCall := .create 0 (.consuming "discovery" (.notifications []) true)
    let modify : VenueCall := .ask 0 (.desk (.send .modify ⟨"localhost", 21⟩))
    let failing : List VenueCall :=
      [create, .ask 0 (.desk .pick), .ask 0 (.desk .resolve), modify, .run]
    let closing : List VenueCall :=
      [create, .ask 0 (.desk .resolve), .ask 0 (.desk .close), modify, .run]
    (∃ desk, (after Venue.empty failing).desk? 0 = some desk ∧
      desk.worker.resolver.status = .failed (.ofModify (⟨"localhost", 21⟩ : Endpoint)) ∧
      desk.ledger.stream? 0 = some .fresh ∧ Lifecycle failing 0 desk) ∧
    ∃ desk, (after Venue.empty closing).desk? 0 = some desk ∧
      desk.worker.resolver.status = .closed ∧ desk.worker.inbox.isHeld = false ∧
      desk.ledger.stream? 0 = some .fresh ∧ Lifecycle closing 0 desk :=
  ⟨⟨_, rfl, rfl, rfl, resolver_lifecycle _ 0 rfl⟩,
    ⟨_, rfl, rfl, rfl, rfl, resolver_lifecycle _ 0 rfl⟩⟩

end Venue

end PeerCluster
