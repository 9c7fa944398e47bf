import PeerCluster.Proofs.Venue.Converting
import PeerCluster.Proofs.Venue.Lifecycle

/-! Failures: a resolver goes through its notifications up to the first change in place. -/

namespace PeerCluster

open ChangeEvent

/-- A run of its task comes to a change in place, and the service fails over it. -/
structure Worker.FailsOver (worker : Worker) (earlier : List (ChangeNotification Endpoint))
    (data : Endpoint) (later : Worker) : Prop where
  /-- What came before it and was not applied yet is applied first, and nothing else is. -/
  applied : ∃ before rest, earlier = before ++ rest ∧
    worker.balancer.pool = rebuild [] (before.map (·.asEvent)) ∧
    let through := worker.resolver.applyAll worker.balancer (rest.map (·.asEvent))
    through.2.pool = rebuild [] (earlier.map (·.asEvent)) ∧
      later.resolver = through.1.moveTo (.failed (.ofModify data)) ∧
      later.balancer = through.2.shutdown
  resolver : later.resolver =
    ⟨worker.resolver.role, .failed (.modifyNotSupported (outline data)), earlier.length + 1⟩
  finished : later.task = .finished
  released : later.inbox.isHeld = false

/-- The first change in place that waits is what the next run of a task fails over. -/
theorem Worker.Told.failsOver {worker : Worker}
    {news earlier later : List (ChangeNotification Endpoint)} {data : Endpoint}
    (told : worker.Told news) (invariant : worker.Invariant)
    (serving : worker.resolver.status = .serving)
    (split : news = earlier ++ ⟨.modify, data⟩ :: later)
    (immutable : ∀ notification ∈ earlier, notification.kind ≠ .modify) :
    worker.FailsOver earlier data worker.rest := by
  -- Some of what came earlier was applied before, and the run applies the rest.
  obtain ⟨before, rest, rfl, changes, pool, meets⟩ := told.meets invariant serving split immutable
  have counted := Resolver.applyAll_of_serving serving worker.balancer (rest.map (·.asEvent))
  obtain ⟨status, rebuilt, _⟩ := worker.resolver.applyAll_of_open
    (invariant.coupled.serving serving) (rest.map (·.asEvent))
  rw [meets.rest_eq invariant]
  refine ⟨⟨before, rest, rfl, pool, ?_, ?_, rfl⟩, ?_, rfl, Inbox.isHeld_letGo _⟩
  · rw [rebuilt, pool, ← rebuild_append, ← List.map_append]
  · rw [Resolver.moveTo_of_serving (status.trans serving), counted, List.length_map]
  · dsimp only
    rw [changes, ← List.length_append]
    rfl

namespace Venue

open Machine

variable {venue : Venue} {key : Nat} {desk : Desk}
  {news : List (ChangeNotification Endpoint)}

/-! ### What a call fills in -/

/-- Nothing is filled in by a call that is refused. -/
theorem fed_unreachable (key : Nat) (call : VenueCall) : call.fed key .unreachable = [] := by
  -- A refusal is neither of the answers by which something is filled in.
  cases call with
  | openRegistry | handle | look | run => rfl
  | create other origin =>
    cases origin with
    | stream | following => rfl
    | consuming role queue runtime =>
      cases queue with
      | events | notifications => rfl
  | ask other request =>
    cases request with
    | stream | desk => rfl

/-- The feed of a resolver is filled by what is asked at its desk, and by nothing else. -/
theorem fed_of_desk (sound : venue.Sound) (found : venue.desk? key = some desk)
    (call : VenueCall) :
    (∃ request, call = .ask key (.desk request) ∧
      call.fed key (answerTo venue call) = (desk.serve request).1.fed request) ∨
    (∀ request, call ≠ .ask key (.desk request)) ∧ call.fed key (answerTo venue call) = [] := by
  cases concerns : call.concerns key with
  | false =>
    refine .inr ⟨?_, VenueCall.fed_of_concerns concerns _⟩
    rintro request rfl
    exact absurd concerns (by simp [VenueCall.concerns, VenueCall.asker?])
  | true =>
    cases call with
    | openRegistry | handle | look | run => exact .inr ⟨by rintro _ ⟨⟩, rfl⟩
    | create other origin =>
      obtain rfl : other = key := of_decide_eq_true concerns
      -- There is somebody already who goes by the key.
      have refused : answerTo venue (.create other origin) = .unreachable := by
        have taken : (venue.consumers other).isSome = true := by
          unfold Venue.desk? at found
          cases there : venue.consumers other with
          | none =>
            rw [there] at found
            cases found
          | some => rfl
        show (venue.perform _).1 = _
        dsimp only [perform]
        rw [if_pos taken]
      rw [refused]
      exact .inr ⟨by rintro _ ⟨⟩, fed_unreachable _ _⟩
    | ask other request =>
      obtain rfl : other = key := of_decide_eq_true concerns
      cases request with
      | stream => exact .inr ⟨by rintro _ ⟨⟩, rfl⟩
      | desk request =>
        refine .inl ⟨request, rfl, ?_⟩
        rw [answerTo_ask sound found, VenueCall.fed_ask]

/-- Nothing is filled in where no resolver is. -/
theorem fed_of_nobody (sound : venue.Sound) (nobody : venue.desk? key = none) {call : VenueCall}
    (still : (next venue call).desk? key = none) : call.fed key (answerTo venue call) = [] := by
  -- From the vantage point of the key nothing is accepted, and nothing is created.
  obtain ⟨vantage, rfl, seen⟩ := sound.seen key
  cases concerns : call.concerns vantage.observer with
  | false => exact VenueCall.fed_of_concerns concerns _
  | true =>
    obtain ⟨answer, after⟩ := (perform_fits sound seen call).concerned concerns
    have left := after.desk?
    rw [observer_perform] at left
    replace left : (vantage.perform call).2.station?.bind Station.desk? = none :=
      left.symm.trans still
    rw [seen.desk?] at nobody
    have same : answerTo venue call = (vantage.perform call).1 := answer
    rw [same]
    cases call with
    | openRegistry | handle | look | run => rfl
    | ask other request =>
      dsimp only [Vantage.perform]
      cases station : vantage.station? with
      | none => exact fed_unreachable _ _
      | some before =>
        rw [station] at nobody
        cases before with
        | desk => cases nobody
        | stream =>
          cases request with
          | stream => rfl
          | desk => exact fed_unreachable _ _
    | create other origin =>
      dsimp only [Vantage.perform] at left ⊢
      by_cases taken : vantage.station?.isSome = true
      · rw [if_pos taken]
        exact fed_unreachable _ _
      · rw [if_neg taken] at left ⊢
        cases origin with
        | stream | following => rfl
        | consuming role queue runtime =>
          cases runtime with
          | true => cases left
          | false =>
            cases queue with
            | events | notifications => rfl

/-! ### What is told in a run -/

/-- After a call, a resolver was told what was filled in by it besides what it was told before. -/
theorem Invariant.told_next (invariant : venue.Invariant) (found : venue.desk? key = some desk)
    (told : desk.worker.Told news) (call : VenueCall) :
    ∃ later, (next venue call).desk? key = some later ∧
      later.worker.Told (news ++ call.fed key (answerTo venue call)) := by
  obtain ⟨later, left, moves⟩ := next_desk invariant.sound found call
  refine ⟨later, left, ?_⟩
  rcases fed_of_desk invariant.sound found call with ⟨request, rfl, given⟩ | ⟨asks, nothing⟩
  · rw [given]
    cases moves with
    | stays runs asks => exact absurd rfl (asks request)
    | served => exact (desk.serve_cases request).told (invariant.desk found) told
  · rw [nothing, List.append_nil]
    cases moves with
    | stays => exact told
    | rested => exact told.rest (invariant.desk found).worker
    | served request => exact absurd rfl (asks request)
    | heard registry call change? lives =>
      -- Whoever takes from a feed hears nothing of registries.
      obtain ⟨sending, listening, inbox⟩ := Inbox.eq_feed_of_form told.form
      have same : desk.worker.hear registry change? lives = desk.worker := by
        unfold Worker.hear
        rw [inbox]
      exact same.symm ▸ told

/-- After calls, a resolver was told what was filled in by them besides what it was told before. -/
theorem Invariant.told_run (invariant : venue.Invariant) (found : venue.desk? key = some desk)
    (told : desk.worker.Told news) (calls : List VenueCall) :
    ∃ later, (after venue calls).desk? key = some later ∧
      later.worker.Told (news ++ venue.fed key calls) := by
  -- The induction is on the calls, and what is told in them is put behind the rest.
  induction calls generalizing venue desk news with
  | nil => exact ⟨desk, found, (List.append_nil news).symm ▸ told⟩
  | cons call rest ih =>
    obtain ⟨between, left, still⟩ := invariant.told_next found told call
    obtain ⟨later, reached, last⟩ := ih (invariant.step call) left still
    refine ⟨later, reached, ?_⟩
    rw [List.append_assoc] at last
    exact last

/-- A resolver that takes notifications was told all that its feed was filled with. -/
theorem Invariant.told_of_nobody (invariant : venue.Invariant) (nobody : venue.desk? key = none)
    {calls : List VenueCall} (found : (after venue calls).desk? key = some desk)
    (form : desk.worker.inbox.form = .notifications) :
    desk.worker.Told (venue.fed key calls) := by
  induction calls generalizing venue with
  | nil => cases nobody.symm.trans found
  | cons call rest ih =>
    rw [fed_cons]
    cases left : (next venue call).desk? key with
    | none =>
      rw [fed_of_nobody invariant.sound nobody left, List.nil_append]
      exact ih (invariant.step call) left found
    | some opened =>
      -- The resolver was created by this call, and takes what it takes ever since.
      obtain ⟨opens, done⟩ := next_opens invariant.sound nobody left
      obtain ⟨later, reached, _, precedes⟩ := (invariant.step call).desk_after left rest
      obtain rfl := Option.some.inj (reached.symm.trans found)
      have form := precedes.form.symm.trans form
      rw [done]
      cases opens with
      | following => cases form
      | consuming role queue =>
        cases queue with
        | events => cases form
        | notifications waiting =>
          rw [VenueCall.fed_create]
          obtain ⟨again, there, told⟩ := (invariant.step _).told_run left
            (Worker.told_started role waiting) rest
          obtain rfl := Option.some.inj (there.symm.trans found)
          exact told

/-- Nothing is filled in any more once the task has let go of the feed. -/
theorem Invariant.fed_of_gone (invariant : venue.Invariant) (found : venue.desk? key = some desk)
    (form : desk.worker.inbox.form = .notifications)
    (gone : desk.worker.inbox.isHeld = false) (calls : List VenueCall) :
    venue.fed key calls = [] := by
  -- The induction is on the calls: nothing is accepted, and the feed is not taken up again.
  induction calls generalizing venue desk with
  | nil => rfl
  | cons call rest ih =>
    obtain ⟨later, left, _, precedes⟩ := invariant.desk_after found [call]
    obtain ⟨again, there, still⟩ := invariant.isHeld_after found gone [call]
    obtain rfl := Option.some.inj (there.symm.trans left)
    have nothing : call.fed key (answerTo venue call) = [] := by
      rcases fed_of_desk invariant.sound found call with ⟨request, _, given⟩ | ⟨_, nothing⟩
      · rw [given]
        exact ((desk.serve_cases request).filled.waiting form).2.2 gone
      · exact nothing
    rw [fed_cons, nothing, List.nil_append]
    exact ih (invariant.step call) left (precedes.form.trans form) still

/-- What was told to a resolver in a run is what its feed was filled with. -/
theorem told_after {calls : List VenueCall}
    (found : (after Venue.empty calls).desk? key = some desk)
    (form : desk.worker.inbox.form = .notifications) :
    desk.worker.Told (Venue.empty.fed key calls) :=
  (invariant_after []).told_of_nobody rfl found form

/-! ### Failing fast -/

/-- What can be told after a run of a resolver that takes notifications. -/
structure FailsFast (calls : List VenueCall) (key : Nat) (desk : Desk) : Prop where
  /-- As long as nothing changes in place, it does what it would do with changes as they are. -/
  alike : (∀ notification ∈ Venue.empty.fed key calls, notification.kind ≠ .modify) →
    Venue.empty.answersTo key (calls.map (·.asEvents key)) = Venue.empty.answersTo key calls ∧
      (after Venue.empty (calls.map (·.asEvents key))).desk? key = some desk.asEvents
  /-- While it serves, nothing of what it has applied changes in place, and the rest waits. -/
  serving : desk.worker.resolver.status = .serving → ∃ applied,
    Venue.empty.fed key calls = applied ++ desk.worker.inbox.waiting ∧
      (∀ notification ∈ applied, notification.kind ≠ .modify) ∧
      desk.worker.resolver.changes = applied.length ∧
      desk.worker.balancer.pool = rebuild [] (applied.map (·.asEvent))
  /-- A run comes to the first change in place, if there is one. -/
  reached : desk.worker.resolver.status = .serving → ∀ {earlier data later},
    Venue.empty.fed key calls = earlier ++ ⟨.modify, data⟩ :: later →
      (∀ notification ∈ earlier, notification.kind ≠ .modify) →
        (after Venue.empty (calls ++ [.run])).desk? key =
            some { desk with worker := desk.worker.rest } ∧
          desk.worker.FailsOver earlier data desk.worker.rest
  /-- Once it has failed, it has nothing to choose from any more, and its task is through. -/
  failed : ∀ error, desk.worker.resolver.status = .failed error →
    (∃ earlier data later, Venue.empty.fed key calls = earlier ++ ⟨.modify, data⟩ :: later ∧
      (∀ notification ∈ earlier, notification.kind ≠ .modify) ∧
      error = .modifyNotSupported (outline data) ∧
      desk.worker.resolver.changes = earlier.length + 1) ∧
    desk.worker.balancer.pool = [] ∧ desk.worker.task = .finished ∧
      desk.worker.inbox.isHeld = false
  /-- Whatever is called afterwards, nothing more is taken, and everybody is told the error. -/
  final : ∀ error, desk.worker.resolver.status = .failed error → ∀ more,
    Venue.empty.fed key (calls ++ more) = Venue.empty.fed key calls ∧
      ∃ later, (after Venue.empty (calls ++ more)).desk? key = some later ∧
        later.worker.resolver = desk.worker.resolver ∧
        later.worker.balancer = desk.worker.balancer ∧ later.worker.inbox.waiting = [] ∧
        (after Venue.empty (calls ++ more)).Refuses key later error

/--
A resolver fails over the first notification of a change in place.

Until a run comes to one, the resolver does with notifications what another one would do with the
changes that they report. When a run comes to the first one, everything before it has been applied
and nothing after it ever is; the resolver has nothing to choose from, its task has let go of the
feed, and whoever waits for a pick or asks for one is told which notification was not supported.
-/
theorem modify_fails_fast (calls : List VenueCall) (key : Nat) {desk : Desk}
    (found : (after Venue.empty calls).desk? key = some desk)
    (form : desk.worker.inbox.form = .notifications) : FailsFast calls key desk := by
  have invariant := invariant_after calls
  have fits := (invariant.desk found).worker
  have told := told_after found form
  -- A task that has failed is through, and so it has let go of the feed.
  have gone (error : ClusterError) (failed : desk.worker.resolver.status = .failed error) :
      desk.worker.inbox.isHeld = false :=
    Bool.eq_false_iff.mpr fun held => fits.held.mp held (fits.failed error failed).2
  constructor
  case alike =>
    intro fresh
    obtain ⟨answers, reached⟩ := asEvents_of_immutable fresh
    rw [found] at reached
    exact ⟨answers, reached⟩
  case serving => exact told.serving
  case reached =>
    intro serving earlier data later split immutable
    refine ⟨?_, told.failsOver fits serving split immutable⟩
    obtain ⟨last, left, moves⟩ := next_desk invariant.sound found .run
    rw [after_append]
    refine left.trans ?_
    cases moves with
    | stays runs => exact absurd rfl runs
    | rested => rfl
  case failed =>
    intro error failed
    have pool := fits.coupled.ceased (by rw [failed]; nofun)
    refine ⟨told.failed error failed, ?_, (fits.failed error failed).2, gone error failed⟩
    rw [pool]
    rfl
  case final =>
    intro error failed more
    obtain ⟨later, left, still, precedes⟩ := invariant.desk_after found more
    obtain ⟨again, there, last⟩ := invariant.isHeld_after found (gone error failed) more
    obtain rfl := Option.some.inj (there.symm.trans left)
    obtain ⟨resolver, balancer⟩ := precedes.ceased (by rw [failed]; nofun)
    have reached : (after Venue.empty (calls ++ more)).desk? key = some again := by
      rw [after_append]
      exact left
    refine ⟨?_, again, reached, resolver, balancer, ?_, ?_⟩
    · rw [fed_append, invariant.fed_of_gone found form (gone error failed) more, List.append_nil]
    · exact (told_after reached (precedes.form.trans form)).cleared last
    · refine (invariant_after (calls ++ more)).refuses reached ?_
      unfold Resolver.terminalError?
      rw [resolver, failed]

/-- Somebody waits for a pick when a change in place is reported between two arrivals. -/
theorem modify_fails_fast_of_six_calls :
    let calls : List VenueCall := [.create 0 (.consuming "discovery" (.notifications []) true),
      .ask 0 (.desk .pick), .ask 0 (.desk (.send .add ⟨"localhost", 21⟩)),
      .ask 0 (.desk (.send .modify ⟨"localhost", 22⟩)),
      .ask 0 (.desk (.send .add ⟨"localhost", 23⟩)), .run]
    ∃ desk, (after Venue.empty calls).desk? 0 = some desk ∧
      desk.worker.inbox.form = .notifications ∧
      desk.worker.resolver.status = .failed (.ofModify (⟨"localhost", 22⟩ : Endpoint)) ∧
      desk.worker.resolver.changes = 2 ∧ FailsFast calls 0 desk :=
  ⟨_, rfl, rfl, rfl, rfl, modify_fails_fast _ 0 rfl rfl⟩

end Venue

end PeerCluster
