import PeerCluster.Proofs.Venue.Interference
import PeerCluster.Proofs.Worker.Holding

/-! Resolvers of a venue: each is as if it stood on a desk of its own. -/

namespace PeerCluster

/-- The desk at a station, if it is one of a resolver. -/
def Station.desk? : Station → Option Desk
  | stream .. => none
  | desk worker ledger => some ⟨worker, ledger⟩

namespace Desk

/-- What a call leaves of what goes by a key, if that is a resolver. -/
inductive Moves (key : Nat) (desk : Desk) : VenueCall → Desk → Prop where
  /-- The call concerns others. -/
  | stays {call : VenueCall} (runs : call ≠ .run)
      (asks : ∀ request, call ≠ .ask key (.desk request)) : Moves key desk call desk
  /-- Something was asked of a registry through a handle. -/
  | heard (registry : Nat) (call : HandleCall) (change? : Option MemberEvent) (lives : Bool) :
      Moves key desk (.handle registry call)
        { desk with worker := desk.worker.hear registry change? lives }
  /-- Its task was given its turns. -/
  | rested : Moves key desk .run { desk with worker := desk.worker.rest }
  /-- Something was asked of it. -/
  | served (request : DeskRequest) :
      Moves key desk (.ask key (.desk request)) (desk.serve request).2

/-- What a resolver starts with that is created by a call. -/
inductive Opens (key : Nat) : VenueCall → Desk → Prop where
  | following (registry : Nat) (projection : Projection) (members : List PeerAddress) :
      Opens key (.create key (.following registry projection true))
        ⟨.started projection.label (.stream registry projection (.startingAt members) true),
          .opened⟩
  | consuming (role : String) (queue : FeedQueue) :
      Opens key (.create key (.consuming role queue true))
        ⟨.started role (.feed ⟨queue, true, true⟩), .opened⟩

variable {key : Nat} {desk later : Desk} {call : VenueCall}

/-- What is heard of a registry is only added to what a task will find. -/
theorem hear_reaches (registry : Nat) (change? : Option MemberEvent) (lives : Bool)
    (worker : Worker) : worker.Reaches (worker.hear registry change? lives) := by
  -- A stream that hears something is still held or not, and of the same form.
  unfold Worker.hear
  cases inbox : worker.inbox with
  | feed feed => exact .refl worker
  | stream home projection subscription before =>
    dsimp only
    split
    · apply Worker.Reaches.single
      apply Worker.Steps.filled
      · rw [inbox]
        refine congrArg not ?_
        unfold Subscription.hear
        cases change? with
        | none => rfl
        | some event =>
          dsimp only
          split
          · rfl
          · rfl
      · rw [inbox]
        rfl
    · exact .refl worker

/-- What is heard concerns neither the resolver nor those who keep it from being closed. -/
theorem hear_keeps (registry : Nat) (change? : Option MemberEvent) (lives : Bool)
    (worker : Worker) :
    (worker.hear registry change? lives).resolver = worker.resolver ∧
      (worker.hear registry change? lives).owners = worker.owners := by
  -- Only the source changes, and waking a task changes its phase alone.
  unfold Worker.hear
  split
  · split
    · exact Worker.wake_keeps _
    · exact ⟨rfl, rfl⟩
  · exact ⟨rfl, rfl⟩

/-- What a call leaves of a resolver can be told by what it was before. -/
theorem Moves.reaches (moves : desk.Moves key call later) : desk.worker.Reaches later.worker := by
  -- Each kind of move is one that a resolver is known to make.
  cases moves with
  | stays => exact .refl _
  | heard registry call change? lives => exact hear_reaches registry change? lives _
  | rested => exact .rest _
  | served request => exact (desk.serve_cases request).reaches

/-- Every call keeps the invariant of a resolver and of what is held of it. -/
theorem Moves.invariant (moves : desk.Moves key call later) (invariant : desk.Invariant) :
    later.Invariant := by
  -- No move but a request touches those who keep the resolver from being closed.
  cases moves with
  | stays => exact invariant
  | heard registry call change? lives =>
    exact invariant.moved (hear_reaches registry change? lives _)
      (hear_keeps registry change? lives _).2
  | rested => exact invariant.moved (.rest _) (Worker.owners_rest _)
  | served request => exact (desk.serve_cases request).invariant invariant

/-- The invariant holds of every resolver when it is created. -/
theorem Opens.invariant (opens : Opens key call desk) : desk.Invariant := by
  -- A resolver starts with one owner, in service, and with an empty pool.
  cases opens with
  | following registry projection members => exact invariant_started projection.label rfl
  | consuming role queue => exact invariant_started role rfl

end Desk

namespace Venue

open Machine

variable {venue : Venue} {vantage : Vantage} {key : Nat} {desk : Desk}

/-- The resolver that goes by a key, with all that is held of it. -/
def desk? (venue : Venue) (key : Nat) : Option Desk :=
  match venue.consumers key with
  | some (.resolver service ledger) => (venue.fabric.worker? service).map (⟨·, ledger⟩)
  | _ => none

/-- Who has a resolver sees it. -/
theorem SeenFrom.desk? (seen : venue.SeenFrom vantage) :
    venue.desk? vantage.observer = vantage.station?.bind Station.desk? := by
  -- A station is shown exactly where there is a consumer, and of the same kind.
  have station := seen.station
  unfold Venue.desk?
  generalize vantage.station? = station? at station ⊢
  generalize venue.consumers vantage.observer = consumer? at station ⊢
  cases station with
  | none => rfl
  | some shown =>
    cases shown with
    | stream => rfl
    | desk met =>
      dsimp only
      rw [met]
      rfl

/-- A venue can be looked at from the place of every consumer. -/
theorem Sound.seen (sound : venue.Sound) (key : Nat) :
    ∃ vantage, vantage.observer = key ∧ venue.SeenFrom vantage := by
  -- Whatever the consumer has is shown by some station, if there is one.
  cases found : venue.consumers key with
  | none =>
    refine ⟨⟨key, venue.fabric.books, none⟩, rfl, rfl, ?_⟩
    dsimp only
    rw [found]
    exact .none
  | some consumer =>
    obtain ⟨station, shown⟩ := sound.shown found
    refine ⟨⟨key, venue.fabric.books, some station⟩, rfl, rfl, ?_⟩
    dsimp only
    rw [found]
    exact .some shown

/-! ### What a call leaves -/

/-- Whoever has a resolver sees what a call leaves of it, and what they are answered. -/
theorem moves_of_station {worker : Worker} {ledger : Ledger}
    (station : vantage.station? = some (.desk worker ledger)) {call : VenueCall}
    (concerns : call.concerns vantage.observer = true) :
    ∃ later, (vantage.perform call).2.station?.bind Station.desk? = some later ∧
      Desk.Moves vantage.observer ⟨worker, ledger⟩ call later := by
  -- From a vantage point the change of the station can be read off the definition.
  have stays (call : VenueCall) (runs : call ≠ .run)
      (asks : ∀ request, call ≠ .ask vantage.observer (.desk request)) :
      ∃ later, vantage.station?.bind Station.desk? = some later ∧
        Desk.Moves vantage.observer ⟨worker, ledger⟩ call later := by
    rw [station]
    exact ⟨_, rfl, .stays runs asks⟩
  cases call with
  | openRegistry => exact stays _ nofun nofun
  | run =>
    refine ⟨_, ?_, .rested⟩
    dsimp only [Vantage.perform]
    rw [station]
    rfl
  | handle registry call =>
    dsimp only [Vantage.perform]
    split
    · exact stays _ nofun nofun
    · rw [station]
      exact ⟨_, rfl, .heard registry call _ _⟩
  | look registry =>
    dsimp only [Vantage.perform]
    split
    · exact stays _ nofun nofun
    · exact stays _ nofun nofun
  | create key origin =>
    dsimp only [Vantage.perform]
    rw [station, Option.isSome_some, if_pos rfl]
    exact stays _ nofun nofun
  | ask key request =>
    obtain rfl := decide_eq_true_eq.mp concerns
    dsimp only [Vantage.perform]
    rw [station]
    cases request with
    | stream request => exact ⟨_, rfl, .stays nofun nofun⟩
    | desk request => exact ⟨_, rfl, .served request⟩

/-- Whoever creates a resolver at its own place gets a fresh one. -/
theorem opens_of_create (nobody : vantage.station?.bind Station.desk? = none) {origin : Origin}
    (found : (vantage.perform (.create vantage.observer origin)).2.station?.bind Station.desk? =
      some desk) :
    Desk.Opens vantage.observer (.create vantage.observer origin) desk ∧
      (vantage.perform (.create vantage.observer origin)).1 = .done := by
  -- The place must have been free, or the resolver would have been there before.
  dsimp only [Vantage.perform] at found ⊢
  split at found
  · cases nobody.symm.trans found
  · rename_i fresh
    rw [if_neg fresh]
    -- Without a runtime nothing is created, and neither is it of a registry that is not there.
    cases origin with
    | consuming role queue runtime =>
      cases runtime with
      | false => cases nobody.symm.trans found
      | true =>
        obtain rfl := Option.some.inj found
        exact ⟨.consuming role queue, rfl⟩
    | following registry projection runtime =>
      dsimp only [Vantage.create] at found ⊢
      cases met : vantage.book? registry with
      | none =>
        rw [met] at found
        cases nobody.symm.trans found
      | some book =>
        rw [met] at found
        cases runtime with
        | false => cases nobody.symm.trans found
        | true =>
          obtain rfl := Option.some.inj found
          exact ⟨.following registry projection book.members, rfl⟩
    | stream registry projection? =>
      dsimp only [Vantage.create] at found
      split at found
      · cases nobody.symm.trans found
      · cases found

/-- Whoever gets a resolver by a call has created it. -/
theorem opens_of_station (nobody : vantage.station?.bind Station.desk? = none) {call : VenueCall}
    (concerns : call.concerns vantage.observer = true)
    (found : (vantage.perform call).2.station?.bind Station.desk? = some desk) :
    Desk.Opens vantage.observer call desk ∧ (vantage.perform call).1 = .done := by
  -- What is no resolver does not become one.
  have kept {change : Station → Station}
      (keeps : ∀ station, station.desk? = none → (change station).desk? = none) :
      (vantage.station?.map change).bind Station.desk? = none := by
    cases station : vantage.station? with
    | none => rfl
    | some before =>
      rw [station] at nobody
      exact keeps before nobody
  cases call with
  | openRegistry => cases nobody.symm.trans found
  | run =>
    refine nomatch (kept fun station none => ?_).symm.trans found
    cases station with
    | stream => rfl
    | desk => cases none
  | handle registry call =>
    dsimp only [Vantage.perform] at found
    split at found
    · cases nobody.symm.trans found
    · rename_i book _
      refine nomatch (kept fun station none => ?_).symm.trans found
      cases station with
      | stream =>
        dsimp only [Station.hear]
        split
        · rfl
        · rfl
      | desk => cases none
  | look registry =>
    dsimp only [Vantage.perform] at found
    split at found
    · cases nobody.symm.trans found
    · cases nobody.symm.trans found
  | ask key request =>
    dsimp only [Vantage.perform] at found
    cases station : vantage.station? with
    | none =>
      rw [station] at found
      dsimp only at found
      rw [station] at found
      cases found
    | some before =>
      rw [station] at nobody found
      cases before with
      | desk => cases nobody
      | stream =>
        cases request with
        | stream | desk => cases found
  | create key origin =>
    obtain rfl := decide_eq_true_eq.mp concerns
    exact opens_of_create nobody found

/-- What a call leaves of a resolver is what it would leave of it on a desk of its own. -/
theorem next_desk (sound : venue.Sound) (found : venue.desk? key = some desk) (call : VenueCall) :
    ∃ later, (next venue call).desk? key = some later ∧ desk.Moves key call later := by
  -- The vantage point of the key shows the same desk before and after the call.
  obtain ⟨vantage, rfl, seen⟩ := sound.seen key
  obtain ⟨_, concerned, spared⟩ := perform_fits sound seen call
  rw [seen.desk?] at found
  obtain ⟨station, met, shown⟩ := Option.bind_eq_some_iff.mp found
  cases station with
  | stream => cases shown
  | desk worker ledger =>
    cases shown
    cases concerns : call.concerns vantage.observer with
    | true =>
      obtain ⟨later, left, moves⟩ := moves_of_station met concerns
      have still := (concerned concerns).2.desk?
      rw [observer_perform] at still
      exact ⟨later, still.trans left, moves⟩
    | false =>
      have still := (spared (by simp [concerns])).desk?
      rw [met] at still
      refine ⟨_, still, .stays ?_ ?_⟩
      · rintro rfl
        cases concerns
      · rintro request rfl
        exact absurd concerns (by simp [VenueCall.concerns, VenueCall.asker?])

/-- What is asked of a resolver is answered as on a desk of its own. -/
theorem answerTo_ask (sound : venue.Sound) (found : venue.desk? key = some desk)
    (request : DeskRequest) :
    answerTo venue (.ask key (.desk request)) = .desk (desk.serve request).1 := by
  -- The vantage point of the key answers as the desk does.
  obtain ⟨vantage, rfl, seen⟩ := sound.seen key
  rw [seen.desk?] at found
  obtain ⟨station, met, shown⟩ := Option.bind_eq_some_iff.mp found
  cases station with
  | stream => cases shown
  | desk worker ledger =>
    cases shown
    refine (answerTo_seen sound seen (.desk request)).trans ?_
    show (vantage.perform _).1 = _
    dsimp only [Vantage.perform]
    rw [met]
    rfl

/-- A resolver goes by a key only if somebody has created it there. -/
theorem next_opens (sound : venue.Sound) (nobody : venue.desk? key = none) {call : VenueCall}
    (found : (next venue call).desk? key = some desk) :
    Desk.Opens key call desk ∧ answerTo venue call = .done := by
  -- The vantage point of the key shows no resolver before, and one after the call.
  obtain ⟨vantage, rfl, seen⟩ := sound.seen key
  obtain ⟨_, concerned, spared⟩ := perform_fits sound seen call
  rw [seen.desk?] at nobody
  cases concerns : call.concerns vantage.observer with
  | true =>
    obtain ⟨answer, still⟩ := concerned concerns
    have left := still.desk?
    rw [observer_perform] at left
    obtain ⟨opens, done⟩ := opens_of_station nobody concerns (left.symm.trans found)
    exact ⟨opens, answer.trans done⟩
  | false =>
    have still := (spared (by simp [concerns])).desk?
    cases (nobody.symm.trans still.symm).trans found

/-! ### Runs -/

/-- Every consumer has its own, and the invariant holds of every resolver. -/
structure Invariant (venue : Venue) : Prop where
  sound : venue.Sound
  desk : ∀ {key desk}, venue.desk? key = some desk → desk.Invariant

/-- Every call keeps the invariant of a venue. -/
theorem Invariant.step (invariant : venue.Invariant) (call : VenueCall) :
    (next venue call).Invariant := by
  -- A resolver was there before the call and moves, or it is opened by the call.
  obtain ⟨vantage, _, seen⟩ := invariant.sound.seen 0
  refine ⟨(perform_fits invariant.sound seen call).sound, fun {key desk} found => ?_⟩
  cases before : venue.desk? key with
  | none => exact (next_opens invariant.sound before found).1.invariant
  | some earlier =>
    obtain ⟨later, left, moves⟩ := next_desk invariant.sound before call
    obtain rfl := Option.some.inj (left.symm.trans found)
    exact moves.invariant (invariant.desk before)

/-- So do several calls. -/
theorem Invariant.run (invariant : venue.Invariant) (calls : List VenueCall) :
    (after venue calls).Invariant := by
  -- What every call keeps holds after all of them.
  induction calls generalizing venue with
  | nil => exact invariant
  | cons call rest ih => exact ih (invariant.step call)

/-- The invariant holds after every run from the start. -/
theorem invariant_after (calls : List VenueCall) : (after Venue.empty calls).Invariant :=
  Invariant.run ⟨sound_empty, nofun⟩ calls

/-- A resolver stays where it is, and what can be told of it by what it was before is right. -/
theorem Invariant.desk_after (invariant : venue.Invariant) (found : venue.desk? key = some desk)
    (calls : List VenueCall) :
    ∃ later, (after venue calls).desk? key = some later ∧ later.Invariant ∧
      desk.worker.Precedes later.worker := by
  -- The induction is on the calls, and each of them moves the resolver.
  induction calls generalizing venue desk with
  | nil => exact ⟨desk, found, invariant.desk found, .refl _⟩
  | cons call rest ih =>
    obtain ⟨between, left, moves⟩ := next_desk invariant.sound found call
    obtain ⟨_, first⟩ := moves.reaches.kept (invariant.desk found).worker
    obtain ⟨later, reached, still, second⟩ := ih (invariant.step call) left
    exact ⟨later, reached, still, first.trans second⟩

end Venue

end PeerCluster
