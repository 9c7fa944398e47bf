import PeerCluster.Proofs.Venue.Desks

/-! Size hints: what the holder of a stream is told of the items to come, and what then comes. -/

namespace PeerCluster

/-! ### Items -/

/-- Whether a source has let go of an item. -/
def Poll.isReady {α : Type} : Poll α → Bool
  | ready _ => true
  | pending | finished => false

/-- Whether somebody was given an item of a stream, projected or not. -/
def VenueAnswer.isItem : VenueAnswer → Bool
  | .stream (.item found) => found.isReady
  | .stream (.projected found) => found.isReady
  | _ => false

/-- The size hint that is told by an answer, if it tells one. -/
def VenueAnswer.hint? : VenueAnswer → Option (Nat × Option Nat)
  | .stream (.inspected _ _ hint) => some hint
  | _ => none

/-- Whether the consumer who goes by a key is given an item. -/
def Exchange.gives (key : Nat) (entry : Exchange VenueCall VenueAnswer) : Bool :=
  entry.call.asker? = some key && entry.answer.isItem

/-- Whether a call ends the stream that goes by a key. -/
def VenueCall.ends (key : Nat) : VenueCall → Bool
  | .ask other (.stream .cancel) | .ask other (.stream .drop) => other = key
  | _ => false

/-- A projected item is there exactly if the item is. -/
@[simp] theorem VenueAnswer.isItem_ofItem (projection? : Option Projection)
    (found : Poll MemberEvent) :
    (VenueAnswer.stream (.ofItem projection? found)).isItem = found.isReady := by
  -- A projection changes what an item is and not whether there is one.
  cases projection? with
  | none => rfl
  | some projection =>
    cases found with
    | ready | pending | finished => rfl

/-! ### Subscriptions -/

namespace Subscription

variable {before between after : Subscription} {count more : Nat}

/-- What a subscription was before it gave a number of items, and what it is after them. -/
structure Yields (before after : Subscription) (count : Nat) : Prop where
  cancelled : after.cancelled = before.cancelled
  /-- Whatever is not replayed any more was given. -/
  replay : before.replay.length ≤ count + after.replay.length
  ended : before.cancelled = true → count = 0

namespace Yields

/-- Nothing is given at once. -/
theorem refl (subscription : Subscription) : subscription.Yields subscription 0 :=
  ⟨rfl, Nat.le_add_left .., fun _ => rfl⟩

/-- What is given first and what is given then is given in all. -/
theorem trans (first : before.Yields between count) (second : between.Yields after more) :
    before.Yields after (count + more) := by
  -- Whatever is replayed less was given, in the first part or in the second.
  refine ⟨second.cancelled.trans first.cancelled, ?_, fun ended => ?_⟩
  · have earlier := first.replay
    have later := second.replay
    omega
  · rw [first.ended ended, second.ended (first.cancelled.trans ended)]

/-- To hear of a change gives nothing yet. -/
theorem hear (change? : Option MemberEvent) (subscription : Subscription) :
    subscription.Yields (subscription.hear change?) 0 := by
  -- A change is put behind what is replayed, and nothing is put into a cancelled stream.
  unfold Subscription.hear
  cases change? with
  | none => exact refl subscription
  | some event =>
    dsimp only
    split
    · exact refl subscription
    · exact ⟨rfl, Nat.le_add_left .., fun _ => rfl⟩

/-- A poll gives one item, or none. -/
theorem poll (lives : Bool) (subscription : Subscription) :
    subscription.Yields (subscription.poll lives).2
      (if (subscription.poll lives).1.isReady then 1 else 0) := by
  -- What is replayed comes first, and what is cancelled gives nothing.
  rcases subscription.poll_cases lives with ⟨cancelled, answered⟩ | ⟨open_, taken⟩
  · rw [answered]
    exact refl subscription
  · have never {count : Nat} (ended : subscription.cancelled = true) : count = 0 := by
      cases open_.symm.trans ended
    rcases taken with ⟨peer, rest, replay, answered⟩ | ⟨event, rest, replay, _, answered⟩ |
      ⟨replay, _, answered⟩
    · rw [answered]
      refine ⟨rfl, ?_, never⟩
      rw [replay, List.length_cons]
      exact Nat.le_of_eq (Nat.add_comm ..)
    · rw [answered]
      refine ⟨rfl, ?_, never⟩
      rw [replay]
      exact Nat.zero_le _
    · rw [answered]
      cases lives with
      | false | true => exact refl subscription

/-- Whoever keeps to the hint is right in the end, when nothing is given any more. -/
theorem least (yields : before.Yields after count) {lives : Bool}
    (stops : (after.poll lives).1.isReady = false) : before.sizeHint.1 ≤ count := by
  -- A stream that stops while it is listened to has nothing left to replay.
  unfold sizeHint
  split
  · exact Nat.zero_le _
  · rename_i goesOn
    have replay := yields.replay
    rcases after.poll_cases lives with ⟨cancelled, _⟩ | ⟨_, taken⟩
    · exact absurd (yields.cancelled.symm.trans cancelled) goesOn
    · rcases taken with ⟨_, _, _, answered⟩ | ⟨_, _, _, _, answered⟩ | ⟨none, _⟩
      · rw [answered] at stops
        cases stops
      · rw [answered] at stops
        cases stops
      · rw [none] at replay
        exact replay

/-- No item is given where the hint says that none will be. -/
theorem none_of_hint (yields : before.Yields after count) {low : Nat}
    (hint : before.sizeHint = (low, some 0)) : count = 0 := by
  -- Only the hint of a cancelled stream says how many items there are at most.
  unfold sizeHint at hint
  split at hint
  · rename_i cancelled
    exact yields.ended cancelled
  · cases hint

end Yields

/-- An item that is given was awaited, and there is one less to come after it. -/
theorem length_awaiting_poll (lives : Bool) (subscription : Subscription)
    (ready : (subscription.poll lives).1.isReady = true) :
    (subscription.poll lives).2.awaiting.length < subscription.awaiting.length := by
  -- An item is the first of those awaited, and an idle stream gives none.
  rcases subscription.poll_awaiting lives with ⟨event, rest, awaited, _, left⟩ | ⟨_, idle⟩
  · rw [awaited, left]
    exact Nat.lt_succ_self _
  · rw [idle] at ready
    unfold Subscription.idle at ready
    split at ready
    · cases ready
    · cases ready

end Subscription

/-! ### Streams from a vantage point -/

namespace Vantage

open Machine

variable {vantage : Vantage} {subscription : Subscription}

/-- Whoever looks from here holds a stream with a subscription behind it. -/
def Streams (vantage : Vantage) (subscription : Subscription) : Prop :=
  ∃ registry projection? lives,
    vantage.station? = some (.stream registry projection? true subscription lives)

/-- A call leaves a stream, which is without an item after it if the call was given one. -/
def Advances (vantage : Vantage) (subscription : Subscription) (call : VenueCall) : Prop :=
  ∃ later, (next vantage call).Streams later ∧
    subscription.Yields later (if (exchange vantage call).gives vantage.observer then 1 else 0)

/-- After a number of polls that all give an item there is one that does not. -/
def Stops (vantage : Vantage) : Prop :=
  ∃ count, let polls := List.replicate count (VenueCall.ask vantage.observer (.stream .next))
    (exchanges vantage polls).countP (·.gives vantage.observer) = count ∧
      (answerTo (after vantage polls) (.ask vantage.observer (.stream .next))).isItem = false

/-- Whoever asks for an item is given one exactly if the answer is one. -/
theorem gives_next (vantage : Vantage) (key : Nat) :
    (exchange vantage (.ask key (.stream .next))).gives key =
      (answerTo vantage (.ask key (.stream .next))).isItem := by
  -- The call asks for the key itself, so only the answer decides.
  show (decide (some key = some key) && _) = _
  rw [decide_eq_true rfl, Bool.true_and]
  rfl

/-- Only who holds a stream is told a hint, which is the one of its subscription. -/
theorem streams_of_hint {key : Nat} {hint : Nat × Option Nat}
    (told : (answerTo vantage (.ask key (.stream .inspect))).hint? = some hint) :
    ∃ subscription, vantage.Streams subscription ∧ subscription.sizeHint = hint := by
  -- Any other station refuses to be looked at like this, and so does nobody's.
  change (vantage.perform _).1.hint? = _ at told
  dsimp only [perform] at told
  cases station : vantage.station? with
  | none =>
    rw [station] at told
    cases told
  | some met =>
    rw [station] at told
    cases met with
    | desk => cases told
    | stream registry projection? held subscription lives =>
      cases held with
      | false => cases told
      | true => exact ⟨subscription, ⟨registry, projection?, lives, station⟩, Option.some.inj told⟩

/-- Only who holds a stream is given items. -/
theorem streams_of_item {key : Nat}
    (given : (answerTo vantage (.ask key (.stream .next))).isItem = true) :
    ∃ subscription, vantage.Streams subscription := by
  change (vantage.perform _).1.isItem = _ at given
  -- Any other station refuses to give items, and so does nobody's.
  dsimp only [perform] at given
  cases station : vantage.station? with
  | none =>
    rw [station] at given
    cases given
  | some met =>
    rw [station] at given
    cases met with
    | desk => cases given
    | stream registry projection? held subscription lives =>
      cases held with
      | false => cases given
      | true => exact ⟨subscription, registry, projection?, lives, station⟩

namespace Streams

/-- Whoever asks a stream for an item is answered what the subscription has. -/
theorem polled (streams : vantage.Streams subscription) (key : Nat) :
    ∃ lives, (answerTo vantage (.ask key (.stream .next))).isItem =
        (subscription.poll lives).1.isReady ∧
      (next vantage (.ask key (.stream .next))).Streams (subscription.poll lives).2 := by
  obtain ⟨registry, projection?, lives, station⟩ := streams
  -- The station answers from its subscription, and keeps what the poll has left of it.
  refine ⟨lives, ?_, registry, projection?, lives, ?_⟩
  · show (vantage.perform _).1.isItem = _
    dsimp only [perform]
    rw [station]
    exact VenueAnswer.isItem_ofItem projection? _
  · show (vantage.perform _).2.station? = _
    dsimp only [perform]
    rw [station]
    rfl

/-- A call that leaves the stream alone and is given no item advances nothing. -/
theorem kept (streams : vantage.Streams subscription) {call : VenueCall}
    (same : (next vantage call).station? = vantage.station?)
    (nothing : (exchange vantage call).gives vantage.observer = false) :
    vantage.Advances subscription call := by
  obtain ⟨registry, projection?, lives, station⟩ := streams
  -- Nothing was given, and nothing else can have changed the subscription.
  unfold Advances
  rw [nothing]
  exact ⟨subscription, ⟨registry, projection?, lives, same.trans station⟩, .refl subscription⟩

/-- A call that leaves everything alone is given no item unless it is answered one. -/
theorem unchanged (streams : vantage.Streams subscription) {call : VenueCall}
    {answer : VenueAnswer} (performed : vantage.perform call = (answer, vantage))
    (nothing : answer.isItem = false) : vantage.Advances subscription call := by
  -- The call leaves everything as it is, so in particular the stream.
  refine streams.kept ?_ ?_
  · show (vantage.perform call).2.station? = _
    rw [performed]
  · show (_ && (vantage.perform call).1.isItem) = false
    rw [performed, nothing, Bool.and_false]

/-- A call of a registry is heard of by the stream, which gives nothing of it yet. -/
theorem handled (streams : vantage.Streams subscription) (id : Nat) (call : HandleCall) :
    vantage.Advances subscription (.handle id call) := by
  have whole := streams
  obtain ⟨registry, projection?, lives, station⟩ := streams
  -- A registry that nobody can reach says nothing, and any other one is heard of if it is this one.
  cases book : vantage.book? id with
  | none =>
    refine whole.kept ?_ rfl
    show (vantage.perform _).2.station? = _
    dsimp only [perform]
    rw [book]
  | some found =>
    have heard : (next vantage (.handle id call)).station? =
        some (Station.hear id (found.serve call).2.1 (found.serve call).2.2.lives
          (.stream registry projection? true subscription lives)) := by
      show (vantage.perform _).2.station? = _
      dsimp only [perform]
      rw [book, station]
      rfl
    dsimp only [Station.hear] at heard
    split at heard
    · exact ⟨_, ⟨_, _, _, heard⟩, .hear _ subscription⟩
    · exact ⟨_, ⟨_, _, _, heard⟩, .refl subscription⟩

/-- A poll of the stream is given an item if the subscription has one. -/
theorem taken (streams : vantage.Streams subscription) :
    vantage.Advances subscription (.ask vantage.observer (.stream .next)) := by
  -- Both are the poll of the subscription: what is answered, and what is left.
  obtain ⟨lives, answer, left⟩ := streams.polled vantage.observer
  unfold Advances
  rw [gives_next, answer]
  exact ⟨_, left, .poll lives subscription⟩

/-- A call that does not end a stream leaves it, and gives an item of it if it asks for one. -/
theorem step (streams : vantage.Streams subscription) {call : VenueCall}
    (concerns : call.concerns vantage.observer = true)
    (goesOn : call.ends vantage.observer = false) : vantage.Advances subscription call := by
  have whole := streams
  obtain ⟨registry, projection?, lives, station⟩ := streams
  -- A request that the station leaves alone leaves the vantage point alone, too.
  have asked {key : Nat} {request : Request} {answer : VenueAnswer}
      (served : Station.ask (.stream registry projection? true subscription lives) request =
        (answer, .stream registry projection? true subscription lives)) :
      vantage.perform (.ask key request) = (answer, vantage) := by
    dsimp only [perform]
    rw [station]
    dsimp only
    rw [served, ← station]
  cases call with
  | openRegistry => exact whole.kept rfl rfl
  | run =>
    refine whole.kept ?_ rfl
    show (vantage.perform _).2.station? = _
    dsimp only [perform]
    rw [station]
    rfl
  | look id =>
    refine whole.kept ?_ rfl
    show (vantage.perform _).2.station? = _
    dsimp only [perform]
    split
    · rfl
    · rfl
  | create key origin =>
    -- There is somebody already who goes by the key.
    have refused : vantage.perform (.create key origin) = (.unreachable, vantage) := by
      dsimp only [perform]
      rw [station, Option.isSome_some, if_pos rfl]
    exact whole.unchanged refused rfl
  | handle id call => exact whole.handled id call
  | ask key request =>
    obtain rfl : key = vantage.observer := of_decide_eq_true concerns
    cases request with
    | desk request => exact whole.unchanged (asked rfl) rfl
    | stream request =>
      cases request with
      | cancel | drop => cases (decide_eq_false_iff_not.mp goesOn) rfl
      | inspect | count => exact whole.unchanged (asked rfl) rfl
      | next => exact whole.taken

/-- Calls that do not end a stream leave it, and give items of it as often as they ask for some. -/
theorem run (streams : vantage.Streams subscription) {calls : List VenueCall}
    (concerns : ∀ call ∈ calls, call.concerns vantage.observer = true)
    (goesOn : ∀ call ∈ calls, call.ends vantage.observer = false) :
    ∃ later, (after vantage calls).Streams later ∧
      subscription.Yields later ((exchanges vantage calls).countP (·.gives vantage.observer)) := by
  -- The induction is on the calls, and what each of them gives is added to what the rest gives.
  induction calls generalizing vantage subscription with
  | nil => exact ⟨subscription, streams, .refl subscription⟩
  | cons call rest ih =>
    obtain ⟨here, concerns⟩ := List.forall_mem_cons.mp concerns
    obtain ⟨stays, goesOn⟩ := List.forall_mem_cons.mp goesOn
    obtain ⟨between, left, first⟩ := streams.step here stays
    have observer : (next vantage call).observer = vantage.observer :=
      Venue.observer_perform vantage call
    rw [← observer] at concerns goesOn
    obtain ⟨later, last, second⟩ := ih left concerns goesOn
    rw [observer] at second
    refine ⟨later, last, ?_⟩
    have both := first.trans second
    rw [Nat.add_comm] at both
    rw [exchanges, List.countP_cons]
    exact both

/-- Whoever asks a stream for one item after the other comes to an answer that is none. -/
theorem stops (streams : vantage.Streams subscription) : vantage.Stops := by
  -- The induction is on how many items are awaited, of which every poll takes one.
  induction size : subscription.awaiting.length using Nat.strongRecOn
    generalizing vantage subscription with
  | ind size ih =>
    obtain ⟨lives, answer, left⟩ := streams.polled vantage.observer
    cases ready : (subscription.poll lives).1.isReady with
    | false => exact ⟨0, rfl, answer.trans ready⟩
    | true =>
      have fewer := subscription.length_awaiting_poll lives ready
      obtain ⟨count, given, none⟩ := ih _ (size ▸ fewer) left rfl
      have observer : (next vantage (.ask vantage.observer (.stream .next))).observer =
          vantage.observer := Venue.observer_perform vantage _
      rw [observer] at given none
      refine ⟨count + 1, ?_, none⟩
      rw [List.replicate_succ, exchanges, List.countP_cons, given, gives_next, answer, ready]
      rfl

end Streams

/-- Whoever polls comes to an answer that is no item, with or without a stream. -/
theorem stops (vantage : Vantage) : vantage.Stops := by
  -- Whoever is answered an item has a stream, and any other one stops at once.
  cases offered : (answerTo vantage (.ask vantage.observer (.stream .next))).isItem with
  | false => exact ⟨0, rfl, offered⟩
  | true =>
    obtain ⟨subscription, streams⟩ := streams_of_item offered
    exact streams.stops

end Vantage

/-! ### Hints -/

namespace Venue

open Machine

variable {venue : Venue} {vantage : Vantage} {key : Nat}

/-- The size hint that the holder of a stream is told, if there is one who holds it. -/
def hint? (venue : Venue) (key : Nat) : Option (Nat × Option Nat) :=
  (answerTo venue (.ask key (.stream .inspect))).hint?

/-- How many items the holder of a stream is given in some calls. -/
def givenTo (venue : Venue) (key : Nat) (calls : List VenueCall) : Nat :=
  (exchanges venue calls).countP (·.gives key)

/-- Whether the holder of a stream would be given an item. -/
def offers (venue : Venue) (key : Nat) : Bool :=
  (answerTo venue (.ask key (.stream .next))).isItem

/-- What is told of the items to come is right. -/
structure HintHolds (venue : Venue) (key : Nat) : Prop where
  /-- Whatever happens to others in between, there are as many as were told. -/
  least : ∀ {low high?}, venue.hint? key = some (low, high?) → ∀ more : List VenueCall,
    (∀ call ∈ more, call.ends key = false) → (after venue more).offers key = false →
      low ≤ venue.givenTo key more
  /-- There are none if none were told. -/
  most : ∀ {low}, venue.hint? key = some (low, some 0) → ∀ more : List VenueCall,
    (∀ call ∈ more, call.ends key = false) → venue.givenTo key more = 0
  /-- Polls alone come to an end of what there is. -/
  stops : ∃ count, let polls := List.replicate count (VenueCall.ask key (.stream .next))
    venue.givenTo key polls = count ∧ (after venue polls).offers key = false

/-- What is given to an observer is given in calls that concern them. -/
theorem givenTo_eq (sound : venue.Sound) (seen : venue.SeenFrom vantage) (calls : List VenueCall) :
    venue.givenTo vantage.observer calls =
      (exchanges vantage (calls.filter (·.concerns vantage.observer))).countP
        (·.gives vantage.observer) := by
  -- Only calls that concern the observer can give something to them.
  obtain ⟨same, _⟩ := exchanges_seen sound seen calls
  rw [← same, List.countP_filter]
  refine List.countP_congr fun entry _ => ?_
  -- Whoever is given something has asked for it.
  rw [Bool.and_eq_true, and_iff_left_of_imp]
  intro gives
  have asker := (Bool.and_eq_true_iff.mp gives).1
  unfold VenueCall.concerns
  rw [of_decide_eq_true asker]
  exact decide_eq_true rfl

/-- Whatever a venue has come to, size hints are right. -/
theorem Sound.hintHolds (sound : venue.Sound) (key : Nat) : venue.HintHolds key := by
  -- Everything can be told from the vantage point of the key, in the calls that concern it.
  obtain ⟨vantage, rfl, seen⟩ := sound.seen key
  have offered (more : List VenueCall) : (after venue more).offers vantage.observer =
      (answerTo (after vantage (more.filter (·.concerns vantage.observer)))
        (.ask vantage.observer (.stream .next))).isItem := by
    obtain ⟨_, still, later⟩ := exchanges_seen sound seen more
    have observer := observer_after vantage (more.filter (·.concerns vantage.observer))
    have answer := answerTo_seen still later (.stream .next)
    rw [observer] at answer
    exact congrArg _ answer
  have yields {hint : Nat × Option Nat} (told : venue.hint? vantage.observer = some hint)
      {more : List VenueCall} (goesOn : ∀ call ∈ more, call.ends vantage.observer = false) :
      ∃ before later : Subscription, before.sizeHint = hint ∧
        before.Yields later (venue.givenTo vantage.observer more) ∧
        (after vantage (more.filter (·.concerns vantage.observer))).Streams later := by
    unfold hint? at told
    rw [answerTo_seen sound seen] at told
    obtain ⟨before, streams, hint⟩ := Vantage.streams_of_hint told
    obtain ⟨later, left, yields⟩ := streams.run
      (fun call member => (List.mem_filter.mp member).2)
      fun call member => goesOn call (List.mem_filter.mp member).1
    rw [← givenTo_eq sound seen] at yields
    exact ⟨before, later, hint, yields, left⟩
  -- The first two are read off the stream that the hint was told of, and the third off its polls.
  refine ⟨fun told more goesOn nothing => ?_, fun told more goesOn => ?_, ?_⟩
  · obtain ⟨before, later, hint, yields, left⟩ := yields told goesOn
    obtain ⟨lives, answer, _⟩ := left.polled vantage.observer
    rw [offered, answer] at nothing
    have least := yields.least nothing
    rw [hint] at least
    exact least
  · obtain ⟨before, later, hint, yields, _⟩ := yields told goesOn
    exact yields.none_of_hint hint
  · obtain ⟨count, given, nothing⟩ := vantage.stops
    have concerning (count : Nat) :
        (List.replicate count (VenueCall.ask vantage.observer (.stream .next))).filter
            (·.concerns vantage.observer) =
          List.replicate count (.ask vantage.observer (.stream .next)) :=
      List.filter_replicate_of_pos (decide_eq_true rfl)
    refine ⟨count, ?_, ?_⟩
    · rw [givenTo_eq sound seen, concerning]
      exact given
    · rw [offered, concerning]
      exact nothing

end Venue

end PeerCluster
