import PeerCluster.Proofs.Venue.Hinting
import PeerCluster.Proofs.Venue.Through

/-! Projected streams: whoever sees a stream through a projection sees that stream, projected. -/

namespace PeerCluster

open Machine

/-- A projected change is of the same kind, and of the same host with the port that was picked. -/
theorem Projection.projectEvent_spec (projection : Projection) (event : MemberEvent) :
    let projected := projection.projectEvent event
    projected.kind = event.kind ∧ projected.payload.hostName = event.payload.hostName ∧
      projected.payload.port =
        match projection.selector with
        | .role role => event.payload.portFor role
        | .custom port => port event.payload := by
  -- A projection is applied to the address and leaves the kind of a change.
  cases event with
  | add | remove => exact ⟨rfl, rfl, rfl⟩

/-- How an item is seen changes nothing about a size hint. -/
theorem VenueAnswer.hint?_through (projection? : Option Projection) (answer : VenueAnswer) :
    (answer.through projection?).hint? = answer.hint? := by
  -- Only items are seen differently, and they carry no hint.
  cases answer with
  | stream answer =>
    cases answer with
    | item found =>
      cases projection? with
      | none | some => rfl
    | done | unreachable | projected | inspected | counted => rfl
  | done | unreachable | opened | handled | looked | streaming | failed | desk => rfl

namespace Venue

/-- Takes the projection off the stream that goes by a key, and gives back what was behind it. -/
def unwrap (venue : Venue) (key : Nat) : Venue :=
  match venue.consumers key with
  | some (.stream registry subscription _ held) =>
    venue.put key (.stream registry subscription none held) venue.fabric
  | _ => venue

/--
Somebody does what somebody else does, at the same points of the same changes of registries.

Where the one opens a stream as it is, the other one opens it through a projection, if there is one.
-/
def Mirrors (plain seen : Nat) (projection? : Option Projection)
    (calls others : List VenueCall) : Prop :=
  others.filter (·.concerns seen) =
    (calls.filter (·.concerns plain)).map (·.through seen projection?)

/-- What is answered to somebody is what is answered to somebody else, seen in another way. -/
def Reflects (plain seen : Nat) (projection? : Option Projection)
    (entries others : List (Exchange VenueCall VenueAnswer)) : Prop :=
  others.filter (·.call.concerns seen) =
    (entries.filter (·.call.concerns plain)).map (·.through seen projection?)

/-- What can be told of two who do the same, of whom one sees a stream through a projection. -/
structure Commutes (projection : Projection) (plain seen : Nat) (calls others : List VenueCall) :
    Prop where
  /-- An item is answered exactly where the other one is, and it is that item, projected. -/
  answers : Reflects plain seen (some projection) (exchanges Venue.empty calls)
    (exchanges Venue.empty others)
  items : ∀ event : MemberEvent,
    let projected := projection.projectEvent event
    projected.kind = event.kind ∧ projected.payload.hostName = event.payload.hostName ∧
      projected.payload.port =
        match projection.selector with
        | .role role => event.payload.portFor role
        | .custom port => port event.payload
  /-- Both are told the same of the items to come, and it is right. -/
  hint : (after Venue.empty others).hint? seen = (after Venue.empty calls).hint? plain
  hints : (after Venue.empty calls).HintHolds plain ∧ (after Venue.empty others).HintHolds seen
  /-- When the projection is taken off, both go on with the same items. -/
  unwrapped : ∀ {registry subscription held},
    (after Venue.empty calls).consumers plain = some (.stream registry subscription none held) →
      ∀ more rest, Mirrors plain seen none more rest →
        Reflects plain seen none (exchanges (after Venue.empty calls) more)
          (exchanges ((after Venue.empty others).unwrap seen) rest)

variable {venue other : Venue} {vantage : Vantage}

/-- Whoever has a stream sees it as it is when the projection is taken off, and nobody notices. -/
theorem unwrap_seen (sound : venue.Sound) (seen : venue.SeenFrom vantage) {registry : Nat}
    {projection? : Option Projection} {held : Bool} {subscription : Subscription} {lives : Bool}
    (station : vantage.station? = some (.stream registry projection? held subscription lives)) :
    (venue.unwrap vantage.observer).Sound ∧ (venue.unwrap vantage.observer).SeenFrom
      { vantage with station? := some (.stream registry none held subscription lives) } := by
  -- The consumer is put back with the same hold of the same subscription.
  have met := seen.station
  rw [station] at met
  cases found : venue.consumers vantage.observer with
  | none =>
    rw [found] at met
    cases met
  | some consumer =>
    rw [found] at met
    cases met with
    | some shown =>
      cases shown with
      | @stream _ id _ _ known unowned =>
        have put : venue.unwrap vantage.observer =
            venue.put vantage.observer (.stream registry id none held) venue.fabric := by
          unfold unwrap
          rw [found]
        have own : ∀ key rival, key ≠ vantage.observer → venue.consumers key = some rival →
            rival.hold ≠ .source (.stream registry id) :=
          fun key rival different there => sound.apart found there different
        have shown : venue.fabric.Shows (.stream registry id none held)
            (.stream registry none held _ _) := .stream known unowned
        have fits := Fits.put sound seen (.refl sound.scheduled _) rfl own shown rfl .done
        rw [put]
        exact ⟨fits.sound, (fits.concerned rfl).2⟩

/-- Two who do the same from where they see the same are answered the same. -/
theorem reflects_of_seen {plain seen : Nat} {projection? : Option Projection}
    (sound : venue.Sound) (here : venue.SeenFrom vantage) (observer : vantage.observer = plain)
    (again : other.Sound) (there : other.SeenFrom (vantage.through seen projection?))
    {calls others : List VenueCall} (mirrors : Mirrors plain seen projection? calls others) :
    Reflects plain seen projection? (exchanges venue calls) (exchanges other others) ∧
      ∃ left : Vantage, left.observer = plain ∧ (after venue calls).Sound ∧
        (after venue calls).SeenFrom left ∧ (after other others).Sound ∧
          (after other others).SeenFrom (left.through seen projection?) := by
  subst observer
  -- Both runs are read from their vantage points, of which one is the other seen through.
  obtain ⟨entries, still, left⟩ := exchanges_seen sound here calls
  obtain ⟨mirrored, stays, right⟩ := exchanges_seen again there others
  have concerning : others.filter (·.concerns (vantage.through seen projection?).observer) =
      (calls.filter (·.concerns vantage.observer)).map (·.through seen projection?) := mirrors
  obtain ⟨same, ends⟩ := vantage.exchanges_through seen projection?
    (calls.filter (·.concerns vantage.observer))
  rw [concerning, same] at mirrored
  rw [concerning, ends] at right
  refine ⟨?_, _, observer_after vantage _, still, left, stays, right⟩
  unfold Reflects
  rw [entries]
  exact mirrored

/--
To project and to subscribe commute.

Of two streams that are opened, polled, cancelled and looked at where the other one is, whatever
happens to registries and to others in between, the one that is seen through a projection answers an
item, nothing yet or the end where the other one does, and its items are those of the other one with
the port that the projection picks. The size hint is the same and it is right, and when the
projection is taken off, the stream goes on where the other one does.
-/
theorem projection_commutes (projection : Projection) {plain seen : Nat}
    {calls others : List VenueCall} (mirrors : Mirrors plain seen (some projection) calls others) :
    Commutes projection plain seen calls others := by
  obtain ⟨answers, vantage, rfl, sound, here, again, there⟩ :=
    reflects_of_seen sound_empty (seenFrom_empty plain) rfl sound_empty
      (seenFrom_empty seen) mirrors
  refine ⟨answers, projection.projectEvent_spec, ?_, ⟨sound.hintHolds _, again.hintHolds _⟩, ?_⟩
  · -- What the one is told from its vantage point, the other one is told, too.
    have other := answerTo_seen again there (.stream .inspect)
    have asked := vantage.through_perform seen (some projection)
      (.ask vantage.observer (.stream .inspect))
    unfold hint?
    rw [answerTo_seen sound here (.stream .inspect)]
    refine (congrArg VenueAnswer.hint? (other.trans (congrArg Prod.fst asked))).trans ?_
    exact VenueAnswer.hint?_through _ _
  · intro registry subscription held consumer more rest goesOn
    -- From the vantage points, the stream without the projection is the other stream.
    obtain ⟨subscribed, lives, own⟩ : ∃ subscribed lives,
        vantage.station? = some (.stream registry none held subscribed lives) := by
      obtain ⟨station, shown⟩ := sound.shown consumer
      have own := here.station_eq consumer shown
      cases shown with
      | stream => exact ⟨_, _, own⟩
    have station : (vantage.through seen (some projection)).station? =
        some (.stream registry (some projection) held subscribed lives) :=
      congrArg (Option.map (Station.through (some projection))) own
    obtain ⟨still, left⟩ := unwrap_seen again there station
    have same : { vantage.through seen (some projection) with
        station? := some (.stream registry none held subscribed lives) } =
        vantage.through seen none := by
      unfold Vantage.through
      rw [own]
      rfl
    rw [same] at left
    exact (reflects_of_seen sound here rfl still left goesOn).1

/-- Two streams are opened at once and followed, and later both are read as they are. -/
theorem projection_commutes_of_one_run :
    let projection : Projection := ⟨"admin", .custom fun peer => peer.registrationPort + 4⟩
    let calls : List VenueCall := [.openRegistry,
      .handle 0 (.add ⟨"localhost", 21, 22, 23⟩), .handle 0 (.add ⟨"127.0.0.1", 31, 32, 33⟩),
      .create 0 (.stream 0 none), .create 1 (.stream 0 (some projection)),
      .ask 1 (.stream .next), .ask 0 (.stream .next), .handle 0 (.remove 0)]
    let more : List VenueCall := [.ask 0 (.stream .next), .ask 1 (.stream .next),
      .ask 1 (.stream .next), .ask 0 (.stream .next), .ask 0 (.stream .cancel),
      .ask 1 (.stream .cancel), .ask 0 (.stream .next), .ask 1 (.stream .next)]
    Mirrors 0 1 (some projection) calls calls ∧ Mirrors 0 1 none more more ∧
      (after Venue.empty calls).consumers 0 = some (.stream 0 0 none true) ∧
      (after Venue.empty calls).hint? 1 = some (1, none) ∧
      (after Venue.empty calls).givenTo 1 more = 2 ∧ Commutes projection 0 1 calls calls :=
  ⟨rfl, rfl, rfl, rfl, rfl, projection_commutes _ rfl⟩

end Venue

end PeerCluster
