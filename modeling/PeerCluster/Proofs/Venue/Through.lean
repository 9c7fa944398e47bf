import PeerCluster.Proofs.Venue.Interference

/-! The same calls by somebody else, who sees the items of a stream through a projection. -/

namespace PeerCluster

/-! ### Calls and answers -/

/-- A stream that is seen as it is may be seen through a projection instead. -/
def Origin.through (projection? : Option Projection) : Origin → Origin
  | .stream registry none => .stream registry projection?
  | origin => origin

/-- What a consumer does, done by the one who goes by a key; all other calls stay as they are. -/
def VenueCall.through (key : Nat) (projection? : Option Projection) : VenueCall → VenueCall
  | .create _ origin => .create key (origin.through projection?)
  | .ask _ request => .ask key request
  | call => call

/-- An item that is seen as it is may be seen through a projection instead. -/
def StreamAnswer.through (projection? : Option Projection) : StreamAnswer → StreamAnswer
  | .item found => .ofItem projection? found
  | answer => answer

/-- What is answered when items are seen through a projection; nothing else is different. -/
def VenueAnswer.through (projection? : Option Projection) : VenueAnswer → VenueAnswer
  | .stream answer => .stream (answer.through projection?)
  | answer => answer

/-- A call with its answer, by somebody else who sees items through a projection. -/
def Exchange.through (key : Nat) (projection? : Option Projection)
    (entry : Exchange VenueCall VenueAnswer) : Exchange VenueCall VenueAnswer :=
  ⟨entry.call.through key projection?, entry.answer.through projection?, entry.log⟩

/-! ### Stations -/

namespace Station

/-- What a consumer has who sees the items of its stream through a projection. -/
def through (projection? : Option Projection) : Station → Station
  | .stream registry none held subscription lives =>
    .stream registry projection? held subscription lives
  | station => station

variable (projection? : Option Projection) (station : Station)

/-- What is heard of a registry is heard whatever is made of it later. -/
theorem through_hear (registry : Nat) (change? : Option MemberEvent) (lives : Bool) :
    (station.hear registry change? lives).through projection? =
      (station.through projection?).hear registry change? lives := by
  cases station with
  | desk => rfl
  | stream home own? held subscription before =>
    by_cases here : home = registry
    · cases own? with
      | none | some => simp only [hear, through, if_pos here]
    · cases own? with
      | none | some => simp only [hear, through, if_neg here]

/-- Turns are given to tasks only. -/
theorem through_rest : station.rest.through projection? = (station.through projection?).rest := by
  cases station with
  | desk => rfl
  | stream home own? =>
    cases own? with
    | none | some => rfl

/-- Whatever is asked, only the items that are answered differ. -/
theorem through_ask (request : Request) :
    (station.through projection?).ask request =
      ((station.ask request).1.through projection?,
        (station.ask request).2.through projection?) := by
  cases station with
  | desk worker ledger =>
    cases request with
    | stream | desk => rfl
  | stream home own? held subscription lives =>
    cases request with
    | desk =>
      cases own? with
      | none | some => rfl
    | stream request =>
      -- The projection is looked at when an item is answered, and at no other place.
      cases own? with
      | none | some =>
        cases held with
        | false | true =>
          cases request with
          | next | cancel | inspect | count | drop => rfl

end Station

namespace Vantage

open Machine

variable (vantage : Vantage) (key : Nat) (projection? : Option Projection)

/-- What is seen by somebody else who has the same, but sees items through a projection. -/
def through : Vantage :=
  ⟨key, vantage.books, vantage.station?.map (.through projection?)⟩

/-- Whoever becomes a consumer elsewhere gets the same, but for how items are seen. -/
theorem through_create (origin : Origin) :
    (vantage.through key projection?).create (origin.through projection?) =
      ((vantage.create origin).1.through projection?,
        (vantage.create origin).2.through key projection?) := by
  -- The books are the same, so both are refused or neither is.
  have book (registry : Nat) :
      (vantage.through key projection?).book? registry = vantage.book? registry := rfl
  cases origin with
  | stream registry own? =>
    cases own? with
    | none | some =>
      dsimp only [Origin.through, create]
      rw [book]
      cases vantage.book? registry with
      | none | some => rfl
  | following registry projection runtime =>
    dsimp only [Origin.through, create]
    rw [book]
    cases vantage.book? registry with
    | none => rfl
    | some =>
      cases runtime with
      | false | true => rfl
  | consuming role queue runtime =>
    cases runtime with
    | false | true => rfl

/-- A call by somebody else leads to the same, but for how items are seen. -/
theorem through_perform (call : VenueCall) :
    (vantage.through key projection?).perform (call.through key projection?) =
      ((vantage.perform call).1.through projection?,
        (vantage.perform call).2.through key projection?) := by
  -- What is asked of registries is answered from the books, and the rest at the station.
  have book (registry : Nat) :
      (vantage.through key projection?).book? registry = vantage.book? registry := rfl
  obtain ⟨observer, books, station?⟩ := vantage
  cases call with
  | openRegistry => rfl
  | handle registry call =>
    dsimp only [VenueCall.through, perform]
    rw [book]
    cases Vantage.book? ⟨observer, books, station?⟩ registry with
    | none => rfl
    | some found =>
      cases station? with
      | none => rfl
      | some station =>
        dsimp only [through, Option.map_some]
        rw [station.through_hear]
        rfl
  | look registry =>
    dsimp only [VenueCall.through, perform]
    rw [book]
    cases Vantage.book? ⟨observer, books, station?⟩ registry with
    | none | some => rfl
  | create other origin =>
    cases station? with
    | none => exact through_create ⟨observer, books, none⟩ key projection? origin
    | some station => rfl
  | ask other request =>
    cases station? with
    | none => rfl
    | some station =>
      dsimp only [VenueCall.through, perform, through, Option.map_some]
      rw [station.through_ask]
  | run =>
    cases station? with
    | none => rfl
    | some station =>
      dsimp only [VenueCall.through, perform, through, Option.map_some]
      rw [station.through_rest]
      rfl

/-- So do several calls. -/
theorem exchanges_through (calls : List VenueCall) :
    exchanges (vantage.through key projection?) (calls.map (·.through key projection?)) =
        (exchanges vantage calls).map (·.through key projection?) ∧
      after (vantage.through key projection?) (calls.map (·.through key projection?)) =
        (after vantage calls).through key projection? := by
  -- The induction is on the calls, each of which leaves the same again.
  induction calls generalizing vantage with
  | nil => exact ⟨rfl, rfl⟩
  | cons call rest ih =>
    have first := vantage.through_perform key projection? call
    have entry : exchange (vantage.through key projection?) (call.through key projection?) =
        (exchange vantage call).through key projection? := by
      show (⟨_, (Vantage.perform _ _).1, []⟩ : Exchange VenueCall VenueAnswer) = _
      rw [first]
      rfl
    have left : next (vantage.through key projection?) (call.through key projection?) =
        (next vantage call).through key projection? := by
      show (Vantage.perform _ _).2 = _
      rw [first]
      rfl
    obtain ⟨later, last⟩ := ih (next vantage call)
    rw [List.map_cons]
    dsimp only [exchanges, after]
    rw [entry, left, later, last]
    exact ⟨rfl, rfl⟩

end Vantage

end PeerCluster
