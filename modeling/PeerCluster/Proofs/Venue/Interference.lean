import PeerCluster.Proofs.Run
import PeerCluster.Proofs.Venue.Seeing

/-! Consumers do not interfere: what one of them sees does not depend on what others do. -/

namespace PeerCluster.Venue

open Machine

variable {venue : Venue} {vantage : Vantage}

/-- Whose vantage point it is never changes. -/
theorem observer_perform (vantage : Vantage) (call : VenueCall) :
    (vantage.perform call).2.observer = vantage.observer := by
  -- No branch of any call writes the observer.
  cases call with
  | openRegistry | run => rfl
  | handle registry call | look registry =>
    dsimp only [Vantage.perform]
    split <;> rfl
  | create key origin =>
    dsimp only [Vantage.perform]
    split
    · rfl
    · unfold Vantage.create
      repeat' split
      all_goals rfl
  | ask key request =>
    dsimp only [Vantage.perform]
    split <;> rfl

/-- Nor does it change by any number of calls. -/
theorem observer_after (vantage : Vantage) (calls : List VenueCall) :
    (after vantage calls).observer = vantage.observer := by
  -- No call changes it, so none of them does.
  induction calls generalizing vantage with
  | nil => rfl
  | cons call rest ih => exact (ih _).trans (observer_perform vantage call)

/-- What an observer asks is answered as it would be from their vantage point. -/
theorem answerTo_seen (sound : venue.Sound) (seen : venue.SeenFrom vantage) (request : Request) :
    answerTo venue (.ask vantage.observer request) =
      answerTo vantage (.ask vantage.observer request) :=
  ((perform_fits sound seen (.ask vantage.observer request)).concerned (decide_eq_true rfl)).1

/--
What concerns an observer is answered as from their vantage point, whatever happens in between.

On one side all calls are made, on the other side only those that concern the observer.
-/
theorem exchanges_seen (sound : venue.Sound) (seen : venue.SeenFrom vantage)
    (calls : List VenueCall) :
    let concerning := calls.filter (·.concerns vantage.observer)
    (exchanges venue calls).filter (·.call.concerns vantage.observer) =
        exchanges vantage concerning ∧
      (after venue calls).Sound ∧ (after venue calls).SeenFrom (after vantage concerning) := by
  -- Calls that do not concern the observer are left out on the one side only.
  induction calls generalizing venue vantage with
  | nil => exact ⟨rfl, sound, seen⟩
  | cons call rest ih =>
    obtain ⟨sound, concerned, spared⟩ := perform_fits sound seen call
    cases concerns : call.concerns vantage.observer with
    | false =>
      -- Where the vantage point is left alone, it is the same for the calls that follow.
      have still := spared (by simp [concerns])
      obtain ⟨same, later⟩ := ih sound still
      simp only [List.filter_cons, concerns, exchanges, exchange]
      exact ⟨same, later⟩
    | true =>
      obtain ⟨answer, still⟩ := concerned concerns
      have observer := observer_perform vantage call
      obtain ⟨same, later⟩ := ih sound still
      rw [observer] at same later
      simp only [List.filter_cons, concerns, if_true, exchanges, exchange]
      refine ⟨List.cons_eq_cons.mpr ⟨?_, same⟩, later⟩
      exact congrArg (Exchange.mk call · []) answer

/-- From the beginning on, an observer sees what they would see if there were no others. -/
theorem exchanges_seen_from_start (observer : Nat) (calls : List VenueCall) :
    let concerning := calls.filter (·.concerns observer)
    (exchanges Venue.empty calls).filter (·.call.concerns observer) =
        exchanges (Vantage.empty observer) concerning ∧
      (after Venue.empty calls).Sound ∧
      (after Venue.empty calls).SeenFrom (after (Vantage.empty observer) concerning) :=
  exchanges_seen sound_empty (seenFrom_empty observer) calls

/--
Consumers do not interfere with each other.

Take out of a run all that other consumers do: that they are created, what they ask of streams and
of resolvers, and that they drop them. Everything else is answered as before, that is, what the
observer does, and what is asked of registries through handles or read there.
-/
theorem others_unnoticed (observer : Nat) (calls : List VenueCall) :
    (exchanges Venue.empty calls).filter (·.call.concerns observer) =
      exchanges Venue.empty (calls.filter (·.concerns observer)) := by
  -- Both runs are compared to the same run from the vantage point.
  obtain ⟨all, _⟩ := exchanges_seen_from_start observer calls
  obtain ⟨few, _⟩ := exchanges_seen_from_start observer (calls.filter (·.concerns observer))
  -- In the shorter run, all calls concern the observer.
  have concerning : ∀ entry ∈ exchanges Venue.empty (calls.filter (·.concerns observer)),
      entry.call.concerns observer = true := by
    intro entry member
    have called : entry.call ∈ (exchanges _ _).map Exchange.call :=
      List.mem_map.mpr ⟨entry, member, rfl⟩
    rw [map_call_exchanges] at called
    exact (List.mem_filter.mp called).2
  rw [List.filter_eq_self.mpr concerning, List.filter_filter] at few
  simp only [Bool.and_self] at few
  exact all.trans few.symm

end PeerCluster.Venue
