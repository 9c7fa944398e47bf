import PeerCluster.Proofs.Venue.Desks

/-! Wake-ups: a pick that waits does as well as one that looks for the first time. -/

namespace PeerCluster

/--
Whoever waited is answered as if they looked for the first time.

What is compared is what comes of polling a pick, or a stream of picks, that had to wait before,
and of polling a fresh one, for a resolver that a worker shows.
-/
structure AnsweredAsFresh {α : Type} (worker : Worker)
    (polled fresh : (Poll Choice × Bool) × α × Fabric) :
    Prop where
  answer : polled.1.1 = fresh.1.1
  /-- Everything that is shared is left as by whoever looks for the first time. -/
  left : polled.2.2 = fresh.2.2
  rest : polled.1.1 = .pending → polled.2.1 = fresh.2.1
  /-- Whoever has to wait on would have to wait in any case. -/
  pending : polled.1.1 = .pending ↔
    worker.resolver.status = .serving ∧ worker.balancer.pool = []
  /-- Whoever need not wait any more has been woken. -/
  woken : polled.1.1 ≠ .pending → polled.1.2 = true
  /-- Nobody is told that the resolver is closed, or comes to an end by it, unless it was. -/
  closed : (∃ role, polled.1.1 = .ready (.error (.resolverClosed role))) ∨ polled.1.1 = .finished →
    worker.resolver.status = .closed

namespace Fabric

variable {fabric : Fabric} {service : Nat} {worker : Worker} {pick : Pick}

/-- A pick that waits is answered as a fresh one is. -/
theorem pollPick_answeredAsFresh (met : fabric.worker? service = some worker)
    (invariant : worker.Invariant)
    (waits : pick.Waits worker.resolver worker.balancer) (looked : pick.seen?.isSome = true) :
    AnsweredAsFresh worker (fabric.pollPick service pick) (fabric.pollPick service .fresh) ∧
      (fabric.pollPick service pick).1.1 ≠ .finished := by
  -- Both polls are cases of the same outcome, so they agree.
  have polled := Pick.polled_poll invariant.coupled waits
  obtain ⟨answer, left, rest⟩ := Pick.poll_fresh invariant.coupled waits
  obtain ⟨unfinished, closed⟩ := polled.closed invariant.honest
  obtain ⟨present, found, rfl⟩ := exists_of_worker? met
  unfold pollPick
  rw [found]
  refine ⟨⟨answer, congrArg (fabric.setBalancer present.balancer) left, rest, polled.pending_iff,
    Pick.isWoken_of_answered looked, ?_⟩, unfinished⟩
  rintro (⟨role, told⟩ | finished)
  · exact closed role told
  · exact absurd finished unfinished

/-- A stream of picks that waits is answered as a fresh one is. -/
theorem pollPicks_answeredAsFresh (met : fabric.worker? service = some worker)
    (invariant : worker.Invariant)
    (waits : pick.Waits worker.resolver worker.balancer) (looked : pick.seen?.isSome = true) :
    AnsweredAsFresh worker (fabric.pollPicks service (.picking pick))
      (fabric.pollPicks service .fresh) := by
  have polled := Pick.polled_poll invariant.coupled waits
  obtain ⟨answer, left, rest⟩ := Pick.poll_fresh invariant.coupled waits
  have same := PickStream.poll_congr answer left rest
  -- There is a pick under way, so the stream is not done yet.
  have stream : PickStream.Polled (.picking pick) worker.resolver worker.balancer _ :=
    PickStream.polled_poll invariant.coupled invariant.honest
      fun other underWay => PickStream.picking.inj underWay ▸ waits
  obtain ⟨finished, unclosed⟩ := stream.closed_of_finished invariant.honest
  obtain ⟨present, found, rfl⟩ := exists_of_worker? met
  unfold pollPicks
  rw [found]
  refine ⟨congrArg (·.1) same, ?_, fun _ => congrArg (·.2.1) same, stream.pending_iff, ?_, ?_⟩
  · exact congrArg (fun outcome => fabric.setBalancer present.balancer outcome.2.2) same
  · intro answered
    apply Pick.isWoken_of_answered looked
    exact fun waiting => answered (stream.pending_iff.mpr (polled.pending_iff.mp waiting))
  · rintro (⟨role, told⟩ | ceased)
    · exact absurd told (unclosed role)
    · exact finished ceased

end Fabric

namespace Venue

open Machine

/--
No wake-up is lost.

However a run went on, whatever was handed out by a resolver to somebody who had to wait is answered
as a fresh one would be: a pick, or a stream of picks. It has to wait on exactly while the resolver
serves and there is no candidate, and it has been woken if it has not.
-/
theorem wakeups_not_lost (calls : List VenueCall) (key : Nat) {service : Nat} {ledger : Ledger}
    (found : (after Venue.empty calls).consumers key = some (.resolver service ledger)) :
    let fabric := (after Venue.empty calls).fabric
    ∃ worker, fabric.worker? service = some worker ∧
      (∀ index pick, ledger.pick? index = some pick →
        AnsweredAsFresh worker (fabric.pollPick service pick) (fabric.pollPick service .fresh) ∧
          (fabric.pollPick service pick).1.1 ≠ .finished) ∧
      ∀ index pick, ledger.stream? index = some (.picking pick) → pick.seen?.isSome = true →
        AnsweredAsFresh worker (fabric.pollPicks service (.picking pick))
          (fabric.pollPicks service .fresh) := by
  -- That nobody waits for what is there already is part of what every call keeps.
  intro fabric
  have invariant := invariant_after calls
  obtain ⟨station, shown⟩ := invariant.sound.shown found
  cases shown with
  | @desk _ _ worker met =>
    have seen : (after Venue.empty calls).desk? key = some ⟨worker, ledger⟩ := by
      unfold Venue.desk?
      rw [found]
      dsimp only
      rw [met]
      rfl
    have desk := invariant.desk seen
    refine ⟨worker, met, fun index pick there => ?_, fun index pick there looked => ?_⟩
    · obtain ⟨waits, looked⟩ := desk.waits.picks there
      exact Fabric.pollPick_answeredAsFresh met desk.worker waits looked
    · exact Fabric.pollPicks_answeredAsFresh met desk.worker (desk.waits.streams there) looked

/-- Somebody waits for the first candidate, and is answered by it as soon as it was applied. -/
theorem wakeups_not_lost_of_four_calls :
    let venue := after Venue.empty [.create 0 (.consuming "discovery" (.events []) true),
      .ask 0 (.desk .pick), .ask 0 (.desk (.send .add ⟨"localhost", 21⟩)), .run]
    ∃ ledger worker, venue.consumers 0 = some (.resolver 0 ledger) ∧
      ledger.pick? 0 = some ⟨some 0⟩ ∧ venue.fabric.worker? 0 = some worker ∧
      (venue.fabric.pollPick 0 .fresh).1.1 = .ready (.ok ⟨"localhost", 21⟩) ∧
      AnsweredAsFresh worker (venue.fabric.pollPick 0 ⟨some 0⟩)
        (venue.fabric.pollPick 0 .fresh) := by
  have found : (after Venue.empty [.create 0 (.consuming "discovery" (.events []) true),
      .ask 0 (.desk .pick), .ask 0 (.desk (.send .add ⟨"localhost", 21⟩)), .run]).consumers 0 =
        some (.resolver 0 ⟨true, [some ⟨some 0⟩], []⟩) := rfl
  obtain ⟨worker, met, picks, _⟩ := wakeups_not_lost _ 0 found
  exact ⟨_, worker, found, rfl, met, rfl, (picks 0 ⟨some 0⟩ rfl).1⟩

end Venue

end PeerCluster
