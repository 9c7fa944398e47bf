import PeerCluster.Proofs.Fabric.Violations
import PeerCluster.Session.Slot

/-! Nothing but the work of tasks makes a resolver fail. -/

namespace PeerCluster.Fabric

/-- Whoever has failed had failed before, and over the same error. -/
def NoNewFailure (fabric result : Fabric) : Prop :=
  ∀ (id : Nat) error source, result.standings[id]? = some (.failed error, source) →
    fabric.standings[id]? = some (.failed error, source)

variable {fabric middle result : Fabric} {id : Nat}

namespace NoNewFailure

/-- Nobody fails when services stand as before. -/
theorem of_standings (same : result.standings = fabric.standings) : fabric.NoNewFailure result :=
  fun _ _ _ failed => same ▸ failed

/-- Nobody fails by what makes nobody fail twice. -/
theorem trans (first : fabric.NoNewFailure middle) (second : middle.NoNewFailure result) :
    fabric.NoNewFailure result :=
  -- A failure is traced back through the second step and then through the first.
  fun id error source failed => first id error source (second id error source failed)

/-- Nobody fails when a service that is put back has failed only if it had before. -/
theorem put {before after : ResolverStatus × EventSource}
    (found : fabric.standings[id]? = some before)
    (standings : result.standings = fabric.standings.set id after)
    (same : ∀ error source, after = (.failed error, source) → before = after) :
    fabric.NoNewFailure result := by
  -- The failure is looked up where something was put, or elsewhere.
  intro other error source failed
  rw [standings, List.getElem?_set] at failed
  split at failed
  · rename_i here
    subst here
    split at failed
    · -- It is found in the service put back, which then was put back as it stood.
      have stands := Option.some.inj failed
      rw [found, same error source stands, stands]
    · cases failed
  · exact failed

/-- A service that was added has not failed yet. -/
theorem concat {newest : ResolverStatus × EventSource}
    (standings : result.standings = fabric.standings ++ [newest])
    (serving : newest.1 = .serving) : fabric.NoNewFailure result := by
  -- The failure is looked up among the old services, or in the new one.
  intro other error source failed
  rw [standings, List.getElem?_append] at failed
  split at failed
  · exact failed
  · -- The new one serves, so it cannot be the one that has failed.
    obtain rfl := List.mem_singleton.mp (List.mem_of_getElem? failed)
    cases serving

end NoNewFailure

/-- Nobody fails by what is asked of a registry. -/
theorem noNewFailure_onRegistry {α : Type} (fabric : Fabric) (home : Nat)
    (step : Registry → Logged (α × Registry)) :
    fabric.NoNewFailure (fabric.onRegistry home step).value.2 :=
  .of_standings (standings_setRegistry _ _)

/-- Nobody fails when something is sent. -/
theorem noNewFailure_send (fabric : Fabric) (id : Nat) (kind : NotificationKind)
    (target : Endpoint) :
    fabric.NoNewFailure (fabric.send id kind target).2 := by
  unfold send
  dsimp only
  -- A feed may take the notification or be closed to it; services are no part of either.
  split
  · exact .of_standings (standings_setFeed _ _)
  · exact .of_standings rfl

/-- Nobody fails when a service is created, or cannot be. -/
theorem noNewFailure_addService (fabric : Fabric) (role : String) (balancer : Nat)
    (source : EventSource)
    (runtime : Bool) :
    fabric.NoNewFailure (fabric.addService role balancer source runtime).value.2 := by
  -- Without a runtime nothing is created, and the source is let go of.
  cases runtime with
  | true =>
    have standings : (fabric.addService role balancer source true).value.2.standings =
        fabric.standings ++ [(.serving, source)] := List.map_append
    exact .concat standings rfl
  | false => exact .of_standings (standings_letGo source)

/-- Nobody fails when a service is created that follows a registry. -/
theorem noNewFailure_follow (fabric : Fabric) (home : Nat) (projection : Projection)
    (runtime : Bool) :
    fabric.NoNewFailure (fabric.follow home projection runtime).value.2 := by
  -- First the stream is opened, which no service notices.
  have opened : fabric.NoNewFailure ((fabric.setRegistry home
      (fabric.registry home).subscribe.value.2).addBalancer.2) :=
    .of_standings (standings_setRegistry _ _)
  exact opened.trans (noNewFailure_addService _ _ _ _ _)

/-- A task that is told to stop leaves its service as it is put back. -/
theorem standings_abort (fabric : Fabric) (id : Nat) (service : Service) :
    (fabric.abort id service).standings = fabric.standings.set id service.standing := by
  unfold abort
  -- Whatever its phase, the task is all that is told.
  cases service.task with
  | parked | ready | aborted | finished => exact List.map_set

/-- Nobody fails when a resolver is closed. -/
theorem noNewFailure_close (fabric : Fabric) (id : Nat) :
    fabric.NoNewFailure (fabric.close id).value := by
  unfold close
  cases found : fabric.services[id]? with
  | none => exact .of_standings rfl
  | some service =>
    have met : fabric.standings[id]? = some service.standing := by simp [standings, found]
    refine .put met (standings_abort _ _ _) fun error source failed => ?_
    -- Whoever has failed is not closed any more.
    obtain ⟨status, _⟩ := Prod.mk.inj failed
    change (service.resolver.moveTo .closed).status = .failed error at status
    by_cases serving : service.resolver.status = .serving
    · rw [Resolver.moveTo_of_serving serving] at status
      cases status
    · show (service.resolver.status, service.source) =
        ((service.resolver.moveTo .closed).status, service.source)
      rw [Resolver.moveTo_of_over serving]

/-- Nobody fails when there is one more holder of a resolver. -/
theorem noNewFailure_retainService (fabric : Fabric) (id : Nat) :
    fabric.NoNewFailure (fabric.retainService id) := by
  unfold retainService
  cases found : fabric.services[id]? with
  | none => exact .of_standings rfl
  | some service =>
    have met : fabric.standings[id]? = some service.standing := by simp [standings, found]
    exact .put met (standings_setService _ _) fun _ _ _ => rfl

/-- Nobody fails when there is one holder of a resolver less. -/
theorem noNewFailure_releaseService (fabric : Fabric) (id : Nat) :
    fabric.NoNewFailure (fabric.releaseService id).value := by
  unfold releaseService
  cases found : fabric.services[id]? with
  | none => exact .of_standings rfl
  | some service =>
    have met : fabric.standings[id]? = some service.standing := by simp [standings, found]
    have fewer : fabric.NoNewFailure (fabric.setService id
        -- One owner less is no failure, and what follows for the last one is a close.
        { service with owners := service.owners - 1 }) :=
      .put met (standings_setService _ _) fun _ _ _ => rfl
    dsimp only
    split
    · exact fewer.trans (noNewFailure_close _ id)
    · exact fewer

/-- Nobody fails by a pick. -/
theorem noNewFailure_pollPick (fabric : Fabric) (id : Nat) (pick : Pick) :
    fabric.NoNewFailure (fabric.pollPick id pick).2.2 := by
  -- A pick changes the balancer at most.
  unfold pollPick
  split <;> exact .of_standings rfl

/-- Nobody fails by a stream of picks. -/
theorem noNewFailure_pollPicks (fabric : Fabric) (id : Nat) (stream : PickStream) :
    fabric.NoNewFailure (fabric.pollPicks id stream).2.2 := by
  -- So does a stream of picks.
  unfold pollPicks
  split <;> exact .of_standings rfl

/-- Nobody fails when an object is dropped. -/
theorem noNewFailure_dropSlot (fabric : Fabric) (object : Slot) :
    fabric.NoNewFailure (fabric.dropSlot object).value := by
  -- An object is dropped by what it refers to, and none of these ends makes a resolver fail.
  cases object with
  | registry | view | cluster | stream | projected =>
    exact .of_standings (standings_setRegistry _ _)
  | feed => exact .of_standings (standings_setFeed _ _)
  | resolver | pick => exact fabric.noNewFailure_releaseService _
  | probe | balancer | picks => exact .of_standings rfl

end PeerCluster.Fabric
