import PeerCluster.Proofs.Fabric.Following

/-! Every call keeps the invariant of a fabric, and only turns change the pools. -/

namespace PeerCluster.Fabric

open Machine

variable {strict : Nat → Projection → Prop} {fabric : Fabric} {ended : Nat → Bool} {id : Nat}
  {service : Service}

/-! ### Picks and holders -/

/-- A pick takes a turn of the balancer, and everything else is left alone. -/
theorem setBalancer_kept (invariant : fabric.CallInvariant strict)
    (found : fabric.services[id]? = some service) {turned : RoundRobin}
    (pool : turned.pool = (fabric.balancer service.balancer).pool)
    (shutDown : turned.shutDown = (fabric.balancer service.balancer).shutDown) :
    (fabric.setBalancer service.balancer turned).CallInvariant strict ∧
      fabric.PoolsKept ended (fabric.setBalancer service.balancer turned) := by
  have touches : Touches service (fabric.balancer service.balancer) turned service :=
    ⟨rfl, rfl, fun serviceFollows => serviceFollows.congr_balancer pool shutDown, .inl rfl⟩
  rw [setBalancer_eq_touch found]
  exact ⟨callInvariant_touch invariant found touches, poolsKept_touch invariant.sound found touches
    (.inl ⟨rfl, pool⟩)⟩

/-- The number of holders matters to nobody else. -/
theorem setOwners_kept (invariant : fabric.CallInvariant strict)
    (found : fabric.services[id]? = some service) (owners : Nat) :
    (fabric.setService id { service with owners }).CallInvariant strict ∧
      fabric.PoolsKept ended (fabric.setService id { service with owners }) := by
  have touches : Touches service (fabric.balancer service.balancer)
      (fabric.balancer service.balancer) { service with owners } := by
    refine ⟨rfl, rfl, fun serviceFollows => ?_, .inl rfl⟩
    cases serviceFollows with
    | ceased ceased leaving => exact .ceased ceased leaving
    | serving serving open_ catchesUp onStream => exact .serving serving open_ catchesUp onStream
  rw [setService_eq_touch fabric id service { service with owners } (Bool.and_not_self _)]
  exact ⟨callInvariant_touch invariant found touches, poolsKept_touch invariant.sound found touches
    (.inl ⟨rfl, rfl⟩)⟩

/-- Who closes a resolver ends its service, and no other. -/
theorem close_kept (invariant : fabric.CallInvariant strict) (ceased : ended id = true) :
    (fabric.close id).value.CallInvariant strict ∧
    fabric.PoolsKept ended (fabric.close id).value := by
  cases found : fabric.services[id]? with
  | none =>
    unfold close
    rw [found]
    exact ⟨invariant, .refl ended fabric⟩
  | some service =>
    -- A task that goes on is told to stop, and all others have let go or will do so anyway.
    have gone := service.resolver.status_moveTo_closed
    have stopped : (service.task.stopped = .aborted ∨ service.task.stopped = .finished) ∧
        (service.task.stopped = service.task ∨
          service.task.stopped = .aborted ∧ service.task ≠ .finished) := by
      cases service.task with
      | parked | ready => exact ⟨.inl rfl, .inr ⟨rfl, nofun⟩⟩
      | aborted => exact ⟨.inl rfl, .inl rfl⟩
      | finished => exact ⟨.inr rfl, .inl rfl⟩
    have touches : Touches service (fabric.balancer service.balancer)
        (fabric.balancer service.balancer).shutdown
        { service with
          resolver := service.resolver.moveTo .closed
          task := service.task.stopped } :=
      ⟨rfl, rfl, fun _ => .ceased gone stopped.1, stopped.2⟩
    rw [close_eq_touch found]
    exact ⟨callInvariant_touch invariant found touches,
      poolsKept_touch invariant.sound found touches (.inr ⟨ceased, gone⟩)⟩

/-- Who drops a resolver can end its service, and no other. -/
theorem release_kept (invariant : fabric.CallInvariant strict) (ceased : ended id = true) :
    (fabric.releaseService id).value.CallInvariant strict ∧
      fabric.PoolsKept ended (fabric.releaseService id).value := by
  unfold releaseService
  cases found : fabric.services[id]? with
  | none => exact ⟨invariant, .refl ended fabric⟩
  | some service =>
    have fewer : _ ∧ fabric.PoolsKept (fun _ => false) _ :=
      setOwners_kept invariant found (service.owners - 1)
    dsimp only
    split
    · -- The last holder closes it.
      have closed := close_kept fewer.1 ceased
      have both := fewer.2.trans closed.2
      simp only [Bool.false_or] at both
      exact ⟨closed.1, both⟩
    · exact setOwners_kept invariant found _

/-! ### Calls -/

/-- A call without turns keeps the invariant, and every pool but those that it ends. -/
theorem next_poolsKept (invariant : fabric.CallInvariant strict)
    (distinct : ∀ registry projection, strict registry projection →
      ((fabric.registry registry).members.map projection.project).Nodup)
    {call : FabricCall} (idle : call.runs = false) :
    (next fabric call).CallInvariant strict ∧ fabric.PoolsKept (call.ends ·)
    (next fabric call) := by
  show (fabric.perform call).value.2.CallInvariant strict ∧
    fabric.PoolsKept (call.ends ·) (fabric.perform call).value.2
  have unchanged : fabric.CallInvariant strict ∧ fabric.PoolsKept (call.ends ·) fabric :=
    ⟨invariant, .refl _ fabric⟩
  unfold perform
  cases call with
  | openRegistry =>
    exact ⟨(extends_addRegistry fabric).invariant invariant,
      (extends_addRegistry fabric).poolsKept _⟩
  | membership id asked =>
    dsimp only
    split
    · -- Nobody but its task reaches the stream of a service.
      rename_i reaches
      obtain ⟨inside, open_⟩ := Bool.and_eq_true_iff.mp reaches
      refine ⟨callInvariant_setRegistry invariant (by simpa using inside)
        ((fabric.registry id).step asked) ?_ (distinct id), fabric.poolsKept_setRegistry id _ _⟩
      intro subscription names
      change asked.stream? = some subscription at names
      simpa [names] using open_
    · exact unchanged
  | follow id projection runtime =>
    dsimp only
    split
    · rename_i reached
      obtain ⟨reaches, lives⟩ := Bool.and_eq_true_iff.mp reached
      obtain ⟨inside, _⟩ := Bool.and_eq_true_iff.mp reaches
      exact follow_kept invariant (by simpa using inside) lives (distinct id) projection runtime _
    · exact unchanged
  | pick id pick =>
    dsimp only [pollPick]
    cases found : fabric.services[id]? with
    | none => exact unchanged
    | some service =>
      -- A pick moves the place where the next turn falls, and nothing else.
      obtain ⟨pool, shutDown, _⟩ :=
        pick.poll_eq service.resolver (fabric.balancer service.balancer)
      exact setBalancer_kept invariant found pool shutDown
  | pickNext id stream =>
    dsimp only [pollPicks]
    cases found : fabric.services[id]? with
    | none => exact unchanged
    | some service =>
      obtain ⟨pool, shutDown, _⟩ :=
        stream.poll_eq service.resolver (fabric.balancer service.balancer)
      exact setBalancer_kept invariant found pool shutDown
  | retain id =>
    dsimp only [retainService]
    cases found : fabric.services[id]? with
    | none => exact unchanged
    | some service => exact setOwners_kept invariant found (service.owners + 1)
  | release id => exact release_kept invariant (by simp [FabricCall.ends])
  | close id => exact close_kept invariant (by simp [FabricCall.ends])
  | run => cases idle

end PeerCluster.Fabric
