import PeerCluster.Proofs.Fabric.Turn

/-! Whole runs of services that follow registries: tasks come to rest, and pools keep their way. -/

namespace PeerCluster.Fabric

variable {strict : Nat → Projection → Prop} {fabric : Fabric}

/-- A fabric between calls: services are in order, and the agenda names those with turns coming. -/
structure CallInvariant (strict : Nat → Projection → Prop) (fabric : Fabric) : Prop where
  sound : fabric.Sound strict
  idle : fabric.Idle
  lists : Lists fabric.due fabric

/-- A run keeps the invariant, and brings every task to rest. -/
theorem run_callInvariant (invariant : fabric.CallInvariant strict) :
    fabric.run.value.CallInvariant strict ∧ fabric.run.value.due = [] ∧
      ∀ id, fabric.Persists fabric.run.value id := by
  obtain ⟨sound, idle, lists⟩ := invariant
  -- The rounds of a run speak of sound and idle as one property.
  have betweenBatches : fabric.BetweenBatches fun fabric => fabric.Sound strict ∧ fabric.Idle :=
    ⟨⟨sound, idle⟩, lists⟩
  obtain ⟨⟨⟨sound, idle⟩, lists⟩, rest, persists⟩ :=
    turnKeeps_persists.run_betweenBatches betweenBatches
  exact ⟨⟨sound, idle, lists⟩, rest, persists⟩

end PeerCluster.Fabric
