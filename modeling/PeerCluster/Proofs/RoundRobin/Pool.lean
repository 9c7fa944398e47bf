import PeerCluster.Proofs.Event.View
import PeerCluster.RoundRobin

/-! The pool of a balancer is a view of the changes it was told of, and turns leave it alone. -/

namespace PeerCluster.RoundRobin

/-- Whoever is taken out is the oldest equal candidate. -/
theorem discard_eq (balancer : RoundRobin) (candidate : Endpoint) :
    (balancer.discard candidate).value.pool = balancer.pool.erase candidate ∧
      (balancer.discard candidate).value.shutDown = balancer.shutDown := by
  -- Erasing by value is erasing at the first position that has the value.
  unfold discard
  rw [List.erase_eq_eraseP', List.eraseP_eq_eraseIdx]
  cases balancer.pool.findIdx? (· == candidate) with
  | none => exact ⟨rfl, rfl⟩
  | some position => exact ⟨rfl, rfl⟩

/-- The pool of a balancer that is not shut down follows each change like any other view. -/
theorem onEvent_of_open {balancer : RoundRobin} (open_ : balancer.shutDown = false)
    (event : ChangeEvent Endpoint) :
    (balancer.onEvent event).value.pool = event.applyTo balancer.pool ∧
      (balancer.onEvent event).value.shutDown = false := by
  -- The flag is not set, so each change reaches the pool in its own way.
  unfold onEvent
  rw [open_]
  cases event with
  | add candidate => exact ⟨rfl, rfl⟩
  | remove candidate =>
    obtain ⟨pool, shutDown⟩ := balancer.discard_eq candidate
    exact ⟨pool, shutDown.trans open_⟩

/-- A turn goes to one of the candidates, and leaves all of them in the pool. -/
theorem choose_eq (balancer : RoundRobin) :
    balancer.choose.2.pool = balancer.pool ∧ balancer.choose.2.shutDown = balancer.shutDown ∧
      ∀ candidate, balancer.choose.1 = some candidate → candidate ∈ balancer.pool := by
  -- Only the cursor moves, and a candidate chosen stands where the cursor was.
  unfold choose
  by_cases ceased : balancer.shutDown = true
  · simp [ceased]
  · rw [if_neg ceased]
    dsimp only
    split
    · exact ⟨rfl, rfl, nofun⟩
    · rename_i found
      refine ⟨rfl, rfl, ?_⟩
      rintro candidate ⟨⟩
      exact List.mem_of_getElem? found

/-- Without candidates there is no turn to give, and nothing changes. -/
theorem choose_of_none {balancer : RoundRobin}
    (none : balancer.shutDown = true ∨ balancer.pool = []) :
    balancer.choose = (Option.none, balancer) := by
  -- Either way the search at the cursor finds no candidate, so the cursor stays where it was.
  unfold choose
  rcases none with ended | empty
  · simp [ended]
  · simp [empty]

/-- Only a pool without candidates has no turn to give, as long as it is not shut down. -/
theorem pool_eq_nil_of_choose {balancer left : RoundRobin} (open_ : balancer.shutDown = false)
    (nobody : balancer.choose = (none, left)) : balancer.pool = [] ∧ left = balancer := by
  unfold choose at nobody
  rw [open_] at nobody
  simp only [Bool.false_eq_true, if_false] at nobody
  split at nobody
  · rename_i missing
    refine ⟨List.eq_nil_of_length_eq_zero ?_, (Prod.mk.inj nobody).2.symm⟩
    -- The cursor is taken round the pool, so it points into every pool that is not empty.
    have outside := List.getElem?_eq_none_iff.mp missing
    rcases Nat.eq_zero_or_pos balancer.pool.length with empty | some
    · exact empty
    · exact absurd (Nat.mod_lt _ some) (Nat.not_lt_of_le outside)
  · cases nobody

end PeerCluster.RoundRobin
