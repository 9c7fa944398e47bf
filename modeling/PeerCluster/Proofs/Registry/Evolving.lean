import PeerCluster.Cluster
import PeerCluster.Proofs.Registry.Delivery

/-! What a registry can become: whatever calls make of it, in one place of a program or another. -/

namespace PeerCluster.Registry

open Machine

/-- The end of several streams is asked for by ending one after the other. -/
theorem after_cancels (registry : Registry) (ids : List Nat) :
    after registry (ids.map .cancel) = (registry.cancelAll ids).value := by
  -- By induction on the streams; each end is one call of its own.
  induction ids generalizing registry with
  | nil => rfl
  | cons id rest ih => exact ih _

/-- Some calls make the one registry of the other. -/
def Evolves (registry left : Registry) : Prop :=
  ∃ calls, left = after registry calls

namespace Evolves

variable {registry middle left : Registry}

/-- A registry is what no calls make of it. -/
theorem refl (registry : Registry) : registry.Evolves registry :=
  ⟨[], rfl⟩

/-- What calls make of what calls made of a registry is what all of them make of it. -/
theorem trans (first : registry.Evolves middle) (second : middle.Evolves left) :
    registry.Evolves left := by
  obtain ⟨calls, rfl⟩ := first
  obtain ⟨more, rfl⟩ := second
  exact ⟨calls ++ more, (after_append ..).symm⟩

/-- Whoever has a handle makes of the registry what the operation does. -/
theorem serve (lives : registry.lives = true) (call : RegistryCall) :
    registry.Evolves (registry.serve call).value.2 :=
  ⟨[call], congrArg (·.value.2) (perform_of_lives lives call).symm⟩

/-- Whoever has a stream can ask it. -/
theorem poll (registry : Registry) (id : Nat) : registry.Evolves (registry.poll id).2 :=
  ⟨[.poll id], rfl⟩

/-- Whoever has a stream can ask it again and again. -/
theorem drain (registry : Registry) (id limit : Nat) :
    registry.Evolves (PeerCluster.drain (Registry.poll id) limit registry).2 :=
  -- Each poll is a call, so any number of them leads to what calls can make.
  drain_kept registry.Evolves (fun before evolves => evolves.trans (.poll before id)) limit
    (.refl registry)

/-- Whoever has a stream can end it. -/
theorem cancel (registry : Registry) (id : Nat) : registry.Evolves (registry.cancel id).value :=
  ⟨[.cancel id], rfl⟩

/-- Whoever has several streams can end them all. -/
theorem cancelAll (registry : Registry) (ids : List Nat) :
    registry.Evolves (registry.cancelAll ids).value :=
  ⟨ids.map .cancel, (registry.after_cancels ids).symm⟩

/-- Whoever is attached before calls is so after them. -/
theorem attached (evolves : registry.Evolves left) (attached : registry.Attached) :
    left.Attached := by
  obtain ⟨calls, rfl⟩ := evolves
  exact attached.run calls

end Evolves

/-- Once several streams have ended none of them listens, and everybody else does as before. -/
theorem listens_cancelAll (registry : Registry) (ids : List Nat) (id : Nat) :
    (registry.cancelAll ids).value.listens id = (decide (id ∉ ids) && registry.listens id) := by
  -- By induction on the streams, of which the first one is cancelled before the others.
  induction ids generalizing registry with
  | nil => simp [cancelAll, Logged.quiet]
  | cons first rest ih =>
    have others := ih (registry.cancel first).value
    rw [listens_cancel] at others
    refine others.trans ?_
    by_cases same : id = first
    · simp [same]
    · simp [same]

end PeerCluster.Registry
