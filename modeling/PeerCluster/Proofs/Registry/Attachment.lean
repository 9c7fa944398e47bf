import PeerCluster.Proofs.Registry.Effects

/-! A registry that lives sends to exactly the streams that were opened and have not ended since. -/

namespace PeerCluster.Registry

open Machine

/-- As long as a registry lives, its subscribers are the ids given out that listen, in order. -/
def Attached (registry : Registry) : Prop :=
  -- Once the last handle is gone nothing is sent any more, and the list is left as it is.
  registry.lives = true →
    registry.subscribers = (List.range registry.nextId).filter registry.listens

/-- Listening is a matter of the one subscription with an id. -/
theorem listens_eq (registry : Registry) (id : Nat) :
    registry.listens id = registry.subscriptions[id]?.any (!·.cancelled) := by
  unfold listens
  cases registry.subscriptions[id]? <;> rfl

/-- Only ids that were given out can listen. -/
theorem lt_nextId_of_listens {registry : Registry} {id : Nat} (listens : registry.listens id) :
    id < registry.nextId := by
  -- Past the last id there is no subscription, and one that is not there cannot listen.
  refine Nat.lt_of_not_le fun outside => ?_
  have absent : registry.subscriptions[id]? = none := Array.getElem?_eq_none outside
  simp [listens_eq, absent] at listens

/-- A poll makes nobody listen or stop listening. -/
theorem listens_poll (registry : Registry) (id : Nat) :
    (registry.poll id).2.listens = registry.listens := by
  -- A poll rewrites one subscription, and does not cancel it.
  funext other
  rw [listens_eq, subscriptions_poll]
  split
  · rw [listens_eq, Option.any_map]
    simp only [Subscription.cancelled_poll]
  · rw [listens_eq]

/-- After the end of a subscription everybody else listens as before. -/
theorem listens_cancel (registry : Registry) (id other : Nat) :
    (registry.cancel id).value.listens other = (decide (other ≠ id) && registry.listens other) := by
  rw [listens_eq, subscriptions_cancel]
  -- The subscription that ends is cancelled, whatever it was, and others are as stored.
  by_cases same : other = id
  · rw [if_pos same, Option.any_map]
    cases registry.subscriptions[other]? <;> simp [same]
  · rw [if_neg same, listens_eq]
    simp [same]

/-- Whoever opens a stream listens, and everybody else listens as before. -/
theorem listens_subscribe (registry : Registry) (id : Nat) :
    registry.subscribe.value.2.listens id =
      if id = registry.nextId then true else registry.listens id := by
  have placed : registry.subscribe.value.2.subscriptions =
      registry.subscriptions.push (.startingAt registry.members) := rfl
  -- The size of the array is the place of the new subscription.
  rw [listens_eq, placed, Array.getElem?_push, nextId]
  split
  · rfl
  · rw [listens_eq]

namespace Attached

variable {registry : Registry}

/-- The subscribers of a living registry are those who listen. -/
theorem mem_subscribers_iff (attached : registry.Attached) (lives : registry.lives = true)
    (id : Nat) : id ∈ registry.subscribers ↔ registry.listens id = true := by
  -- The list filters all ids by whether they listen, so only the bound on ids is left to see.
  rw [attached lives, List.mem_filter, List.mem_range]
  exact ⟨And.right, fun listens => ⟨lt_nextId_of_listens listens, listens⟩⟩

/-- Nobody is on the list of subscribers twice. -/
theorem nodup (attached : registry.Attached) (lives : registry.lives = true) :
    registry.subscribers.Nodup := by
  -- A range has no id twice, and filtering it adds none.
  rw [attached lives]
  exact List.nodup_range.filter _

/-- What a change makes of each subscription. -/
theorem subscriptions_announce (attached : registry.Attached) (lives : registry.lives = true)
    (members : List PeerAddress) (event : MemberEvent) (id : Nat) :
    (registry.announce members event).subscriptions[id]? =
      if registry.listens id then registry.subscriptions[id]?.map (·.receive event)
      else registry.subscriptions[id]? := by
  rw [registry.subscriptions_announce members event (attached.nodup lives)]
  simp only [attached.mem_subscribers_iff lives]

/-- A change makes nobody listen or stop listening. -/
theorem listens_announce (attached : registry.Attached) (lives : registry.lives = true)
    (members : List PeerAddress) (event : MemberEvent) :
    (registry.announce members event).listens = registry.listens := by
  -- To receive a change is no reason to stop listening.
  funext id
  rw [listens_eq, attached.subscriptions_announce lives]
  split
  · rw [listens_eq, Option.any_map]
    rfl
  · rw [listens_eq]

/-- Nobody is struck off the list of subscribers when a change is sent. -/
theorem announce (attached : registry.Attached) (lives : registry.lives = true)
    (members : List PeerAddress) (event : MemberEvent) :
    (registry.announce members event).Attached := by
  intro _
  rw [nextId_announce, attached.listens_announce lives]
  -- Those struck off are the subscribers who do not listen, and there is none.
  show registry.subscribers.filter registry.listens = _
  rw [attached lives, List.filter_filter]
  simp only [Bool.and_self]

/-- A new subscriber comes last, and listens. -/
theorem subscribe (attached : registry.Attached) : registry.subscribe.value.2.Attached := by
  intro lives
  -- The ids that were given out are now one more, and it is the last one.
  show registry.subscribers ++ [registry.nextId] = _
  have newest : registry.subscribe.value.2.listens registry.nextId = true := by
    rw [listens_subscribe, if_pos rfl]
  have others : ∀ id ∈ List.range registry.nextId,
      registry.subscribe.value.2.listens id = registry.listens id := by
    intro id member
    rw [listens_subscribe, if_neg (Nat.ne_of_lt (List.mem_range.mp member))]
  rw [nextId_subscribe, List.range_succ, List.filter_append, List.filter_cons_of_pos newest,
    List.filter_congr others, ← attached lives]
  rfl

/-- Whoever is attached when a stream is polled stays so. -/
theorem poll (attached : registry.Attached) (id : Nat) : (registry.poll id).2.Attached := by
  -- Handles are left alone by a poll, so the registry lived before it.
  intro lives
  rw [nextId_poll, listens_poll]
  rw [poll_frame] at lives ⊢
  exact attached lives

/-- The end of a subscription takes its id off the list, whether or not it was still there. -/
theorem subscribers_cancel (attached : registry.Attached) (lives : registry.lives = true)
    (id : Nat) : (registry.cancel id).value.subscribers = registry.subscribers.filter (· ≠ id) := by
  -- Who does not listen is not on the list, so there is nothing to take off.
  have absent (deaf : registry.listens id = false) :
      registry.subscribers = registry.subscribers.filter (· ≠ id) := by
    refine (List.filter_eq_self.mpr fun other member => ?_).symm
    have listens := (attached.mem_subscribers_iff lives other).mp member
    have different : other ≠ id := by
      rintro rfl
      simp [deaf] at listens
    simp [different]
  unfold Registry.cancel
  cases found : registry.subscriptions[id]? with
  | none => exact absent (by simp [listens_eq, found])
  | some subscription =>
    by_cases cancelled : subscription.cancelled
    · simp only [cancelled, if_true]
      exact absent (by simp [listens_eq, found, cancelled])
    · have listens : registry.listens id = true := by simp [listens_eq, found, cancelled]
      -- It is on the list, and detaching takes it off, as the registry can still be reached.
      have member := (attached.mem_subscribers_iff lives id).mpr listens
      have reached : registry.handles ≠ 0 := by simpa [Registry.lives] using lives
      simp [cancelled, detach, Registry.lives, reached, member]

/-- The end of a subscription detaches that one. -/
theorem cancel (attached : registry.Attached) (id : Nat) :
    (registry.cancel id).value.Attached := by
  -- Handles are left alone by the end of a stream, so the registry lived before it.
  intro lives
  have lives : registry.lives = true := by
    rw [cancel_frame] at lives
    exact lives
  rw [attached.subscribers_cancel lives, nextId_cancel, attached lives, List.filter_filter]
  -- Off the list means not this one, and not listening means cancelled; both say the same.
  refine List.filter_congr fun other _ => ?_
  rw [listens_cancel]

/-- Whoever is attached before a call is so after it. -/
theorem step (attached : registry.Attached) {entry : Exchange RegistryCall RegistryAnswer}
    {result : Registry} (step : registry.Step entry result) : result.Attached := by
  cases step with
  | unreachable => exact attached
  | joined peer lives => exact attached.announce lives _ _
  | left found lives => exact attached.announce lives _ _
  | missed => exact attached
  | opened => exact attached.subscribe
  -- The list is that of a living registry, from which one more or one less handle takes nothing.
  | retained lives => exact fun _ => attached lives
  | released lives => exact fun _ => attached lives
  | polled id => exact attached.poll id
  | ended id => exact attached.cancel id

/-- Whoever is attached before calls is so after them. -/
theorem run (attached : registry.Attached) (calls : List RegistryCall) :
    -- Each call is a step, and each step keeps subscribers attached.
    (after registry calls).Attached :=
  after_of_kept (fun registry call attached _ => attached.step (registry.step call)) attached
    fun _ _ => trivial

end Attached

/-- The registry without members has no subscribers, and nobody listens to it. -/
theorem attached_empty : empty.Attached := fun _ => rfl

end PeerCluster.Registry
