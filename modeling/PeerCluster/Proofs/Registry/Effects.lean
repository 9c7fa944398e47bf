import PeerCluster.Proofs.Registry.Calls

/-! What operations do to the membership, to the handles, and to each single subscription. -/

namespace PeerCluster

namespace Subscription

/-- What remains of a subscription when it ends; a second end changes nothing. -/
def ended (subscription : Subscription) : Subscription :=
  if subscription.cancelled then subscription else subscription.cancel

/-- An ended subscription is cancelled. -/
@[simp] theorem cancelled_ended (subscription : Subscription) :
    subscription.ended.cancelled = true := by
  -- It was cancelled before, or it is cancelled now.
  unfold ended
  split
  · assumption
  · rfl

/-- What a poll does: nothing once cancelled, else it takes the first item that is left. -/
theorem poll_cases (lives : Bool) (subscription : Subscription) :
    (subscription.cancelled = true ∧ subscription.poll lives = (.finished, subscription)) ∨
    (subscription.cancelled = false ∧
      ((∃ peer rest, subscription.replay = peer :: rest ∧
        subscription.poll lives = (.ready (.add peer), { subscription with replay := rest })) ∨
      (∃ event rest, subscription.replay = [] ∧
        subscription.live.toList = event :: rest.toList ∧
        subscription.poll lives =
          (.ready event, { subscription with
            live := rest, delivered := subscription.delivered + 1 })) ∨
      (subscription.replay = [] ∧ subscription.live.toList = [] ∧
        subscription.poll lives = (if lives then .pending else .finished, subscription)))) := by
  -- The replay is used up first; what a queue lets go of is its first item.
  cases cancelled : subscription.cancelled with
  | true => exact .inl ⟨rfl, by simp [poll, cancelled]⟩
  | false =>
    refine .inr ⟨rfl, ?_⟩
    cases replay : subscription.replay with
    | cons peer rest => exact .inl ⟨peer, rest, rfl, by simp [poll, cancelled, replay]⟩
    | nil =>
      have front := subscription.live.map_toList_pop?
      cases popped : subscription.live.pop? with
      | none =>
        have empty : subscription.live.toList = [] := by simpa [popped] using front
        exact .inr (.inr ⟨rfl, empty, by simp [poll, cancelled, replay, popped]⟩)
      | some taken =>
        obtain ⟨event, rest⟩ := taken
        have items : subscription.live.toList = event :: rest.toList := by
          simp only [popped, Option.map_some] at front
          split at front
          · simp at front
          · exact (Option.some.inj front).symm
        exact .inr (.inl ⟨event, rest, rfl, items, by simp [poll, cancelled, replay, popped]⟩)

/-- A poll does not cancel. -/
@[simp] theorem cancelled_poll (lives : Bool) (subscription : Subscription) :
    (subscription.poll lives).2.cancelled = subscription.cancelled := by
  -- Every answer leaves the flag alone.
  rcases poll_cases lives subscription with ⟨_, poll⟩ | ⟨_, ⟨_, _, _, poll⟩ | ⟨_, _, _, _, poll⟩ |
    ⟨_, _, poll⟩⟩
  all_goals rw [poll]

end Subscription

namespace Registry

variable (registry : Registry)

/-- Applying a change at each of several positions applies it at every one of them once. -/
theorem getElem?_foldl_modify {α : Type} {change : α → α} {ids : List Nat} (distinct : ids.Nodup)
    (items : Array α) (id : Nat) :
    (ids.foldl (fun all id => all.modify id change) items)[id]? =
      if id ∈ ids then items[id]?.map change else items[id]? := by
  -- A position that comes up does not come up again, so its item is changed only then.
  induction ids generalizing items with
  | nil => simp
  | cons first rest ih =>
    obtain ⟨fresh, distinct⟩ := List.nodup_cons.mp distinct
    rw [List.foldl_cons, ih distinct, Array.getElem?_modify]
    by_cases same : id = first
    · subst same
      simp [fresh]
    · simp [same, Ne.symm same]

/-- Changing items keeps their number. -/
theorem size_foldl_modify {α : Type} {change : α → α} (ids : List Nat) (items : Array α) :
    (ids.foldl (fun all id => all.modify id change) items).size = items.size := by
  -- By induction on the positions, each of which keeps the size.
  induction ids generalizing items with
  | nil => rfl
  | cons first rest ih => rw [List.foldl_cons, ih, Array.size_modify]

/-! ### Changes -/

/-- A change opens no subscription. -/
@[simp] theorem nextId_announce (members : List PeerAddress) (event : MemberEvent) :
    (registry.announce members event).nextId = registry.nextId :=
  size_foldl_modify _ _

/-- Every subscriber receives a change, once. -/
theorem subscriptions_announce (members : List PeerAddress) (event : MemberEvent)
    (distinct : registry.subscribers.Nodup) (id : Nat) :
    (registry.announce members event).subscriptions[id]? =
      if id ∈ registry.subscribers then registry.subscriptions[id]?.map (·.receive event)
      else registry.subscriptions[id]? :=
  getElem?_foldl_modify distinct _ _

/-! ### Streams -/

/-- A new subscription takes the next id. -/
@[simp] theorem nextId_subscribe : registry.subscribe.value.2.nextId = registry.nextId + 1 :=
  Array.size_push _

/-- A poll concerns one subscription. -/
theorem poll_eq (id : Nat) :
    registry.poll id =
      match registry.subscriptions[id]? with
      | none => (.finished, registry)
      | some subscription =>
        ((subscription.poll registry.lives).1,
          { registry with
            subscriptions :=
              registry.subscriptions.setIfInBounds id (subscription.poll registry.lives).2 }) := rfl

/-- A poll takes from the subscription asked, and from no other. -/
theorem subscriptions_poll (asked id : Nat) :
    (registry.poll asked).2.subscriptions[id]? =
      if id = asked then registry.subscriptions[id]?.map (·.poll registry.lives |>.2)
      else registry.subscriptions[id]? := by
  -- The poll writes back to the position asked, if there is such a position.
  rw [poll_eq]
  cases found : registry.subscriptions[asked]? with
  | none =>
    by_cases same : id = asked
    · simp [same, found]
    · simp [same]
  | some subscription =>
    simp only [Array.getElem?_setIfInBounds]
    by_cases same : asked = id
    · subst same
      obtain ⟨inside, rfl⟩ := Array.getElem?_eq_some_iff.mp found
      simp [inside]
    · simp [same, Ne.symm same]

/-- A poll leaves everything but subscriptions alone. -/
theorem poll_frame (id : Nat) :
    (registry.poll id).2 =
      { registry with subscriptions := (registry.poll id).2.subscriptions } := by
  -- Without a subscription nothing is written at all.
  rw [poll_eq]
  cases registry.subscriptions[id]? <;> rfl

/-- A poll opens no subscription. -/
@[simp] theorem nextId_poll (id : Nat) : (registry.poll id).2.nextId = registry.nextId := by
  rw [poll_eq]
  cases registry.subscriptions[id]? <;> simp [nextId]

/-- Detaching a subscriber leaves everything but the list of subscribers alone. -/
theorem detach_frame (id : Nat) :
    (registry.detach id).value =
      { registry with subscribers := (registry.detach id).value.subscribers } := by
  -- Whoever is not on the list is not taken off it.
  unfold detach
  split <;> rfl

/-- The end of a subscription ends that one, and no other. -/
theorem subscriptions_cancel (asked id : Nat) :
    (registry.cancel asked).value.subscriptions[id]? =
      if id = asked then registry.subscriptions[id]?.map Subscription.ended
      else registry.subscriptions[id]? := by
  unfold cancel
  cases found : registry.subscriptions[asked]? with
  | none =>
    by_cases same : id = asked
    · simp [same, found, Logged.quiet]
    · simp [same, Logged.quiet]
  | some subscription =>
    by_cases cancelled : subscription.cancelled
    · -- A second end changes nothing.
      by_cases same : id = asked
      · simp [same, found, cancelled, Logged.quiet, Subscription.ended]
      · simp [same, cancelled, Logged.quiet]
    · -- The first end writes the subscription back, and then takes it off the list.
      simp only [cancelled, if_false, Bool.false_eq_true]
      rw [detach_frame]
      simp only [Array.getElem?_setIfInBounds]
      by_cases same : asked = id
      · subst same
        obtain ⟨inside, rfl⟩ := Array.getElem?_eq_some_iff.mp found
        simp [inside, Subscription.ended, cancelled]
      · simp [same, Ne.symm same]

/-- The end of a subscription leaves everything but subscriptions and subscribers alone. -/
theorem cancel_frame (id : Nat) :
    (registry.cancel id).value =
      { registry with
        subscribers := (registry.cancel id).value.subscribers
        subscriptions := (registry.cancel id).value.subscriptions } := by
  -- By the same branches as the operation: no subscription, an ended one, an open one.
  unfold cancel
  cases registry.subscriptions[id]? with
  | none => rfl
  | some subscription =>
    by_cases cancelled : subscription.cancelled
    · simp [cancelled, Logged.quiet]
    · simp only [cancelled, if_false, Bool.false_eq_true]
      rw [detach_frame]

/-- The end of a subscription keeps its id in use. -/
@[simp] theorem nextId_cancel (id : Nat) : (registry.cancel id).value.nextId = registry.nextId := by
  unfold cancel nextId
  cases registry.subscriptions[id]? with
  | none => rfl
  | some subscription =>
    by_cases cancelled : subscription.cancelled
    · simp [cancelled, Logged.quiet]
    · simp only [cancelled, if_false, Bool.false_eq_true]
      rw [detach_frame]
      simp

end Registry

end PeerCluster
