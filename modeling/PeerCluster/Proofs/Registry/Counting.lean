import PeerCluster.Proofs.Registry.Rebuilding

/-! Who is on the list of subscribers, under which id, and what the counters of each stream tell. -/

namespace PeerCluster

/-! ### One subscription -/

namespace Subscription

/-- What was sent was taken or waits, and nothing is taken before all members were replayed. -/
structure Balanced (subscription : Subscription) : Prop where
  sent : subscription.published = subscription.delivered + subscription.live.length
  ordered : subscription.delivered = 0 ∨ subscription.replay = []

/-- Nothing was sent yet to a subscription that starts. -/
theorem balanced_startingAt (members : List PeerAddress) : (startingAt members).Balanced :=
  ⟨rfl, .inl rfl⟩

/-- What was sent tells how many changes wait, which is never too few to be told. -/
theorem Balanced.depth_eq {subscription : Subscription} (balanced : subscription.Balanced) :
    subscription.depth = subscription.live.length := by
  have sent := balanced.sent
  unfold depth
  omega

end Subscription

namespace Registry

open Machine

/-- What a call makes of the subscription with an id. -/
inductive Handles (registry : Registry) (entry : Exchange RegistryCall RegistryAnswer) (id : Nat)
    (subscription : Subscription) : Subscription → Prop where
  /-- There is nothing to send to it. -/
  | spared (unchanged : subscription.cancelled = false → entry.change? = none)
      (kept : entry.call ≠ .cancel id) : Handles registry entry id subscription subscription
  | sent {event : MemberEvent} (open_ : subscription.cancelled = false)
      (change : entry.change? = some event) (kept : entry.call ≠ .cancel id) :
      Handles registry entry id subscription (subscription.receive event)
  | asked (call : entry.call = .poll id) (unchanged : entry.change? = none) :
      Handles registry entry id subscription (subscription.poll registry.lives).2
  | ended (call : entry.call = .cancel id) :
      Handles registry entry id subscription subscription.ended

variable {registry result : Registry} {entry : Exchange RegistryCall RegistryAnswer} {id : Nat}
  {subscription left : Subscription}

/-- A change is sent to a subscription unless it has ended. -/
theorem Attached.handles_announce (attached : registry.Attached) (lives : registry.lives = true)
    (members : List PeerAddress) {event : MemberEvent} (change : entry.change? = some event)
    (kept : entry.call ≠ .cancel id) (found : registry.subscriptions[id]? = some subscription) :
    ∃ left, (registry.announce members event).subscriptions[id]? = some left ∧
      registry.Handles entry id subscription left := by
  rw [attached.subscriptions_announce lives, listens_eq, found]
  -- Whoever has ended is sent nothing, also if it is stored.
  cases cancelled : subscription.cancelled with
  | false => exact ⟨_, by simp [cancelled], .sent cancelled change kept⟩
  | true => exact ⟨_, by simp [cancelled], .spared (by simp [cancelled]) kept⟩

/-- Every call does one of these to a subscription. -/
theorem Step.handles (step : registry.Step entry result) (attached : registry.Attached)
    (found : registry.subscriptions[id]? = some subscription) :
    ∃ left, result.subscriptions[id]? = some left ∧
      registry.Handles entry id subscription left := by
  cases step with
  -- A call that is not answered ends no stream, for that needs no handle.
  | @unreachable call handle =>
    have kept : call ≠ .cancel id := by
      rintro rfl
      cases handle
    exact ⟨subscription, found, .spared (fun _ => by cases call <;> rfl) kept⟩
  | joined peer lives => exact attached.handles_announce lives _ rfl nofun found
  | left _ lives => exact attached.handles_announce lives _ rfl nofun found
  | missed => exact ⟨subscription, found, .spared (fun _ => rfl) nofun⟩
  | opened =>
    -- The new subscription is pushed behind this one.
    refine ⟨subscription, ?_, .spared (fun _ => rfl) nofun⟩
    have older : id < registry.subscriptions.size := (Array.getElem?_eq_some_iff.mp found).1
    show (registry.subscriptions.push _)[id]? = _
    rw [Array.getElem?_push_lt older, ← Array.getElem?_eq_getElem, found]
  | retained => exact ⟨subscription, found, .spared (fun _ => rfl) nofun⟩
  | released => exact ⟨subscription, found, .spared (fun _ => rfl) nofun⟩
  | polled asked =>
    -- The poll may be of this stream, or of another one.
    rw [subscriptions_poll, found]
    by_cases same : id = asked
    · subst same
      exact ⟨_, if_pos rfl, .asked rfl rfl⟩
    · exact ⟨subscription, if_neg same, .spared (fun _ => rfl) nofun⟩
  | ended asked =>
    -- So may the end.
    rw [subscriptions_cancel, found]
    by_cases same : id = asked
    · subst same
      exact ⟨_, if_pos rfl, .ended rfl⟩
    · refine ⟨subscription, if_neg same, .spared (fun _ => rfl) fun ends => ?_⟩
      exact same (RegistryCall.cancel.inj ends).symm

namespace Handles

/-- The counters fit what waits after a call if they did before. -/
theorem balanced (handles : registry.Handles entry id subscription left)
    (balanced : subscription.Balanced) : left.Balanced := by
  obtain ⟨sent, ordered⟩ := balanced
  -- Only what is received and what is taken changes a counter.
  cases handles with
  | spared => exact ⟨sent, ordered⟩
  | sent open_ =>
    -- One more change was sent, and one more waits.
    refine ⟨?_, ordered⟩
    have longer := congrArg List.length (subscription.live.toList_push ‹MemberEvent›)
    simp only [List.length_append, List.length_singleton, Queue.length_toList] at longer
    simp only [Subscription.receive, open_]
    show _ + 1 = _ + (Queue.push _ _).length
    omega
  | asked =>
    rcases subscription.poll_cases registry.lives with ⟨_, answered⟩ | ⟨_, taken⟩
    · rw [answered]
      exact ⟨sent, ordered⟩
    · rcases taken with ⟨peer, rest, replay, answered⟩ | ⟨event, rest, replay, live, answered⟩ |
        ⟨_, _, answered⟩
      · -- While members are replayed no live change has been taken.
        rw [answered]
        refine ⟨sent, .inl (ordered.resolve_right ?_)⟩
        simp [replay]
      · -- A live change was taken, so one less waits, and the replay is over.
        rw [answered]
        have shorter := congrArg List.length live
        simp only [List.length_cons, Queue.length_toList] at shorter
        refine ⟨?_, .inr replay⟩
        show subscription.published = subscription.delivered + 1 + rest.length
        omega
      · rw [answered]
        exact ⟨sent, ordered⟩
  -- The end drops the replay and keeps what was counted.
  | ended =>
    unfold Subscription.ended
    split
    · exact ⟨sent, ordered⟩
    · exact ⟨sent, .inr rfl⟩

/-- A subscription that goes on is sent the change that a call makes, and counts it. -/
theorem published (handles : registry.Handles entry id subscription left)
    (open_ : subscription.cancelled = false) (kept : entry.call ≠ .cancel id) :
    left.cancelled = false ∧
      left.published = subscription.published + entry.change?.toList.length := by
  -- A change is counted when it is received, and nothing else counts as one.
  cases handles with
  | spared unchanged => simp [unchanged open_, open_]
  | sent _ change => simp [change, Subscription.receive, open_]
  | asked call unchanged =>
    refine ⟨by rw [Subscription.cancelled_poll, open_], ?_⟩
    rcases subscription.poll_cases registry.lives with ⟨_, answered⟩ | ⟨_, ⟨_, _, _, answered⟩ |
      ⟨_, _, _, _, answered⟩ | ⟨_, _, answered⟩⟩
    all_goals simp [answered, unchanged]
  | ended call => exact absurd call kept

/-- Nothing happens any more to a subscription that has ended. -/
theorem of_cancelled (handles : registry.Handles entry id subscription left)
    (cancelled : subscription.cancelled = true) : left = subscription := by
  -- The hypothesis about the flag decides every case.
  cases handles with
  | spared => rfl
  | sent open_ => simp [cancelled] at open_
  | asked => simp [Subscription.poll, cancelled]
  | ended => simp [Subscription.ended, cancelled]

end Handles

/-! ### Runs -/

/-- The counters of every subscription fit what it has buffered. -/
def Balanced (registry : Registry) : Prop :=
  ∀ (id : Nat) (subscription : Subscription),
    registry.subscriptions[id]? = some subscription → subscription.Balanced

/-- A subscription that there is after a call was there before, or starts with it. -/
theorem Step.before_or_newest (step : registry.Step entry result)
    (found : result.subscriptions[id]? = some left) :
    (∃ subscription, registry.subscriptions[id]? = some subscription) ∨
      left = .startingAt registry.members := by
  -- An id below the next one was stored before, and only an opening adds one.
  by_cases known : id < registry.nextId
  · exact .inl ⟨_, Array.getElem?_eq_getElem known⟩
  · right
    have inside : id < result.nextId := (Array.getElem?_eq_some_iff.mp found).1
    cases step with
    | unreachable | missed | retained | released => exact absurd inside known
    | joined | left => exact absurd (registry.nextId_announce _ _ ▸ inside) known
    | polled => exact absurd (registry.nextId_poll _ ▸ inside) known
    | ended => exact absurd (registry.nextId_cancel _ ▸ inside) known
    | opened =>
      rw [nextId_subscribe] at inside
      obtain rfl : id = registry.subscriptions.size := by
        have newest : ¬ id < registry.subscriptions.size := known
        have last : id < registry.subscriptions.size + 1 := inside
        omega
      change (registry.subscriptions.push _)[registry.subscriptions.size]? = some left at found
      rw [Array.getElem?_push_size] at found
      exact (Option.some.inj found).symm

/-- The counters fit after a call if they did before. -/
theorem Balanced.step (balanced : registry.Balanced) (attached : registry.Attached)
    (step : registry.Step entry result) : result.Balanced := by
  intro id left found
  -- Old subscriptions stay balanced by what is done to them, and a new one starts so.
  rcases step.before_or_newest found with ⟨subscription, met⟩ | rfl
  · obtain ⟨again, found', handles⟩ := step.handles attached met
    obtain rfl := Option.some.inj (found.symm.trans found')
    exact handles.balanced (balanced id subscription met)
  · exact Subscription.balanced_startingAt _

/-- The counters fit after calls if they did before. -/
theorem Balanced.run (balanced : registry.Balanced) (attached : registry.Attached)
    (calls : List RegistryCall) : (after registry calls).Balanced := by
  -- By induction on the calls, along which streams stay attached as well.
  induction calls generalizing registry with
  | nil => exact balanced
  | cons call rest ih =>
    have step := registry.step call
    exact ih (balanced.step attached step) (attached.step step)

/-- Nothing is buffered where no stream was opened. -/
theorem balanced_empty : empty.Balanced := nofun

/-- A subscription that goes on counts every change of a run. -/
theorem published_after (attached : registry.Attached)
    (found : registry.subscriptions[id]? = some subscription)
    (open_ : subscription.cancelled = false) {calls : List RegistryCall}
    (kept : .cancel id ∉ calls) :
    ∃ left, (after registry calls).subscriptions[id]? = some left ∧ left.cancelled = false ∧
      left.published = subscription.published + (registry.changes calls).length := by
  -- By induction on the calls, none of which ends the stream.
  induction calls generalizing registry subscription with
  | nil => exact ⟨subscription, found, open_, rfl⟩
  | cons call rest ih =>
    obtain ⟨first, later⟩ := not_or.mp (mt List.mem_cons.mpr kept)
    have step := registry.step call
    obtain ⟨middle, met, handles⟩ := step.handles attached found
    obtain ⟨still, one⟩ := handles.published open_ (Ne.symm first)
    obtain ⟨left, last, ends, more⟩ := ih (attached.step step) met still later
    refine ⟨left, last, ends, ?_⟩
    rw [more, one, changes_cons, List.length_append, Nat.add_assoc]

/-- A subscription that has ended stays as it is. -/
theorem subscription_after_of_cancelled (attached : registry.Attached)
    (found : registry.subscriptions[id]? = some subscription)
    (cancelled : subscription.cancelled = true) (calls : List RegistryCall) :
    (after registry calls).subscriptions[id]? = some subscription := by
  -- By induction on the calls; what has ended is left alone by each.
  induction calls generalizing registry with
  | nil => exact found
  | cons call rest ih =>
    have step := registry.step call
    obtain ⟨left, met, handles⟩ := step.handles attached found
    exact ih (attached.step step) (handles.of_cancelled cancelled ▸ met)

end Registry

end PeerCluster
