import PeerCluster.Proofs.Cluster.Attempts
import PeerCluster.Proofs.Cluster.Lifting
import PeerCluster.Proofs.Registry.Delivery

/-! What several operations in a row have sent to whom, and that they did nothing else. -/

namespace PeerCluster

/-- Changes come after everything that is awaited already, in the order of sending. -/
theorem Subscription.awaiting_foldl_receive {subscription : Subscription}
    (open_ : subscription.cancelled = false) (events : List MemberEvent) :
    (events.foldl receive subscription).awaiting = subscription.awaiting ++ events := by
  -- By induction on the changes: receiving one leaves a stream open, and adds it behind the others.
  induction events generalizing subscription with
  | nil => simp
  | cons event rest ih =>
    have still : (subscription.receive event).cancelled = false := open_
    rw [List.foldl_cons, ih still, awaiting_receive open_, List.append_assoc]
    rfl

namespace Registry

/-- Somebody can reach the registry, and it sends to whoever listens. -/
structure LiveAttached (registry : Registry) : Prop where
  lives : registry.lives = true
  attached : registry.Attached

namespace LiveAttached

variable {registry : Registry}

/-- A registry that sent a change is live and attached as before. -/
theorem announce (live : registry.LiveAttached) (members : List PeerAddress) (event : MemberEvent) :
    (registry.announce members event).LiveAttached :=
  ⟨live.lives, live.attached.announce live.lives members event⟩

/-- A registry with one more stream is live and attached as before. -/
theorem subscribe (live : registry.LiveAttached) : registry.subscribe.value.2.LiveAttached :=
  ⟨live.lives, live.attached.subscribe⟩

/-- A registry with one stream less is live and attached as before. -/
theorem cancel (live : registry.LiveAttached) (id : Nat) :
    (registry.cancel id).value.LiveAttached := by
  -- Ending a stream counts the subscribers anew, and gives no handle up.
  refine ⟨?_, live.attached.cancel id⟩
  rw [cancel_frame]
  exact live.lives

/-- A registry with several streams less is live and attached as before. -/
theorem cancelAll (live : registry.LiveAttached) (ids : List Nat) :
    (registry.cancelAll ids).value.LiveAttached := by
  -- One stream after the other, since each end leaves a membership that is live and attached.
  induction ids generalizing registry with
  | nil => exact live
  | cons id rest ih => exact ih (live.cancel id)

/-- The subscribers are exactly those who listen. -/
theorem mem_subscribers_iff (live : registry.LiveAttached) (id : Nat) :
    id ∈ registry.subscribers ↔ registry.listens id = true :=
  live.attached.mem_subscribers_iff live.lives id

end LiveAttached

/-- Some streams have ended, every subscriber was sent some changes, and nothing else happened. -/
structure Sent (ended : List Nat) (events : List MemberEvent) (registry result : Registry) :
    Prop where
  handles : result.handles = registry.handles
  revision : result.revision = registry.revision + events.length
  subscribers : result.subscribers = registry.subscribers.filter (· ∉ ended)
  subscriptions : ∀ id ∉ ended, result.subscriptions[id]? =
    if id ∈ registry.subscribers then
      registry.subscriptions[id]?.map (events.foldl Subscription.receive)
    else registry.subscriptions[id]?

namespace Sent

variable {registry middle result : Registry} {ended others : List Nat}
  {events more : List MemberEvent}

/-- Nothing is sent by doing nothing. -/
theorem refl (registry : Registry) : Sent [] [] registry registry := by
  refine ⟨rfl, rfl, ?_, ?_⟩
  · exact (List.filter_eq_self.mpr (by simp)).symm
  · intro id _
    simp

/-- As long as nothing is sent, a stream that goes on is not touched. -/
theorem untouched (sent : Sent ended [] registry result) {id : Nat} (going : id ∉ ended) :
    result.subscriptions[id]? = registry.subscriptions[id]? := by
  -- For a subscriber or not, receiving an empty list of changes is doing nothing.
  simpa using sent.subscriptions id going

/-- What is sent first is received first, by everybody whose stream goes on. -/
theorem trans (first : Sent ended events registry middle)
    (second : Sent others more middle result) :
    Sent (ended ++ others) (events ++ more) registry result := by
  -- Handles are those of the start, and revisions add up; the streams are the work.
  refine ⟨second.handles.trans first.handles, ?_, ?_, ?_⟩
  · rw [second.revision, first.revision, List.length_append, Nat.add_assoc]
  · rw [second.subscribers, first.subscribers, List.filter_filter]
    refine List.filter_congr fun id _ => ?_
    simp [Bool.and_comm]
  · intro id going
    obtain ⟨spared, spared'⟩ := not_or.mp (mt List.mem_append.mpr going)
    -- Whoever was a subscriber at the start is one in between, and the other way round.
    have same : id ∈ middle.subscribers ↔ id ∈ registry.subscribers := by
      simp [first.subscribers, spared]
    rw [second.subscriptions id spared', first.subscriptions id spared]
    by_cases attached : id ∈ registry.subscribers
    · -- A subscriber has received first what was sent first, so the two folds are one.
      have attached' := same.mpr attached
      simp only [if_pos attached, if_pos attached', Option.map_map]
      congr 1
      funext subscription
      exact List.foldl_append.symm
    · -- Whoever was no subscriber at first is none in between, and is not touched by either.
      have detached := mt same.mp attached
      rw [if_neg detached, if_neg attached, if_neg attached]

/-- A change is sent to everybody. -/
theorem announce (live : registry.LiveAttached) (members : List PeerAddress) (event : MemberEvent) :
    Sent [] [event] registry (registry.announce members event) := by
  refine ⟨rfl, rfl, ?_, ?_⟩
  · -- Nobody is struck off, since all subscribers listen.
    show registry.subscribers.filter registry.listens = _
    refine List.filter_congr fun id member => ?_
    simp [(live.mem_subscribers_iff id).mp member]
  · -- Each subscriber receives the one change, which is what announcing does to every stream.
    intro id _
    exact registry.subscriptions_announce members event (live.attached.nodup live.lives) id

/-- The end of a stream sends nothing to the others. -/
theorem cancel (live : registry.LiveAttached) (id : Nat) :
    Sent [id] [] registry (registry.cancel id).value := by
  refine ⟨?_, ?_, ?_, ?_⟩
  · rw [cancel_frame]
  · rw [cancel_frame]
    rfl
  · -- The subscribers were those who listen, and now they are those without this one.
    rw [live.attached.subscribers_cancel live.lives]
    simp
  · -- Only the stream that ends is written to.
    intro other going
    have different : other ≠ id := by simpa using going
    rw [subscriptions_cancel, if_neg different]
    simp

/-- The end of several streams sends nothing to the others. -/
theorem cancelAll (live : registry.LiveAttached) (ids : List Nat) :
    Sent ids [] registry (registry.cancelAll ids).value := by
  -- By induction on the streams; nothing is sent by any of the ends, so nothing by all of them.
  induction ids generalizing registry with
  | nil => exact refl registry
  | cons id rest ih => exact (cancel live id).trans (ih (live.cancel id))

/-- A change that is sent after streams have ended goes to all others. -/
theorem cancelAll_announce (live : registry.LiveAttached) (ids : List Nat)
    (members : List PeerAddress) (event : MemberEvent) :
    Sent ids [event] registry ((registry.cancelAll ids).value.announce members event) := by
  -- First the streams end, and only who is left over is sent the change.
  have quiet := cancelAll live ids
  have told := announce (live.cancelAll ids) members event
  have sent := quiet.trans told
  rwa [List.append_nil, List.nil_append] at sent

/-- A stream that is handed out and let go of at once leaves nothing behind. -/
theorem handOut (live : registry.LiveAttached) {ids : List Nat} (returned : registry.nextId ∈ ids) :
    Sent ids [] registry (registry.handOut ids) := by
  have sent := cancelAll live.subscribe ids
  have newest : registry.subscribe.value.2.subscribers =
      registry.subscribers ++ [registry.nextId] := rfl
  unfold Registry.handOut
  -- The one subscriber more is struck off again, and no other stream has seen it.
  refine ⟨sent.handles, sent.revision, ?_, ?_⟩
  · rw [sent.subscribers, newest, List.filter_append]
    simp [returned]
  · intro id going
    -- Whoever goes on is an earlier stream, since the one handed out is among those returned.
    have older : id ≠ registry.nextId := by
      rintro rfl
      exact going returned
    have opened : registry.subscribe.value.2.subscriptions =
        registry.subscriptions.push (.startingAt registry.members) := rfl
    have kept := sent.untouched going
    rw [opened, Array.getElem?_push, ← nextId, if_neg older] at kept
    simpa using kept

/-- Whoever is still a subscriber awaits what it awaited, and then everything that was sent. -/
theorem awaiting (sent : Sent ended events registry result) (live : registry.LiveAttached)
    {id : Nat} (attached : id ∈ result.subscribers) :
    result.awaiting id = registry.awaiting id ++ events := by
  rw [sent.subscribers] at attached
  obtain ⟨member, going⟩ := List.mem_filter.mp attached
  -- It is a subscriber from the start, so its stream is open and was sent every change.
  have listens := (live.mem_subscribers_iff id).mp member
  have same := sent.subscriptions id (by simpa using going)
  rw [if_pos member] at same
  rw [listens_eq] at listens
  unfold Registry.awaiting
  rw [same]
  cases found : registry.subscriptions[id]? with
  -- Nobody listens to a stream that was never opened.
  | none => simp [found] at listens
  | some subscription =>
    have open_ : subscription.cancelled = false := by simpa [found] using listens
    show (events.foldl Subscription.receive subscription).awaiting = _
    exact Subscription.awaiting_foldl_receive open_ events

end Sent

end Registry

/-! ### The membership of a cluster -/

namespace Cluster

variable {σ η : Type} {launchers : Launcher σ η} {cluster : Cluster σ η} {registry : Registry}

variable (cluster registry) in
/-- The registry when a newcomer was taken out again and the stop of its node let go of streams. -/
def leftBy (ports : NodePorts) (released stopped : List Nat) : Registry :=
  let address := (cluster.specFor ports).address
  let withdrawn := (joinedBy cluster registry ports released).announce registry.members
    (.remove address)
  (withdrawn.cancelAll stopped).value

variable (cluster registry) in
/-- A newcomer stands behind all who were members before, and they stay when it goes. -/
theorem newest_joinedBy (ports : NodePorts) (released : List Nat) :
    let joined := joinedBy cluster registry ports released
    joined.members[registry.members.length]? = some (cluster.specFor ports).address ∧
      joined.members.eraseIdx registry.members.length = registry.members := by
  refine ⟨List.getElem?_concat_length, ?_⟩
  -- The newcomer is the last one, so erasing there leaves exactly those before it.
  show (registry.members ++ [_]).eraseIdx registry.members.length = _
  rw [List.eraseIdx_append_of_length_le (Nat.le_refl _)]
  simp

/-- A launch is undone by taking the newcomer out and by stopping its node, which may fail. -/
theorem value_of_abandoned {ports : NodePorts} {released : List Nat} {launcher : σ} {handle : η}
    {undone : Logged (ClusterError × Cluster σ η × Registry)}
    (abandoned : abandonLaunch launchers { cluster with launcher }
      (joinedBy cluster registry ports released) registry.members.length (cluster.specFor ports)
      handle = undone) :
    let stopped := launchers.stop launcher handle
    undone.value = (driftError cluster.size (cluster.specFor ports),
      { cluster with launcher := stopped.launcher },
      leftBy cluster registry ports released stopped.released) := by
  -- The newcomer is found at the position it took, so its removal cannot fail.
  obtain ⟨found, others⟩ := newest_joinedBy cluster registry ports released
  obtain ⟨withdrawn, _⟩ := Registry.remove_of_found found
  rw [others] at withdrawn
  subst abandoned
  unfold abandonLaunch
  simp only [Logged.bind_eq, withdrawn]
  -- The answer is the same whether or not the node can be stopped.
  cases (launchers.stop launcher handle).result <;> rfl

/-- A membership that a newcomer has joined is live and attached as before. -/
theorem liveAttached_joinedBy (live : registry.LiveAttached) (ports : NodePorts)
    (released : List Nat) : (joinedBy cluster registry ports released).LiveAttached :=
  (live.subscribe.cancelAll released).announce _ _

/-- A newcomer that joins is announced to everybody, itself included. -/
theorem sent_joinedBy (live : registry.LiveAttached) (ports : NodePorts) (released : List Nat) :
    let address := (cluster.specFor ports).address
    Registry.Sent released [.add address] registry.subscribe.value.2
      (joinedBy cluster registry ports released) :=
  Registry.Sent.cancelAll_announce live.subscribe released _ _

/-- A newcomer that is taken out again was announced before, and then its leave is. -/
theorem sent_leftBy (live : registry.LiveAttached) (ports : NodePorts)
    (released stopped : List Nat) :
    let address := (cluster.specFor ports).address
    Registry.Sent (released ++ stopped) [.add address, .remove address]
      registry.subscribe.value.2 (leftBy cluster registry ports released stopped) := by
  intro address
  -- The newcomer is announced, then its leave is, and only then do the streams of its node end.
  have joined : (joinedBy cluster registry ports released).LiveAttached :=
    liveAttached_joinedBy live ports released
  have told := Registry.Sent.announce joined registry.members (.remove address)
  have quiet := Registry.Sent.cancelAll (joined.announce registry.members (.remove address)) stopped
  exact (sent_joinedBy live ports released).trans (told.trans quiet)

/-- Taking a newcomer out again leaves the members that there were. -/
theorem members_leftBy (ports : NodePorts) (released stopped : List Nat) :
    (leftBy cluster registry ports released stopped).members = registry.members :=
  Registry.members_cancelAll _ _

/-- Whether or not a node starts, the membership stays live and attached. -/
theorem liveAttached_scaleUpByOne (live : registry.LiveAttached) :
    (scaleUpByOne launchers cluster registry).value.2.2.LiveAttached := by
  have growth := scaleUpByOne_growth launchers cluster registry
  -- One case for each way in which an attempt to start a node can go.
  generalize scaleUpByOne launchers cluster registry = outcome at growth
  cases growth with
  | full none => exact live
  | refused block asked refusal errorFree => exact live.subscribe.cancelAll _
  | @drifted ports reply handle log undone block asked started misplaced abandoned errorFree =>
    -- It is left as after the newcomer's leave and the end of its node.
    rw [value_of_abandoned abandoned]
    exact ((liveAttached_joinedBy live ports reply.released).announce _ _).cancelAll _
  | @grown ports reply handle log block asked started placed errorFree =>
    exact liveAttached_joinedBy live ports reply.released

/-- Whether or not a node stops, the membership stays live and attached. -/
theorem liveAttached_scaleDownByOne (live : registry.LiveAttached) (index : Nat) :
    (scaleDownByOne launchers cluster registry index).value.2.2.LiveAttached := by
  have shrinking := scaleDownByOne_shrinking launchers cluster registry index
  generalize scaleDownByOne launchers cluster registry index = outcome at shrinking
  cases shrinking with
  -- Nothing was asked of the launcher, so nothing happened to the membership.
  | unknown | drifted => exact live
  -- A stop that fails may have let go of streams, and announces nothing.
  | refused => exact live.cancelAll _
  | stopped => exact (live.cancelAll _).announce _ _

end Cluster

/-- A registry lives on after a call that does not give the last handle up. -/
theorem Registry.Step.lives {registry result : Registry}
    {entry : Exchange RegistryCall RegistryAnswer} (step : registry.Step entry result)
    (lives : registry.lives = true) (held : entry.call = .release → 1 < registry.handles) :
    result.lives = true := by
  -- Only a release can give a handle up, and the hypothesis is about those.
  cases step with
  | unreachable | joined | left | missed | opened => exact lives
  | retained => simp [Registry.lives, retain]
  | released =>
    -- There was another handle besides the one that is given up.
    have more := held rfl
    exact decide_eq_true (show registry.handles - 1 ≠ 0 by omega)
  | polled id =>
    rw [poll_frame]
    exact lives
  | ended id =>
    rw [cancel_frame]
    exact lives

/-- Whatever is asked of a cluster or past it, its membership stays live and attached. -/
theorem keptByCalls_liveAttached {σ η : Type} (launchers : Launcher σ η) :
    KeptByCalls launchers fun _ registry => registry.LiveAttached := by
  refine ⟨Cluster.liveAttached_scaleUpByOne, ?_, ?_⟩
  · intro _ _ index live
    -- The steps of a cluster are dealt with above, and other calls are steps of the registry.
    exact Cluster.liveAttached_scaleDownByOne live index
  · intro _ registry call held live
    have step := registry.step call
    exact ⟨step.lives live.lives held, live.attached.step step⟩

/-- Whatever was asked of a cluster and past it, its membership is live and attached. -/
theorem Deployment.liveAttached_after {σ η : Type} (launchers : Launcher σ η)
    (config : ClusterConfig) (launcher : σ) (calls : List ClusterCall) :
    (Machine.after (start launchers config launcher) calls).registry.LiveAttached := by
  have begins : Registry.empty.LiveAttached := ⟨rfl, Registry.attached_empty⟩
  exact ((keptByCalls_liveAttached launchers).after rfl begins calls).2

end PeerCluster
