import Mathlib.Data.List.Nodup
import PeerCluster.Cluster.Recorder
import PeerCluster.Proofs.Cluster.Asking

/-! Which streams the nodes of a cluster hold, when their launcher keeps account of them. -/

namespace PeerCluster

open Machine

variable {σ η : Type}

/-! ### Launchers that keep account -/

/-- What a launcher was given it holds until it lets go of it. -/
structure Launcher.TracksStreams (launchers : Launcher σ η) (valid : σ → Prop)
    (held : σ → List Nat) : Prop where
  launch : ∀ {launcher}, valid launcher → ∀ spec stream,
    let reply := launchers.launch launcher spec stream
    valid reply.launcher ∧ ∀ id, id = stream.upstream ∨ id ∈ held launcher →
      id ∉ reply.released → id ∈ held reply.launcher
  stop : ∀ {launcher}, valid launcher → ∀ handle,
    let reply := launchers.stop launcher handle
    valid reply.launcher ∧ ∀ id ∈ held launcher,
      id ∉ reply.released → id ∈ held reply.launcher

namespace Recorder

/-- The streams that the nodes of a recorder hold. -/
def held (recorder : Recorder) : List Nat :=
  recorder.streams.map (·.2.upstream)

/-- Each node holds one stream at most, and nobody else's handle is in use. -/
structure HandlesDistinct (recorder : Recorder) : Prop where
  distinct : (recorder.streams.map Prod.fst).Nodup
  launched : ∀ handle ∈ recorder.streams.map Prod.fst, handle < recorder.launched.size

/-- A recorder that was asked nothing yet is in order. -/
theorem handlesDistinct_fresh (dropsStreams : Bool) : (fresh dropsStreams).HandlesDistinct :=
  ⟨List.nodup_nil, nofun⟩

/-- A stream is found under the handle of its node. -/
theorem stream?_of_mem {recorder : Recorder} (distinct : (recorder.streams.map Prod.fst).Nodup)
    {handle : Nat} {stream : EndpointEvents} (member : (handle, stream) ∈ recorder.streams) :
    recorder.stream? handle = some stream := by
  -- The list is cut at the stream, and a lookup finds the first one under the handle.
  obtain ⟨front, back, split⟩ := List.append_of_mem member
  refine List.lookup_eq_some_iff.mpr ⟨front, back, split, fun entry before => ?_⟩
  -- No other stream is found there, so none that comes first.
  rw [split, List.map_append, List.map_cons, List.nodup_append] at distinct
  refine bne_iff_ne.mpr fun same => distinct.2.2 entry.1 ?_ handle List.mem_cons_self same.symm
  exact List.mem_map_of_mem before

/-- Whether a launch succeeds or fails, a recorder holds its stream or lets go of it. -/
theorem account_launch {recorder : Recorder} (valid : recorder.HandlesDistinct) (spec : NodeSpec)
    (stream : EndpointEvents) :
    let reply := recorder.launch spec stream
    reply.launcher.HandlesDistinct ∧ ∀ id, id = stream.upstream ∨ id ∈ recorder.held →
      id ∉ reply.released → id ∈ reply.launcher.held := by
  obtain ⟨distinct, launched⟩ := valid
  -- Without the stream nothing is held that was not held before.
  have returned : ∀ id, id = stream.upstream ∨ id ∈ recorder.held → id ∉ [stream.upstream] →
      id ∈ recorder.held := by
    rintro id (rfl | before) kept
    · simp at kept
    · exact before
  -- One more node makes room for one more handle, and the old handles are still in use.
  have later : ∀ handle ∈ recorder.streams.map Prod.fst,
      handle < (recorder.launched.push spec).size := by
    intro handle member
    rw [Array.size_push]
    exact Nat.lt_succ_of_lt (launched handle member)
  -- The ways a launch can end are the branches of the recorder, taken from the outermost in.
  intro reply
  have asked : recorder.launch spec stream = reply := rfl
  generalize reply = reply at asked ⊢
  unfold launch at asked
  dsimp only at asked
  split at asked
  · -- The script has the launch fail before a node exists.
    subst asked
    exact ⟨⟨distinct, launched⟩, returned⟩
  · split at asked
    · -- A node without use for streams exists, but it lets go of the one it was given.
      subst asked
      exact ⟨⟨distinct, later⟩, returned⟩
    · subst asked
      refine ⟨⟨?_, ?_⟩, fun id given _ => ?_⟩
      · -- The handle of a new node is not in use.
        show ((recorder.streams ++ [(recorder.launched.size, stream)]).map Prod.fst).Nodup
        rw [List.map_append, List.map_singleton, ← List.concat_eq_append, List.nodup_concat]
        exact ⟨fun used => Nat.lt_irrefl _ (launched _ used), distinct⟩
      · intro handle member
        -- Handles in use are earlier ones, or the newest, which is the size before the launch.
        change handle ∈ (recorder.streams ++ [(recorder.launched.size, stream)]).map Prod.fst
          at member
        rw [List.map_append, List.mem_append] at member
        rcases member with before | newest
        · exact later handle before
        · obtain rfl := List.mem_singleton.mp newest
          exact (Array.size_push spec).symm ▸ Nat.lt_succ_self _
      · show id ∈ (recorder.streams ++ [(recorder.launched.size, stream)]).map (·.2.upstream)
        -- The stream that was given is the newest one, and whatever was held still is.
        rw [List.map_append, List.mem_append]
        rcases given with rfl | before
        · exact .inr (List.mem_singleton_self _)
        · exact .inl before

/-- Whether a stop succeeds or fails, a recorder holds the stream of the node or lets go of it. -/
theorem account_stop {recorder : Recorder} (valid : recorder.HandlesDistinct) (handle : Nat) :
    let reply := recorder.stop handle
    reply.launcher.HandlesDistinct ∧ ∀ id ∈ recorder.held,
      id ∉ reply.released → id ∈ reply.launcher.held := by
  obtain ⟨distinct, launched⟩ := valid
  -- The script decides whether the stop fails, and a failed one keeps all streams.
  intro reply
  have asked : recorder.stop handle = reply := rfl
  generalize reply = reply at asked ⊢
  unfold stop at asked
  dsimp only at asked
  split at asked
  · subst asked
    exact ⟨⟨distinct, launched⟩, fun _ member _ => member⟩
  · subst asked
    -- A stop drops the streams under one handle, so those that are left are fewer.
    have fewer : (recorder.streams.filter (·.1 ≠ handle)).Sublist recorder.streams :=
      List.filter_sublist
    refine ⟨⟨(fewer.map _).nodup distinct, ?_⟩, ?_⟩
    · exact fun other member => launched other ((fewer.map _).subset member)
    · intro id member kept
      obtain ⟨⟨owner, stream⟩, there, rfl⟩ := List.mem_map.mp member
      refine List.mem_map.mpr ⟨(owner, stream), List.mem_filter.mpr ⟨there, ?_⟩, rfl⟩
      -- Under the handle of the node there is no stream but the one that is let go of.
      refine decide_eq_true fun same => kept ?_
      obtain rfl : owner = handle := same
      have found : recorder.stream? owner = some stream := stream?_of_mem distinct there
      simp [found]

/-- A recorder keeps account of the streams of its nodes. -/
theorem tracksStreams : launcher.TracksStreams HandlesDistinct held :=
  ⟨account_launch, account_stop⟩

end Recorder

/-! ### Clusters with such a launcher -/

/-- Whoever listens to a membership is a node of its cluster or one of others. -/
structure SubscribersHeld (valid : σ → Prop) (held : σ → List Nat) (origin : Registry)
    (others : Nat → Prop) (cluster : Cluster σ η) (registry : Registry) : Prop where
  live : registry.LiveAttached
  evolves : origin.Evolves registry
  handles : registry.handles = origin.handles
  valid : valid cluster.launcher
  held : ∀ id, registry.listens id = true → id ∈ held cluster.launcher ∨ others id

namespace Registry.Sent

variable {registry result : Registry} {ended : List Nat} {events : List MemberEvent}

/-- Whoever listens after changes were sent did so before, and has not ended its stream. -/
theorem of_listens (sent : Sent ended events registry result) (live : registry.LiveAttached)
    (still : result.LiveAttached) {id : Nat} (listens : result.listens id = true) :
    registry.listens id = true ∧ id ∉ ended := by
  -- Once changes were sent, the subscribers are those from before whose streams have not ended.
  have member := (still.mem_subscribers_iff id).mpr listens
  rw [sent.subscribers] at member
  obtain ⟨before, kept⟩ := List.mem_filter.mp member
  exact ⟨(live.mem_subscribers_iff id).mp before, of_decide_eq_true kept⟩

/-- Whoever listens once a stream was opened and changes were sent did so before, or has it. -/
theorem of_listens_subscribe (sent : Sent ended events registry.subscribe.value.2 result)
    (live : registry.LiveAttached) (still : result.LiveAttached) {id : Nat}
    (listens : result.listens id = true) :
    (id = registry.nextId ∨ registry.listens id = true) ∧ id ∉ ended := by
  -- The stream that was opened is the only one that listens and did not before.
  obtain ⟨before, kept⟩ := sent.of_listens live.subscribe still listens
  refine ⟨?_, kept⟩
  rw [listens_subscribe] at before
  split at before
  · rename_i newest
    exact .inl newest
  · exact .inr before

end Registry.Sent

namespace SubscribersHeld

open Cluster Registry

variable {launchers : Launcher σ η} {valid : σ → Prop} {held : σ → List Nat}
  {origin : Registry} {others : Nat → Prop} {cluster : Cluster σ η} {registry : Registry}

/-- Whoever listens once a node was started, or was not, is a node or somebody else. -/
theorem grows (tracksStreams : launchers.TracksStreams valid held)
    (subscribersHeld : SubscribersHeld valid held origin others cluster registry) :
    SubscribersHeld valid held origin others (scaleUpByOne launchers cluster registry).value.2.1
      (scaleUpByOne launchers cluster registry).value.2.2 := by
  obtain ⟨live, evolves, handles, fit, holds⟩ := subscribersHeld
  -- What the operation leaves of the membership is known without a look at the launcher.
  have still : (scaleUpByOne launchers cluster registry).value.2.2.LiveAttached :=
    liveAttached_scaleUpByOne live
  have goesOn : origin.Evolves (scaleUpByOne launchers cluster registry).value.2.2 :=
    evolves.trans (evolves_scaleUpByOne live)
  -- Whoever listens is known from before, or it has the stream that was given to the launcher.
  have known {id : Nat} (before : id = registry.nextId ∨ registry.listens id = true) :
      (id = registry.nextId ∨ id ∈ held cluster.launcher) ∨ others id := by
    rcases before with newest | listens
    · exact .inl (.inl newest)
    · exact (holds id listens).imp_left .inr
  have growth := scaleUpByOne_growth launchers cluster registry
  generalize scaleUpByOne launchers cluster registry = outcome at growth still goesOn ⊢
  cases growth with
  -- Without room the launcher is not asked.
  | full => exact ⟨live, evolves, handles, fit, holds⟩
  | @refused ports reply error log block asked refusal errorFree =>
    -- A launch that fails returns streams, and those that go on are held as the launcher tells.
    obtain ⟨fits, accounts⟩ := tracksStreams.launch fit (cluster.specFor ports)
      (.replicating registry.nextId)
    have sent := Sent.cancelAll live.subscribe reply.released
    subst asked
    refine ⟨still, goesOn, sent.handles.trans handles, fits, fun id listens => ?_⟩
    obtain ⟨before, kept⟩ := sent.of_listens_subscribe live still listens
    exact (known before).imp_left fun given => accounts id given kept
  | @drifted ports reply handle log undone block asked started misplaced abandoned errorFree =>
    obtain ⟨fits, accounts⟩ := tracksStreams.launch fit (cluster.specFor ports)
      (.replicating registry.nextId)
    rw [value_of_abandoned abandoned] at still goesOn ⊢
    -- The node is started and stopped again, so streams may end at both times.
    let stopped := launchers.stop reply.launcher handle
    have sent : Sent (reply.released ++ stopped.released) _ registry.subscribe.value.2
      (leftBy cluster registry ports reply.released stopped.released) := sent_leftBy live ..
    subst asked
    obtain ⟨fits', accounts'⟩ := tracksStreams.stop fits handle
    refine ⟨still, goesOn, sent.handles.trans handles, fits', fun id listens => ?_⟩
    obtain ⟨before, kept⟩ := sent.of_listens_subscribe live still listens
    -- A stream that goes on was let go of neither by the launch nor by the stop.
    obtain ⟨first, second⟩ := not_or.mp (mt List.mem_append.mpr kept)
    exact (known before).imp_left fun given => accounts' id (accounts id given first) second
  | @grown ports reply handle log block asked started placed errorFree =>
    obtain ⟨fits, accounts⟩ := tracksStreams.launch fit (cluster.specFor ports)
      (.replicating registry.nextId)
    -- The node stays, and all that its launch may have let go of are streams.
    have sent : Sent reply.released _ registry.subscribe.value.2
      (joinedBy cluster registry ports reply.released) := sent_joinedBy live ..
    subst asked
    refine ⟨still, goesOn, sent.handles.trans handles, fits, fun id listens => ?_⟩
    obtain ⟨before, kept⟩ := sent.of_listens_subscribe live still listens
    exact (known before).imp_left fun given => accounts id given kept

/-- Whoever listens once a node has stopped, or has not, is another node or somebody else. -/
theorem shrinks (tracksStreams : launchers.TracksStreams valid held)
    (subscribersHeld : SubscribersHeld valid held origin others cluster registry) (index : Nat) :
    SubscribersHeld valid held origin others
      (scaleDownByOne launchers cluster registry index).value.2.1
      (scaleDownByOne launchers cluster registry index).value.2.2 := by
  obtain ⟨live, evolves, handles, fit, holds⟩ := subscribersHeld
  have still : (scaleDownByOne launchers cluster registry index).value.2.2.LiveAttached :=
    liveAttached_scaleDownByOne live index
  have goesOn : origin.Evolves (scaleDownByOne launchers cluster registry index).value.2.2 :=
    evolves.trans (evolves_scaleDownByOne live index)
  have shrinking := scaleDownByOne_shrinking launchers cluster registry index
  generalize scaleDownByOne launchers cluster registry index = outcome at shrinking still goesOn ⊢
  cases shrinking with
  -- The launcher is not asked, so it holds what it held.
  | unknown | drifted => exact ⟨live, evolves, handles, fit, holds⟩
  | @refused node reply error log found placed asked refusal errorFree =>
    -- A stop that fails may let go of streams, and what it does not let go of is still held.
    obtain ⟨fits, accounts⟩ := tracksStreams.stop fit node.handle
    have sent := Sent.cancelAll live reply.released
    subst asked
    refine ⟨still, goesOn, sent.handles.trans handles, fits, fun id listens => ?_⟩
    obtain ⟨before, kept⟩ := sent.of_listens live still listens
    exact (holds id before).imp_left fun given => accounts id given kept
  | @stopped node reply log found placed asked agreed errorFree =>
    obtain ⟨fits, accounts⟩ := tracksStreams.stop fit node.handle
    -- The node is gone, and with it at most the streams that its launcher let go of.
    have sent := Sent.cancelAll_announce live reply.released (registry.members.eraseIdx index)
      (.remove node.spec.address)
    subst asked
    refine ⟨still, goesOn, sent.handles.trans handles, fits, fun id listens => ?_⟩
    obtain ⟨before, kept⟩ := sent.of_listens live still listens
    exact (holds id before).imp_left fun given => accounts id given kept

end SubscribersHeld

end PeerCluster
