import PeerCluster.Proofs.Registry.Bookkeeping
import PeerCluster.Proofs.Session.Clusters

/-! Whoever is on the list of subscribers is held by somebody, in any session. -/

namespace PeerCluster.Session

open Machine SessionAction

/-- Whoever drops an object by its name changes what the end of that object changes. -/
theorem fabric_drop {session : Session} {name : String} {object : Slot}
    (found : session.slots.lookup name = some object) :
    (next session (.drop name)).fabric = (session.fabric.dropSlot object).value := by
  have drops : Leads (· = session) (SessionAction.drop name) fun _ left =>
      left.fabric = (session.fabric.dropSlot object).value := by
    -- The name leads to the object, and what is answered besides is of no matter.
    refine .bind (.slot? name) fun met => ?_
    rintro before ⟨rfl, same⟩
    obtain rfl := found.symm.trans same
    rfl
  exact drops session rfl

/-- What is right about a registry of a session, and about what it was at an earlier moment. -/
structure ExactCounts (moment final : Session) (home : Nat) : Prop where
  /-- The registry has a history of calls, of which the earlier moment has seen the first ones. -/
  history : ∃ past future,
    moment.fabric.registry home = after Registry.empty past ∧
    final.fabric.registry home = after Registry.empty (past ++ future)
  /-- Whoever reaches the membership has a handle of its own, and nobody else has one. -/
  handles : home < final.fabric.registries.length →
    (final.fabric.registry home).handles = Slot.holders (final.slots.map Prod.snd) home
  /-- The subscribers are the streams that go on; each is held by a task or by an object. -/
  listed : (final.fabric.registry home).lives = true → ∀ id,
    id ∈ (final.fabric.registry home).subscribers ↔
      (final.fabric.registry home).listens id = true ∧
        ((home, id) ∈ final.fabric.held ∨ (home, id) ∈ Slot.held (final.slots.map Prod.snd))
  /-- Whoever drops a stream takes that one off the list, if it is on it, and no other. -/
  dropped : (final.fabric.registry home).lives = true → ∀ name object id,
    final.slots.lookup name = some object → object.subscription? = some (home, id) →
    ((next final (.drop name)).fabric.registry home).subscribers =
      (final.fabric.registry home).subscribers.filter (· ≠ id)

namespace Kept

variable {session : Session} {home : Nat}

/-- Whoever drops a stream takes that one off the list of subscribers. -/
theorem subscribers_drop (kept : session.Kept .empty [])
    (lives : (session.fabric.registry home).lives = true) {name : String} {object : Slot} {id : Nat}
    (found : session.slots.lookup name = some object)
    (stream : object.subscription? = some (home, id)) :
    ((next session (.drop name)).fabric.registry home).subscribers =
      (session.fabric.registry home).subscribers.filter (· ≠ id) := by
  have attached := kept.owned.attached home
  -- Objects with a stream end it in the same way; all other objects have none.
  have ended : session.fabric.dropSlot object =
      ((session.fabric.registry home).cancel id).map (session.fabric.setRegistry home) := by
    cases object <;> cases stream <;> rfl
  rw [fabric_drop found, ended, Logged.value_map, Fabric.registry_setRegistry]
  split
  · exact attached.subscribers_cancel lives id
  · -- Where there is no registry there is no subscriber either.
    rename_i outside
    refine (List.filter_eq_self.mpr fun other member => ?_).symm
    have listens := (attached.mem_subscribers_iff lives other).mp member
    exact absurd ⟨rfl, Fabric.lt_of_listens listens⟩ outside

end Kept

/-- After any commands subscribers and counters of all registries of a session are exact. -/
theorem exactCounts (earlier later : List Command) (home : Nat) :
    ExactCounts (after empty earlier) (after empty (earlier ++ later)) home := by
  have before := kept_empty.after earlier
  have kept : (after empty (earlier ++ later)).Kept .empty [] := kept_empty.after _
  -- From the earlier moment on the session is one that keeps what it has then.
  have goesOn : (after empty (earlier ++ later)).Kept (after empty earlier).fabric [] := by
    rw [after_append]
    exact before.rebase.after later
  generalize after empty (earlier ++ later) = final at kept goesOn ⊢
  -- Registries only go on, from nothing to the earlier moment and from there to the end.
  obtain ⟨past, reached⟩ := before.owned.evolves home
  obtain ⟨future, ends⟩ := goesOn.owned.evolves home
  refine ⟨⟨past, future, reached, ?_⟩, kept.owned.handles home, fun lives id => ?_,
    fun lives _ _ _ found stream => kept.subscribers_drop lives found stream⟩
  · rw [ends, reached, after_append]
    rfl
  · -- Subscribers are those who listen, and whoever listens is held by a task or by an object.
    rw [(kept.owned.attached home).mem_subscribers_iff lives]
    refine ⟨fun listens => ⟨listens, ?_⟩, And.left⟩
    by_cases task : (home, id) ∈ final.fabric.held
    · exact .inl task
    · exact .inr (kept.owned.held home id listens task)

/--
Lists of subscribers and the counters of streams are exact.

Whatever is asked of a registry, its subscribers are the streams that were opened and not ended
since, in the order of their ids, and a change finds all of them listening. The counters of a stream
that goes on tell what was sent, taken and left, also after the last handle of the registry is gone.
The membership of a cluster, and every registry of a session, is such a registry at any moment. In a
session each subscriber is held by the task of a resolver, by the node of a cluster or by name, and
whoever drops a stream takes that one off the list and no other.
-/
theorem subscribers_and_counters_exact :
    (∀ calls, Registry.ExactCounts calls) ∧
      (∀ {σ η : Type} (launchers : Launcher σ η) (config : ClusterConfig) (launcher : σ)
        (earlier later : List ClusterCall),
        let begun := Deployment.start launchers config launcher
        ∃ past future, (after begun earlier).registry = after Registry.empty past ∧
          (after begun (earlier ++ later)).registry = after Registry.empty (past ++ future)) ∧
      ∀ earlier later home, ExactCounts (after empty earlier)
        (after empty (earlier ++ later)) home :=
  ⟨Registry.exactCounts, Deployment.exists_history, exactCounts⟩

/-- A stream is asked twice after its last handle went, and one of three streams is dropped. -/
theorem subscribers_and_counters_exact_of_six_commands :
    let peer : PeerAddress := ⟨"localhost", 1, 2, 3⟩
    let calls : List RegistryCall :=
      [.add peer, .subscribe, .remove 0, .add peer, .release, .poll 0, .poll 0]
    let projection := Projection.ofRole .discovery
    let final := after empty [
      .membership (.create "peers"), .membership (.subscribe "peers" "plain"),
      .membership (.project "peers" projection "seen"),
      .service (.follow "peers" projection true "resolver"),
      .membership (.add "peers" peer), .drop "plain"]
    (∃ found, (after Registry.empty calls).subscriptions[0]? = some found ∧ found.published = 2 ∧
        found.delivered = 1 ∧ found.published = found.delivered + found.depth) ∧
      (final.fabric.registry 0).lives = true ∧ (final.fabric.registry 0).subscribers = [1, 2] ∧
      ((0, 1) ∈ final.fabric.held ∨ (0, 1) ∈ Slot.held (final.slots.map Prod.snd)) ∧
      ((0, 2) ∈ final.fabric.held ∨ (0, 2) ∈ Slot.held (final.slots.map Prod.snd)) ∧
      (final.fabric.registry 0).handles = 1 ∧
      ((next final (.drop "seen")).fabric.registry 0).subscribers = [2] := by
  intro peer calls projection final
  -- The stream is opened right after the first member has joined.
  have opens : Registry.Opens calls [.add peer]
      [.remove 0, .add peer, .release, .poll 0, .poll 0] 0 := ⟨rfl, rfl⟩
  have lives : (final.fabric.registry 0).lives = true := by decide
  have subscribers : (final.fabric.registry 0).subscribers = [1, 2] := by decide
  -- The name leads to the projected stream, as a look at the entries shows.
  obtain ⟨object, found, stream⟩ : ∃ object, final.slots.lookup "seen" = some object ∧
      object.subscription? = some (0, 1) := Option.bind_eq_some_iff.mp (by decide)
  obtain ⟨books, _, exactCounts⟩ := subscribers_and_counters_exact
  -- The counters come from the first part of the promise, all else from the last one.
  obtain ⟨entry, met, published, delivered, depth, _⟩ :=
    ((books calls).counted _ _ 0 opens).going (by decide)
  obtain ⟨_, handles, listed, dropped⟩ : ExactCounts empty final 0 := exactCounts [] _ 0
  -- What is left are sums and lists over runs that are written down above.
  refine ⟨⟨entry, met, ?_, ?_, depth⟩, lives, subscribers, ?_, ?_, ?_, ?_⟩
  · exact published.trans (by decide)
  · exact delivered.trans (by decide)
  · exact ((listed lives 1).mp (by rw [subscribers]; decide)).2
  · exact ((listed lives 2).mp (by rw [subscribers]; decide)).2
  · rw [handles (by decide)]
    decide
  · rw [dropped lives _ _ 1 found stream, subscribers]
    decide

end PeerCluster.Session
