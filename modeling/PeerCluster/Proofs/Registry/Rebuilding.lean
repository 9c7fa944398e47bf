import PeerCluster.Proofs.Event.View
import PeerCluster.Proofs.Registry.Delivery

/-! Whoever folds the items of a stream into a view rebuilds the membership at some revision. -/

namespace PeerCluster

/-- The peer that a call adds, if it adds one. -/
def RegistryCall.joining? : RegistryCall → Option PeerAddress
  | add peer => some peer
  | _ => none

namespace Registry

open ChangeEvent Machine

/-- Nobody is added in a run of calls while an equal peer is still a member. -/
def AddsFresh (registry : Registry) : List RegistryCall → Prop
  | [] => True
  | call :: rest =>
    (∀ peer ∈ call.joining?, peer ∉ registry.members) ∧ (next registry call).AddsFresh rest

instance decidableAddsFresh : (registry : Registry) → (calls : List RegistryCall) →
    Decidable (registry.AddsFresh calls)
  | _, [] => inferInstanceAs (Decidable True)
  | registry, call :: rest =>
    have := decidableAddsFresh (next registry call) rest
    inferInstanceAs (Decidable (_ ∧ _))

namespace Step

variable {registry : Registry} {entry : Exchange RegistryCall RegistryAnswer}
  {result : Registry}

/-- A call turns the membership by the change that it makes, and otherwise leaves it alone. -/
theorem members (step : registry.Step entry result) :
    (entry.change? = none ∧ result.members = registry.members ∧
      result.revision = registry.revision) ∨
    (∃ event, entry.change? = some event ∧ Turns registry.members event result.members ∧
      result.revision = registry.revision + 1) := by
  cases step with
  | @unreachable call => exact .inl ⟨by cases call <;> rfl, rfl, rfl⟩
  | joined peer => exact .inr ⟨.add peer, rfl, .add peer, rfl⟩
  | @left _ peer found => exact .inr ⟨.remove peer, rfl, .remove found, rfl⟩
  | missed | opened | retained | released => exact .inl ⟨rfl, rfl, rfl⟩
  | polled id =>
    refine .inl ⟨rfl, ?_, ?_⟩
    · rw [poll_frame]
    · rw [poll_frame]
  | ended id =>
    refine .inl ⟨rfl, ?_, ?_⟩
    · rw [cancel_frame]
    · rw [cancel_frame]

/-- Only the peer that a call asks to add can join by it. -/
theorem call_of_joined (step : registry.Step entry result) {peer : PeerAddress}
    (joined : entry.change? = some (.add peer)) : peer ∈ entry.call.joining? := by
  cases step with
  | @unreachable call => cases call <;> simp [Exchange.change?] at joined
  | joined added => simpa [Exchange.change?, RegistryCall.joining?] using joined
  | left | missed | opened | retained | released | polled | ended =>
    simp [Exchange.change?] at joined

end Step

variable {registry : Registry}

/-- Each change counts as one revision. -/
theorem revision_after (calls : List RegistryCall) :
    (after registry calls).revision = registry.revision + (registry.changes calls).length := by
  -- A call makes one change or none, and the revision keeps count of them.
  induction calls generalizing registry with
  | nil => rfl
  | cons call rest ih =>
    rw [after, ih, changes_cons, List.length_append]
    rcases (registry.step call).members with ⟨none, _, same⟩ | ⟨event, some, _, more⟩
    · simp [none, same]
    · simp [some, more, Nat.add_assoc]

/-- Every revision up to the last one is that of some moment of a run. -/
theorem exists_moment (calls : List RegistryCall) {count : Nat}
    (bounded : count ≤ (registry.changes calls).length) :
    ∃ moment ∈ moments registry calls, moment.revision = registry.revision + count := by
  -- The revision goes up by one at a time, so it passes every number on its way.
  induction calls generalizing registry count with
  | nil =>
    obtain rfl : count = 0 := by simpa [changes, exchanges] using bounded
    exact ⟨registry, by simp [moments], rfl⟩
  | cons call rest ih =>
    cases count with
    | zero => exact ⟨registry, by simp [moments], rfl⟩
    | succ count =>
      rw [changes_cons, List.length_append] at bounded
      rcases (registry.step call).members with ⟨none, _, same⟩ | ⟨event, some, _, more⟩
      -- A call without a change leaves the whole way to the others.
      · have bounded : count + 1 ≤ ((next registry call).changes rest).length := by
          simpa [none] using bounded
        obtain ⟨moment, passed, reached⟩ := ih bounded
        exact ⟨moment, List.mem_cons_of_mem _ passed, by omega⟩
      -- A change is the first step of it.
      · have bounded : count ≤ ((next registry call).changes rest).length := by
          simp only [some, Option.toList_some, List.length_singleton] at bounded
          omega
        obtain ⟨moment, passed, reached⟩ := ih bounded
        exact ⟨moment, List.mem_cons_of_mem _ passed, by omega⟩

/-! ### With equal members -/

/-- A view of the members in some order stays one when it follows all changes of a run. -/
theorem rebuild_perm_members (calls : List RegistryCall) {view : List PeerAddress}
    (same : view.Perm registry.members) :
    (rebuild view (registry.changes calls)).Perm (after registry calls).members := by
  -- View and membership take each change together, and stay the same up to their order.
  induction calls generalizing registry view with
  | nil => exact same
  | cons call rest ih =>
    rw [changes_cons, rebuild_append]
    refine ih ?_
    rcases (registry.step call).members with ⟨none, unchanged, _⟩ | ⟨event, some, turns, _⟩
    · rw [none, unchanged]
      exact same
    · rw [some]
      exact turns.applyTo_perm same

/-- A view of what members are seen as stays one when it follows what their changes are seen as. -/
theorem rebuild_map_perm_members {α : Type} [DecidableEq α] (change : PeerAddress → α)
    (calls : List RegistryCall) {view : List α} (same : view.Perm (registry.members.map change)) :
    (rebuild view ((registry.changes calls).map (.map change))).Perm
      ((after registry calls).members.map change) := by
  induction calls generalizing registry view with
  | nil => exact same
  | cons call rest ih =>
    rw [changes_cons, List.map_append, rebuild_append]
    refine ih ?_
    rcases (registry.step call).members with ⟨none, unchanged, _⟩ | ⟨event, some, turns, _⟩
    · rw [none, unchanged]
      exact same
    · rw [some]
      exact (turns.map change).applyTo_perm same

/-- A view of the members has whoever leaves when it has followed the changes before that. -/
theorem mem_rebuild_of_left (calls : List RegistryCall) {view : List PeerAddress}
    (same : view.Perm registry.members) {seen unseen : List MemberEvent} {peer : PeerAddress}
    (split : registry.changes calls = seen ++ .remove peer :: unseen) :
    peer ∈ rebuild view seen := by
  induction calls generalizing registry view seen with
  | nil => simp [changes, exchanges] at split
  | cons call rest ih =>
    rw [changes_cons] at split
    rcases (registry.step call).members with ⟨none, unchanged, _⟩ | ⟨event, some, turns, _⟩
    · refine ih (unchanged ▸ same) ?_
      simpa [none] using split
    · rw [some] at split
      cases seen with
      | nil =>
        -- The removal is the change of this very call, and only a member can leave.
        obtain ⟨rfl, _⟩ := List.cons_eq_cons.mp split
        exact same.mem_iff.mpr turns.mem
      | cons first seen =>
        obtain ⟨rfl, tail⟩ := List.cons_eq_cons.mp split
        exact ih (turns.applyTo_perm same) tail

/-! ### With distinct members -/

/-- What is fresh in a run is fresh in each part of it. -/
theorem addsFresh_append (calls more : List RegistryCall) :
    registry.AddsFresh (calls ++ more) ↔
      registry.AddsFresh calls ∧ (after registry calls).AddsFresh more := by
  induction calls generalizing registry with
  | nil => simp [AddsFresh, after]
  | cons call rest ih => simp [AddsFresh, after, ih, and_assoc]

/-- Who joins by a call that adds nobody twice is new to the members. -/
theorem not_mem_of_joined {call : RegistryCall}
    (fresh : ∀ peer ∈ call.joining?, peer ∉ registry.members) (peer : PeerAddress)
    (joined : (exchange registry call).change? = some (.add peer)) : peer ∉ registry.members :=
  fresh peer ((registry.step call).call_of_joined joined)

/-- A view of distinct members in order stays one when it follows all changes of a fresh run. -/
theorem rebuild_eq_members (calls : List RegistryCall) (distinct : registry.members.Nodup)
    (fresh : registry.AddsFresh calls) :
    rebuild registry.members (registry.changes calls) = (after registry calls).members ∧
      (after registry calls).members.Nodup := by
  -- As long as the members are distinct, the view erases the one that leaves, and no other.
  induction calls generalizing registry with
  | nil => exact ⟨rfl, distinct⟩
  | cons call rest ih =>
    obtain ⟨first, later⟩ := fresh
    rw [changes_cons, rebuild_append]
    rcases (registry.step call).members with ⟨none, unchanged, _⟩ | ⟨event, some, turns, _⟩
    · rw [none, after]
      have still : (next registry call).members.Nodup := unchanged ▸ distinct
      have more := ih still later
      rwa [unchanged] at more
    · have still : (next registry call).members.Nodup :=
        turns.nodup distinct fun peer same => not_mem_of_joined first peer (same ▸ some)
      rw [some]
      show rebuild (event.applyTo registry.members) _ = _ ∧ _
      rw [turns.applyTo_eq distinct]
      exact ih still later

/-- A view of distinct members does not have who joins before that in a fresh run. -/
theorem not_mem_rebuild_of_joined (calls : List RegistryCall) (distinct : registry.members.Nodup)
    (fresh : registry.AddsFresh calls) {seen unseen : List MemberEvent} {peer : PeerAddress}
    (split : registry.changes calls = seen ++ .add peer :: unseen) :
    peer ∉ rebuild registry.members seen := by
  induction calls generalizing registry seen with
  | nil => simp [changes, exchanges] at split
  | cons call rest ih =>
    obtain ⟨first, later⟩ := fresh
    rw [changes_cons] at split
    rcases (registry.step call).members with ⟨none, unchanged, _⟩ | ⟨event, some, turns, _⟩
    · rw [← unchanged]
      exact ih (unchanged ▸ distinct) later (by simpa [none] using split)
    · have still : (next registry call).members.Nodup :=
        turns.nodup distinct fun peer same => not_mem_of_joined first peer (same ▸ some)
      rw [some] at split
      cases seen with
      | nil =>
        -- Until this call the view is the membership itself.
        obtain ⟨rfl, _⟩ := List.cons_eq_cons.mp split
        exact not_mem_of_joined first peer some
      | cons next seen =>
        obtain ⟨rfl, tail⟩ := List.cons_eq_cons.mp split
        show peer ∉ rebuild (event.applyTo registry.members) seen
        rw [turns.applyTo_eq distinct]
        exact ih still later tail

/-! ### Streams of a run -/

/-- An item of a stream is one of the members at its start, or it comes after all of them. -/
theorem item_cases {members : List PeerAddress} {changes seen unseen : List MemberEvent}
    {event : MemberEvent} (split : members.map .add ++ changes = seen ++ event :: unseen) :
    (∃ front peer back, members = front ++ peer :: back ∧ event = .add peer ∧
      seen = front.map .add) ∨
    (∃ taken, seen = members.map .add ++ taken ∧ changes = taken ++ event :: unseen) := by
  -- Either the items seen go beyond the members, or they end among them.
  rcases List.append_eq_append_iff.mp split with ⟨taken, before, after⟩ | ⟨more, before, after⟩
  · exact .inr ⟨taken, before, after⟩
  · obtain ⟨front, back, parts, first, second⟩ := List.map_eq_append_iff.mp before
    cases back with
    | nil =>
      -- All members were seen and nothing else, so the item is the first change.
      refine .inr ⟨[], ?_, ?_⟩
      · simp [parts, first]
      · simpa [← second] using after.symm
    | cons peer back =>
      obtain ⟨joined, _⟩ := List.cons_eq_cons.mp (after.trans (by rw [← second]; rfl))
      exact .inl ⟨front, peer, back, parts, joined, first.symm⟩

namespace Opens

variable {calls earlier later : List RegistryCall} {id : Nat}

/-- Opening a stream leaves the membership and its revision alone. -/
theorem members_start (opens : Opens calls earlier later id) :
    let start := next (after empty earlier) .subscribe
    start.members = (after empty earlier).members ∧
      start.revision = (after empty earlier).revision ∧ after empty calls = after start later := by
  intro start
  rcases ((after empty earlier).step .subscribe).members with
    ⟨_, members, revision⟩ | ⟨event, some, _⟩
  · exact ⟨members, revision, by rw [opens.split, after_append]; rfl⟩
  · exact absurd some (by simp [exchange, Exchange.change?])

/-- What is fresh in a whole run starts a stream with distinct members and is fresh from there. -/
theorem fresh (opens : Opens calls earlier later id) (fresh : empty.AddsFresh calls) :
    (after empty earlier).members.Nodup ∧
      (next (after empty earlier) .subscribe).AddsFresh later := by
  rw [opens.split, addsFresh_append] at fresh
  exact ⟨(rebuild_eq_members earlier List.nodup_nil fresh.1).2, fresh.2.2⟩

/-- A stream that is past the members at its start has given the changes up to some moment. -/
theorem given_eq (opens : Opens calls earlier later id) (kept : .cancel id ∉ later) {count : Nat}
    (taken : (empty.given id calls).length = (after empty earlier).members.length + count)
    {before rest : List RegistryCall} (split : later = before ++ rest)
    (reached : (after (next (after empty earlier) .subscribe) before).revision =
      (after empty earlier).revision + count) :
    empty.given id calls = (after empty earlier).members.map .add ++
      (next (after empty earlier) .subscribe).changes before := by
  -- The revision tells how many changes there are, and the length how many were taken.
  have whole := opens.given_append_awaiting kept
  rw [split, changes_append, ← List.append_assoc] at whole
  rw [revision_after, opens.members_start.2.1] at reached
  refine (List.append_inj whole ?_).1
  rw [taken, List.length_append, List.length_map]
  omega

/-- There is a moment for every number of changes that a stream can have given. -/
theorem exists_moment (opens : Opens calls earlier later id) (kept : .cancel id ∉ later)
    {count : Nat}
    (taken : (empty.given id calls).length = (after empty earlier).members.length + count) :
    ∃ moment ∈ moments (next (after empty earlier) .subscribe) later,
      moment.revision = (after empty earlier).revision + count := by
  -- What was given is a part of all there is, so there are at least as many changes.
  have lengths := congrArg List.length (opens.given_append_awaiting kept)
  simp only [List.length_append, List.length_map] at lengths
  rw [← opens.members_start.2.1]
  exact Registry.exists_moment later (by omega)

/-- All that a stream gives when it is asked until it is not ready. -/
theorem given_append_drained (opens : Opens calls earlier later id) (kept : .cancel id ∉ later) :
    empty.given id calls ++ ((after empty calls).drain id none).1.items =
      (after empty earlier).members.map .add ++
        (next (after empty earlier) .subscribe).changes later := by
  rw [drain_none_eq]
  exact opens.given_append_awaiting kept

/-- A consumer of all that a stream gives rebuilds the last membership. -/
theorem rebuild_drained (opens : Opens calls earlier later id) (kept : .cancel id ∉ later) :
    let view := rebuild [] (empty.given id calls ++ ((after empty calls).drain id none).1.items)
    view.Perm (after empty calls).members ∧
      (empty.AddsFresh calls → view = (after empty calls).members) := by
  intro view
  obtain ⟨members, _, final⟩ := opens.members_start
  have seen : view = rebuild (after empty earlier).members
      ((next (after empty earlier) .subscribe).changes later) := by
    show rebuild [] (_ ++ _) = _
    rw [opens.given_append_drained kept, rebuild_append, rebuild_additions, List.nil_append]
  rw [seen, final, ← members]
  refine ⟨rebuild_perm_members later (.refl _), fun fresh => ?_⟩
  obtain ⟨distinct, later'⟩ := opens.fresh fresh
  exact (rebuild_eq_members later (members ▸ distinct) later').1

end Opens

/--
Whoever folds the items of a stream into a view rebuilds the membership.

Who leaves is in the view. Once the members at the start are taken and some changes after them, the
view has the members at the revision that those changes led to, and in the end the last members.
The order may differ only if somebody is added while an equal peer is still a member.
-/
theorem stream_rebuilds_members {calls earlier later : List RegistryCall} {id : Nat}
    (opens : Opens calls earlier later id) (kept : .cancel id ∉ later) :
    let start := after empty earlier
    let passed := moments (next start .subscribe) later
    let given := empty.given id calls
    let drained := fun id => empty.given id calls ++ ((after empty calls).drain id none).1.items
    (∀ seen peer unseen, given = seen ++ .remove peer :: unseen → peer ∈ rebuild [] seen) ∧
    (∀ count, given.length = start.members.length + count →
      (∃ moment ∈ passed, moment.revision = start.revision + count) ∧
      ∀ moment ∈ passed, moment.revision = start.revision + count →
        (rebuild [] given).Perm moment.members ∧
        (empty.AddsFresh calls → rebuild [] given = moment.members)) ∧
    (rebuild [] (drained id)).Perm (after empty calls).members ∧
    (empty.AddsFresh calls → rebuild [] (drained id) = (after empty calls).members) ∧
    (∀ earlier later other, Opens calls earlier later other → .cancel other ∉ later →
      (rebuild [] (drained id)).Perm (rebuild [] (drained other))) ∧
    (empty.AddsFresh calls → ∀ seen peer unseen, given = seen ++ .add peer :: unseen →
      peer ∉ rebuild [] seen) := by
  intro start passed given drained
  obtain ⟨members, revision, _⟩ := opens.members_start
  have whole := opens.given_append_awaiting kept
  refine ⟨?_, ?_, (opens.rebuild_drained kept).1, (opens.rebuild_drained kept).2, ?_, ?_⟩
  · -- A removal is never among the members at the start, so a change has told of it.
    intro seen peer unseen split
    change given ++ _ = _ at whole
    rw [split, List.append_assoc, List.cons_append] at whole
    rcases item_cases whole.symm with ⟨_, _, _, _, joined, _⟩ | ⟨taken, rfl, changes⟩
    · cases joined
    · rw [rebuild_append, rebuild_additions, List.nil_append]
      exact mem_rebuild_of_left later (members ▸ .refl _) changes
  · -- The revision singles out the calls whose changes have been taken.
    intro count taken
    refine ⟨opens.exists_moment kept taken, fun moment member reached => ?_⟩
    obtain ⟨before, rest, split, rfl⟩ := (mem_moments_iff _ _).mp member
    have seen : rebuild [] given =
        rebuild start.members ((next start .subscribe).changes before) := by
      show rebuild [] (empty.given id calls) = _
      rw [opens.given_eq kept taken split reached, rebuild_append, rebuild_additions,
        List.nil_append]
    rw [seen, ← members]
    refine ⟨rebuild_perm_members before (.refl _), fun fresh => ?_⟩
    obtain ⟨distinct, later'⟩ := opens.fresh fresh
    rw [split, addsFresh_append] at later'
    exact (rebuild_eq_members before (members ▸ distinct) later'.1).1
  · -- Both views have the last members, each in some order.
    intro earlier' later' other opens' kept'
    exact (opens.rebuild_drained kept).1.trans (opens'.rebuild_drained kept').1.symm
  · intro fresh seen peer unseen split
    obtain ⟨distinct, later'⟩ := opens.fresh fresh
    change given ++ _ = _ at whole
    rw [split, List.append_assoc, List.cons_append] at whole
    rcases item_cases whole.symm with
      ⟨front, again, back, parts, joined, rfl⟩ | ⟨taken, rfl, changes⟩
    · -- Somebody who was a member at the start stands there once.
      obtain rfl := ChangeEvent.add.inj joined
      rw [rebuild_additions, List.nil_append]
      rw [parts] at distinct
      exact fun member => (List.nodup_append.mp distinct).2.2 _ member _ List.mem_cons_self rfl
    · rw [rebuild_append, rebuild_additions, List.nil_append, ← members]
      exact not_mem_rebuild_of_joined later (members ▸ distinct) later' changes

/-- A member leaves and joins again; the stream is not yet told of the latter. -/
theorem stream_rebuilds_members_of_eight_calls :
    let earlier : List RegistryCall := [.add (.sample 10), .add (.sample 20)]
    let later : List RegistryCall := [.poll 0, .poll 0, .remove 0, .poll 0, .add (.sample 10)]
    let calls := earlier ++ .subscribe :: later
    let moment := after (after empty earlier) [.subscribe, .poll 0, .poll 0, .remove 0]
    Opens calls earlier later 0 ∧ .cancel 0 ∉ later ∧ empty.AddsFresh calls ∧
      (empty.given 0 calls).length = (after empty earlier).members.length + 1 ∧
      moment.revision = (after empty earlier).revision + 1 ∧
      rebuild [] (empty.given 0 calls) = moment.members := by
  have opens : Opens [.add (.sample 10), .add (.sample 20), .subscribe, .poll 0, .poll 0,
      .remove 0, .poll 0, .add (.sample 10)] [.add (.sample 10), .add (.sample 20)]
      [.poll 0, .poll 0, .remove 0, .poll 0, .add (.sample 10)] 0 := ⟨rfl, by decide⟩
  have rebuilt := ((stream_rebuilds_members opens (by decide)).2.1 1 (by decide)).2
    (after (after empty [.add (.sample 10), .add (.sample 20)])
      [.subscribe, .poll 0, .poll 0, .remove 0]) (by decide) (by decide)
  exact ⟨opens, by decide, by decide, by decide, by decide, rebuilt.2 (by decide)⟩

/-- Of two equal members the later one leaves, and a consumer's view erases the earlier one. -/
example :
    let calls : List RegistryCall := [.subscribe, .add (.sample 10), .add (.sample 20),
      .add (.sample 10), .remove 2, .poll 0, .poll 0, .poll 0, .poll 0]
    (after empty calls).members = [.sample 10, .sample 20] ∧
      rebuild [] (empty.given 0 calls) = [.sample 20, .sample 10] := by
  decide

end Registry

end PeerCluster
