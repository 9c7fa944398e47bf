import PeerCluster.Proofs.Registry.Counting

/-! After any calls a registry sends to the streams that are open, and its counters are exact. -/

namespace PeerCluster

/-- The id that a call gave to a new stream, if it opened one. -/
def Exchange.opened? : Exchange RegistryCall RegistryAnswer → Option Nat
  | ⟨.subscribe, .opened id, _⟩ => some id
  | _ => none

namespace Registry

open Machine

/-! ### Ids -/

/-- The ids that calls give to new streams, in order. -/
def openings (registry : Registry) (calls : List RegistryCall) : List Nat :=
  (exchanges registry calls).filterMap Exchange.opened?

/-- A call that opens a stream gives it the next id, and no other call uses an id up. -/
theorem Step.opened? {registry result : Registry} {entry : Exchange RegistryCall RegistryAnswer}
    (step : registry.Step entry result) :
    (entry.opened? = none ∧ result.nextId = registry.nextId) ∨
      (entry.call = .subscribe ∧ entry.answer = .opened registry.nextId ∧
        entry.opened? = some registry.nextId ∧ result.nextId = registry.nextId + 1) := by
  -- By the kind of step: only opening a stream adds a subscription.
  cases step with
  | @unreachable call => exact .inl ⟨by cases call <;> rfl, rfl⟩
  | joined | left => exact .inl ⟨rfl, registry.nextId_announce _ _⟩
  | missed | retained | released => exact .inl ⟨rfl, rfl⟩
  | opened => exact .inr ⟨rfl, rfl, rfl, registry.nextId_subscribe⟩
  | polled id => exact .inl ⟨rfl, registry.nextId_poll id⟩
  | ended id => exact .inl ⟨rfl, registry.nextId_cancel id⟩

/-- The ids given out are those from the next one at the start up to the next one at the end. -/
theorem openings_eq (registry : Registry) (calls : List RegistryCall) :
    registry.nextId + (registry.openings calls).length = (after registry calls).nextId ∧
      registry.openings calls = List.range' registry.nextId (registry.openings calls).length := by
  -- By induction on the calls, of which each gives out no id or the next one.
  induction calls generalizing registry with
  | nil => exact ⟨rfl, rfl⟩
  | cons call rest ih =>
    obtain ⟨count, later⟩ := ih (next registry call)
    rcases (registry.step call).opened? with ⟨none, same⟩ | ⟨_, _, some, more⟩
    · -- The first call gave out nothing, so the others start at the same id.
      have all : registry.openings (call :: rest) = (next registry call).openings rest := by
        simp [openings, exchanges, none]
      rw [all, after, ← same]
      exact ⟨count, later⟩
    · -- The first call gave out the next id, so the others start behind it.
      have all : registry.openings (call :: rest) =
          registry.nextId :: (next registry call).openings rest := by
        simp [openings, exchanges, some]
      rw [all, after, ← count, more, List.length_cons]
      refine ⟨by omega, ?_⟩
      rw [List.range'_succ, ← more, ← later]

/-- The ids given out from the start are the first ones, each once and in order. -/
theorem openings_empty (calls : List RegistryCall) :
    empty.openings calls = List.range (after empty calls).nextId := by
  obtain ⟨count, all⟩ := empty.openings_eq calls
  -- A new registry has given out no id yet.
  have zero : empty.nextId = 0 := rfl
  rw [zero, Nat.zero_add] at count
  rw [all, zero, count, List.range_eq_range']

/-- Every id below the next one was given to a stream by some call. -/
theorem exists_opens (calls : List RegistryCall) {id : Nat}
    (known : id < (after empty calls).nextId) :
    ∃ earlier later, Opens calls earlier later id := by
  -- All ids below the next one are among those given out, so one of the calls gave it.
  have given : id ∈ empty.openings calls := by
    rw [openings_empty]
    exact List.mem_range.mpr known
  obtain ⟨entry, member, opened⟩ := List.mem_filterMap.mp given
  obtain ⟨earlier, call, later, split, rfl⟩ := (mem_exchanges_iff _ _).mp member
  rcases ((after empty earlier).step call).opened? with ⟨none, _⟩ | ⟨asked, answer, some, _⟩
  · -- A call without an opening is not the one that gave the id.
    cases none.symm.trans opened
  · obtain rfl := Option.some.inj (some.symm.trans opened)
    obtain rfl : call = .subscribe := asked
    exact ⟨earlier, later, split, answer⟩

/-- A known stream listens exactly if it has not been cancelled since it was opened. -/
theorem listens_iff (calls : List RegistryCall) (id : Nat) :
    (after empty calls).listens id = true ↔
      ∃ earlier later, Opens calls earlier later id ∧ .cancel id ∉ later := by
  constructor
  · intro listens
    -- Whoever listens was opened, and an end since would have been noticed.
    obtain ⟨earlier, later, opens⟩ := exists_opens calls (lt_nextId_of_listens listens)
    refine ⟨earlier, later, opens, ?_⟩
    rw [opens.listens] at listens
    exact of_decide_eq_true listens
  · -- Whoever was opened and never ended still listens.
    rintro ⟨earlier, later, opens, kept⟩
    rw [opens.listens]
    exact decide_eq_true kept

/-! ### Counters -/

/-- What the counters of a stream tell after the calls of a run, in which it was opened. -/
structure Counted (calls earlier later : List RegistryCall) (id : Nat) : Prop where
  /-- As long as a stream goes on they tell what was sent, what was taken, and what waits. -/
  going : .cancel id ∉ later →
    ∃ found, (after empty calls).subscriptions[id]? = some found ∧
      found.published = (after empty calls).revision - (after empty earlier).revision ∧
      found.delivered =
        ((empty.given id calls).drop (after empty earlier).members.length).length ∧
      found.published = found.delivered + found.depth ∧ found.depth = found.live.length
  /-- Once it is cancelled they stay what they were. -/
  ended : ∀ before rest, later = before ++ .cancel id :: rest → .cancel id ∉ before →
    ∃ found last, (after empty calls).subscriptions[id]? = some found ∧
      (after empty (earlier ++ .subscribe :: before)).subscriptions[id]? = some last ∧
      found.published = last.published ∧ found.delivered = last.delivered ∧
      found.depth = last.depth ∧ found.live = last.live

namespace Opens

variable {calls earlier later : List RegistryCall} {id : Nat}

/-- The subscription with which a stream starts. -/
theorem subscription_start (opens : Opens calls earlier later id) :
    (next (after empty earlier) .subscribe).subscriptions[id]? =
      some (.startingAt (after empty earlier).members) := by
  -- The opening is a step that can only be the opening of a stream.
  have newest := opens.start.1
  have step := (after empty earlier).step .subscribe
  unfold exchange at step
  rw [opens.opened] at step
  generalize next (after empty earlier) .subscribe = start at step ⊢
  cases step with
  | opened =>
    rw [newest]
    exact Array.getElem?_push_size

/-- The subscription of a stream that goes on counts the changes since it was opened. -/
theorem published (opens : Opens calls earlier later id) (kept : .cancel id ∉ later) :
    ∃ found, (after empty calls).subscriptions[id]? = some found ∧ found.cancelled = false ∧
      found.published = ((next (after empty earlier) .subscribe).changes later).length := by
  have attached := opens.start.2.1
  obtain ⟨found, met, open_, count⟩ :=
    -- What has changed since the opening is counted from zero, for it starts with nothing sent.
    published_after attached opens.subscription_start rfl kept
  rw [opens.members_start.2.2]
  exact ⟨found, met, open_, count.trans (Nat.zero_add _)⟩

/-- The counters of a stream that goes on are exact. -/
theorem counted_going (opens : Opens calls earlier later id) (kept : .cancel id ∉ later) :
    ∃ found, (after empty calls).subscriptions[id]? = some found ∧
      found.published = (after empty calls).revision - (after empty earlier).revision ∧
      found.delivered =
        ((empty.given id calls).drop (after empty earlier).members.length).length ∧
      found.published = found.delivered + found.depth ∧ found.depth = found.live.length := by
  obtain ⟨found, met, open_, sent⟩ := opens.published kept
  -- The counters are balanced at the end of every run.
  have balanced := balanced_empty.run attached_empty calls id found met
  have depth := balanced.depth_eq
  refine ⟨found, met, ?_, ?_, depth ▸ balanced.sent, depth⟩
  · -- Each change since the start is a revision.
    obtain ⟨_, revision, reached⟩ := opens.members_start
    rw [sent, reached, revision_after, revision, Nat.add_sub_cancel_left]
  · -- What was given and what waits is counted twice: as items, and as members and changes.
    have awaits : (after empty calls).awaiting id =
        found.replay.map .add ++ found.live.toList := by
      simp [awaiting, met, Subscription.awaiting, open_]
    have lengths := congrArg List.length (opens.given_append_awaiting kept)
    rw [awaits] at lengths
    simp only [List.length_append, List.length_map, Queue.length_toList, ← sent] at lengths
    have fits := balanced.sent
    rw [List.length_drop]
    rcases balanced.ordered with none | replayed
    · omega
    · rw [replayed, List.length_nil] at lengths
      omega

/-- The counters of a stream that was cancelled stay what they were. -/
theorem counted_ended (opens : Opens calls earlier later id) {before rest : List RegistryCall}
    (split : later = before ++ .cancel id :: rest) (kept : .cancel id ∉ before) :
    ∃ found last, (after empty calls).subscriptions[id]? = some found ∧
      (after empty (earlier ++ .subscribe :: before)).subscriptions[id]? = some last ∧
      found.published = last.published ∧ found.delivered = last.delivered ∧
      found.depth = last.depth ∧ found.live = last.live := by
  -- Up to its end the stream is one that goes on, and is known as such.
  have begins : Opens (earlier ++ .subscribe :: before) earlier before id := ⟨rfl, opens.opened⟩
  obtain ⟨last, met, open_, _⟩ := begins.published kept
  have attached := attached_empty.run (earlier ++ .subscribe :: before)
  generalize ending : after empty (earlier ++ .subscribe :: before) = moment at met attached
  -- The end keeps the counters, and from then on nothing happens to the subscription.
  have ends : (next moment (.cancel id)).subscriptions[id]? = some last.ended := by
    have value : next moment (.cancel id) = (moment.cancel id).value := rfl
    rw [value, subscriptions_cancel, if_pos rfl, met]
    rfl
  have reached : after empty calls = after (next moment (.cancel id)) rest := by
    rw [opens.split, split, ← ending, after_append, after_append]
    exact after_append ..
  have gone : last.ended.cancelled = true := last.cancelled_ended
  refine ⟨last.ended, last, ?_, met, ?_⟩
  · rw [reached]
    exact subscription_after_of_cancelled (attached.step (moment.step (.cancel id))) ends gone rest
  · simp [Subscription.ended, open_, Subscription.cancel, Subscription.depth]

/-- The counters of a stream are exact while it goes on, and stay once it is cancelled. -/
theorem counted (opens : Opens calls earlier later id) : Counted calls earlier later id :=
  ⟨opens.counted_going, fun _ _ split kept => opens.counted_ended split kept⟩

end Opens

/-! ### Subscribers -/

/-- What is right about the list of subscribers and about the counters after any calls. -/
structure ExactCounts (calls : List RegistryCall) : Prop where
  /-- Ids are given out in order, and none is given out twice. -/
  ids : empty.openings calls = List.range (after empty calls).nextId
  /-- The subscribers are the streams that were opened and have not been cancelled since. -/
  listed : (after empty calls).lives = true → ∀ id, id ∈ (after empty calls).subscribers ↔
    ∃ earlier later, Opens calls earlier later id ∧ .cancel id ∉ later
  ordered : (after empty calls).lives = true →
    (after empty calls).subscribers.Pairwise (· < ·) ∧
      ∀ id ∈ (after empty calls).subscribers, id < (after empty calls).nextId
  /-- The end of a stream takes that one off the list. -/
  detached : (after empty calls).lives = true → ∀ id,
    (next (after empty calls) (.cancel id)).subscribers =
      (after empty calls).subscribers.filter (· ≠ id)
  /-- Another end takes nothing off and is not even logged. -/
  again : ∀ earlier later id, Opens calls earlier later id → .cancel id ∈ later →
    Machine.perform (after empty calls) (.cancel id) = .quiet (.done, after empty calls)
  /-- A change strikes nobody off the list. -/
  open_ : (after empty calls).lives = true → ∀ members event,
    let sent := publish { after empty calls with members } event
    sent.log = [] ∧ sent.value.subscribers = (after empty calls).subscribers
  counted : ∀ earlier later id, Opens calls earlier later id → Counted calls earlier later id

/-- The end of a subscription that has ended is nothing at all. -/
theorem cancel_of_deaf {registry : Registry} {id : Nat} (deaf : registry.listens id = false) :
    registry.cancel id = .quiet registry := by
  -- It was never opened, or it has ended, and in both cases nothing is done.
  rw [listens_eq] at deaf
  unfold cancel
  cases found : registry.subscriptions[id]? with
  | none => rfl
  | some subscription =>
    have cancelled : subscription.cancelled = true := by simpa [found] using deaf
    simp [cancelled]

/-- Whoever is sent a change of a living registry listens. -/
theorem Attached.publish_frame {registry : Registry} (attached : registry.Attached)
    (lives : registry.lives = true) (members : List PeerAddress) (event : MemberEvent) :
    let sent := publish { registry with members } event
    sent.log = [] ∧ sent.value.subscribers = registry.subscribers := by
  have listening : ∀ id ∈ registry.subscribers, registry.listens id = true :=
    fun id => (attached.mem_subscribers_iff lives id).mp
  -- Nobody is struck off, so nothing is said and the list stays.
  constructor
  · have nobody : registry.subscribers.filter (fun id => !registry.listens id) = [] := by
      refine List.filter_eq_nil_iff.mpr fun id member => ?_
      simp [listening id member]
    show (registry.subscribers.filter _).map _ = []
    exact List.map_eq_nil_iff.mpr nobody
  · exact List.filter_eq_self.mpr listening

/-- After any calls the list of subscribers and the counters are right. -/
theorem exactCounts (calls : List RegistryCall) : ExactCounts calls := by
  have attached := attached_empty.run calls
  refine ⟨openings_empty calls, ?_, ?_, ?_, ?_, ?_, fun _ _ _ opens => opens.counted⟩
  · -- Subscribers are those who listen, and these are known by the calls of the run.
    intro lives id
    rw [attached.mem_subscribers_iff lives, listens_iff]
  · -- The list filters the ids in order, so it is in order as well.
    intro lives
    rw [attached lives]
    refine ⟨List.pairwise_lt_range.filter _, fun id member => ?_⟩
    exact List.mem_range.mp (List.mem_filter.mp member).1
  · exact fun lives id => attached.subscribers_cancel lives id
  · -- A second end finds the stream cancelled.
    intro earlier later id opens ended
    have deaf : (after empty calls).listens id = false := by simp [opens.listens, ended]
    show ((after empty calls).cancel id).map _ = _
    rw [cancel_of_deaf deaf]
    rfl
  · exact fun lives => attached.publish_frame lives

end Registry

end PeerCluster
