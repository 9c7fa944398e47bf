import PeerCluster.Proofs.Draining
import PeerCluster.Proofs.Registry.Attachment

/-! What a stream has yet to give, and how asking takes it. -/

namespace PeerCluster

/-- The items that a subscription has yet to give, in order. -/
def Subscription.awaiting (subscription : Subscription) : List MemberEvent :=
  if subscription.cancelled then []
  else subscription.replay.map .add ++ subscription.live.toList

/-- The answer to a poll that finds no item. -/
def Subscription.idle (lives : Bool) (subscription : Subscription) : Poll MemberEvent :=
  if lives && !subscription.cancelled then .pending else .finished

namespace Subscription

/-- A poll takes the first awaited item, and without one changes nothing. -/
theorem poll_awaiting (lives : Bool) (subscription : Subscription) :
    (∃ event rest, subscription.awaiting = event :: rest ∧
      (subscription.poll lives).1 = .ready event ∧
      (subscription.poll lives).2.awaiting = rest) ∨
    (subscription.awaiting = [] ∧
      subscription.poll lives = (subscription.idle lives, subscription)) := by
  -- Replayed members come before live changes both when waiting and when polled.
  rcases subscription.poll_cases lives with ⟨cancelled, answered⟩ | ⟨open_, taken⟩
  · -- A cancelled subscription awaits nothing, and its polls find it finished.
    right
    simp [awaiting, idle, cancelled, answered]
  · rcases taken with ⟨peer, rest, replay, answered⟩ | ⟨event, rest, replay, live, answered⟩ |
      ⟨replay, live, answered⟩
    · -- A member that is left to replay comes first.
      left
      exact ⟨.add peer, rest.map .add ++ subscription.live.toList,
        by simp [awaiting, open_, replay], by rw [answered], by simp [answered, awaiting, open_]⟩
    · -- After the replay the oldest change comes first.
      left
      exact ⟨event, rest.toList, by simp [awaiting, open_, replay, live], by rw [answered],
        by simp [answered, awaiting, open_, replay]⟩
    · -- Without either the poll finds nothing and keeps the subscription.
      right
      simp [awaiting, idle, open_, replay, live, answered]

/-- A change comes after everything that is awaited already. -/
theorem awaiting_receive {subscription : Subscription} (open_ : subscription.cancelled = false)
    (event : MemberEvent) :
    (subscription.receive event).awaiting = subscription.awaiting ++ [event] := by
  -- A change that is received is put behind the live ones, which come after the replay.
  simp [receive, awaiting, open_]

/-- At most what is buffered is awaited. -/
theorem length_awaiting_le (subscription : Subscription) :
    subscription.awaiting.length ≤ subscription.buffered := by
  unfold awaiting buffered
  -- A cancelled subscription awaits nothing; any other awaits members and changes.
  split
  · simp
  · simp

end Subscription

namespace Registry

/-- The items that a stream has yet to give, in order. -/
def awaiting (registry : Registry) (id : Nat) : List MemberEvent :=
  registry.subscriptions[id]?.elim [] Subscription.awaiting

/-- The answer to a poll of a stream that finds no item. -/
def idle (registry : Registry) (id : Nat) : Poll MemberEvent :=
  if registry.lives && registry.listens id then .pending else .finished

/-- How a stream that is asked for more than it awaits comes to its end. -/
def idleTail (registry : Registry) (id : Nat) : DrainTail :=
  if registry.lives && registry.listens id then .pending else .finished

variable (registry : Registry)

/-- A poll takes the first awaited item, and without one changes nothing. -/
theorem poll_awaiting (id : Nat) :
    (∃ event rest, registry.awaiting id = event :: rest ∧
      (registry.poll id).1 = .ready event ∧ (registry.poll id).2.awaiting id = rest) ∨
    (registry.awaiting id = [] ∧ registry.poll id = (registry.idle id, registry)) := by
  cases found : registry.subscriptions[id]? with
  -- Where no stream was opened a poll answers the end and changes nothing.
  | none =>
    right
    simp [awaiting, idle, listens_eq, poll_eq, found]
  | some subscription =>
    have here : (registry.poll id).2.subscriptions[id]? =
        some (subscription.poll registry.lives).2 := by
      simp [subscriptions_poll, found]
    rcases subscription.poll_awaiting registry.lives with
      ⟨event, rest, awaited, answer, left⟩ | ⟨awaited, answered⟩
    · left
      -- The answer and what is left are those of the subscription that is stored.
      exact ⟨event, rest, by simp [awaiting, found, awaited], by simp [poll_eq, found, answer],
        by simp [awaiting, here, left]⟩
    · right
      obtain ⟨inside, stored⟩ := Array.getElem?_eq_some_iff.mp found
      subst stored
      refine ⟨by simp [awaiting, found, awaited], ?_⟩
      -- The subscription is put back as it was found.
      rw [poll_eq, found]
      simp [answered, idle, listens_eq, inside, Subscription.idle, Array.setIfInBounds]

/-- A stream that awaits nothing more gives nothing; it goes on only while both sides do. -/
theorem poll_of_awaiting_nil {id : Nat} (nothing : registry.awaiting id = []) :
    registry.poll id = (registry.idle id, registry) := by
  -- The other outcome of a poll needs something that is awaited.
  rcases registry.poll_awaiting id with ⟨event, rest, awaited, _⟩ | ⟨_, answered⟩
  · simp [nothing] at awaited
  · exact answered

/-- Only who listens awaits anything. -/
theorem awaiting_of_deaf {id : Nat} (deaf : registry.listens id = false) :
    registry.awaiting id = [] := by
  -- It is not there, or it is cancelled, and awaits nothing in either case.
  rw [listens_eq] at deaf
  unfold awaiting
  cases found : registry.subscriptions[id]? with
  | none => rfl
  | some subscription =>
    have cancelled : subscription.cancelled = true := by simpa [found] using deaf
    simp [Subscription.awaiting, cancelled]

/-- At most what is buffered is awaited. -/
theorem length_awaiting_le (id : Nat) : (registry.awaiting id).length ≤ registry.buffered id := by
  unfold awaiting buffered
  cases registry.subscriptions[id]? with
  | none => simp
  | some subscription => exact subscription.length_awaiting_le

/-- Whoever listens awaits all that is buffered. -/
theorem length_awaiting_of_listens {id : Nat} (listens : registry.listens id = true) :
    (registry.awaiting id).length = registry.buffered id := by
  -- A stream that listens is stored and open, so nothing of what is buffered is given up.
  rw [listens_eq] at listens
  unfold awaiting buffered
  cases found : registry.subscriptions[id]? with
  | none => simp [found] at listens
  | some subscription =>
    have open_ : subscription.cancelled = false := by simpa [found] using listens
    simp [Subscription.awaiting, Subscription.buffered, open_]

/-! ### Asking again and again -/

/-- A stream gives what it awaits, and then it goes on as long as its registry does. -/
theorem gives_poll (id : Nat) :
    Gives (poll id) (fun registry => registry.awaiting id)
      (fun registry => registry.lives && registry.listens id) := by
  intro registry
  rcases registry.poll_awaiting id with ⟨event, rest, awaited, answer, left⟩ | nothing
  · refine .inl ⟨event, rest, awaited, answer, left, ?_⟩
    -- A poll leaves the handles alone, and it makes nobody stop listening.
    have listens := congrFun (registry.listens_poll id) id
    have lives : (registry.poll id).2.lives = registry.lives := by
      rw [poll_frame]
      rfl
    simp only [lives, listens]
  · exact .inr nothing

/-- Asking a stream takes what it awaits, up to the limit, and tells why it came to a stop. -/
theorem drain_eq (id limit : Nat) :
    (PeerCluster.drain (poll id) limit registry).1 =
      ⟨(registry.awaiting id).take limit,
        if limit ≤ (registry.awaiting id).length then .limit else registry.idleTail id⟩ :=
  (drain_of_gives (gives_poll id) limit registry).1

/-- What a stream still awaits after it was asked up to a limit. -/
theorem awaiting_drain (id limit : Nat) :
    (PeerCluster.drain (poll id) limit registry).2.awaiting id =
      (registry.awaiting id).drop limit :=
  (drain_of_gives (gives_poll id) limit registry).2

/-- A stream that is asked until it is not ready gives all it awaits, and then it is idle. -/
theorem drain_none_eq (id : Nat) :
    (registry.drain id none).1 = ⟨registry.awaiting id, registry.idleTail id⟩ := by
  -- The limit in use is above what is buffered, so it never stops the stream.
  have enough := registry.length_awaiting_le id
  unfold drain
  rw [drain_eq, Option.getD_none, List.take_of_length_le (by omega), if_neg (by omega)]

/-- Asking a stream makes nobody listen or stop listening. -/
theorem listens_drain (id limit : Nat) :
    (PeerCluster.drain (poll id) limit registry).2.listens = registry.listens := by
  -- By induction on the polls, none of which stops anybody.
  refine drain_kept (fun left : Registry => left.listens = registry.listens) ?_ limit rfl
  intro before same
  rw [listens_poll, same]

/-- Whoever is attached when a stream is asked up to a limit stays so. -/
theorem Attached.drain {registry : Registry} (attached : registry.Attached) (id limit : Nat) :
    (PeerCluster.drain (Registry.poll id) limit registry).2.Attached :=
  drain_kept Registry.Attached (fun _ attached => attached.poll id) limit attached

/-! ### One stream and the others -/

/-- What can be read of a registry, whoever has opened streams of it. -/
structure Book where
  members : List PeerAddress
  revision : Nat
  handles : Nat
deriving DecidableEq

/-- The book that a registry keeps. -/
def book (registry : Registry) : Book :=
  ⟨registry.members, registry.revision, registry.handles⟩

/-- A registry with the same handles lives as long. -/
theorem lives_of_book {left : Registry} (same : left.book = registry.book) :
    left.lives = registry.lives := by
  have handles : left.handles = registry.handles := congrArg Book.handles same
  -- A registry lives as long as it has handles, and those are in its book.
  unfold lives
  rw [handles]

/-- Nothing but one stream, and who is attached, can tell one registry from another. -/
structure DiffersAt (id : Nat) (registry left : Registry) : Prop where
  book : left.book = registry.book
  nextId : left.nextId = registry.nextId
  others : ∀ other, other ≠ id → left.subscriptions[other]? = registry.subscriptions[other]?

namespace DiffersAt

variable {id : Nat} {registry left last : Registry}

/-- The members are the same. -/
theorem members (differs : DiffersAt id registry left) : left.members = registry.members :=
  congrArg Book.members differs.book

/-- One registry lives as long as the other. -/
theorem lives (differs : DiffersAt id registry left) : left.lives = registry.lives :=
  registry.lives_of_book differs.book

/-- Nothing differs when nothing happens. -/
theorem refl (id : Nat) (registry : Registry) : DiffersAt id registry registry :=
  ⟨rfl, rfl, fun _ _ => rfl⟩

/-- What happens to a stream after something else has happened to it stays between the two. -/
theorem trans (first : DiffersAt id registry left) (second : DiffersAt id left last) :
    DiffersAt id registry last := by
  refine ⟨second.book.trans first.book, second.nextId.trans first.nextId, ?_⟩
  intro other different
  rw [second.others other different, first.others other different]

/-- A poll takes from one stream. -/
theorem poll (registry : Registry) (id : Nat) : DiffersAt id registry (registry.poll id).2 := by
  -- A poll writes one subscription back, and touches nothing else.
  refine ⟨?_, registry.nextId_poll id, ?_⟩
  · rw [poll_frame]
    rfl
  · intro other different
    rw [subscriptions_poll, if_neg different]

/-- Asking a stream again and again takes from that one. -/
theorem drain (registry : Registry) (id limit : Nat) :
    DiffersAt id registry (PeerCluster.drain (Registry.poll id) limit registry).2 :=
  -- By induction on the polls, each of which takes from the same stream.
  drain_kept (DiffersAt id registry) (fun before differs => differs.trans (.poll before id)) limit
    (.refl id registry)

/-- The end of a stream ends that one. -/
theorem cancel (registry : Registry) (id : Nat) :
    DiffersAt id registry (registry.cancel id).value := by
  -- The end of a stream writes to that one, and the list of subscribers is no part of this.
  refine ⟨?_, registry.nextId_cancel id, ?_⟩
  · rw [cancel_frame]
    rfl
  · intro other different
    rw [subscriptions_cancel, if_neg different]

end DiffersAt

end Registry

end PeerCluster
