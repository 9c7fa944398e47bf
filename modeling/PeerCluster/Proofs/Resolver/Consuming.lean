import PeerCluster.Proofs.Logged
import PeerCluster.Proofs.RoundRobin.Pool
import PeerCluster.Resolver.Pick

/-! What a driver does to its resolver and to the pool, and what picks leave of both. -/

namespace PeerCluster

open ChangeEvent

namespace Resolver

/-- A service that goes on enters the status, and waiting picks are let know. -/
theorem moveTo_of_serving {resolver : Resolver} (serving : resolver.status = .serving)
    (status : ResolverStatus) :
    resolver.moveTo status = { resolver with status, changes := resolver.changes + 1 } := by
  -- Only the arm of a service that goes on is taken, and it counts the change.
  unfold moveTo
  rw [serving]

/-- A service that is over stays as it is. -/
theorem moveTo_of_over {resolver : Resolver} (ceased : resolver.status ≠ .serving)
    (status : ResolverStatus) : resolver.moveTo status = resolver := by
  -- Being over is stored once and not overwritten, as the first reason is the one to report.
  unfold moveTo
  split
  · rename_i serving
    exact absurd serving ceased
  · rfl

/-- Letting waiting picks know of a change starts and ends no service. -/
@[simp] theorem status_moveTo_serving (resolver : Resolver) :
    (resolver.moveTo .serving).status = resolver.status := by
  -- Where the service goes on it enters the status that it has, and elsewhere nothing is written.
  unfold moveTo
  split
  · rename_i serving
    exact serving.symm
  · rfl

/-- A service that is told to enter another status is over. -/
theorem status_moveTo_ne (resolver : Resolver) {status : ResolverStatus}
    (ends : status ≠ .serving) : (resolver.moveTo status).status ≠ .serving := by
  -- The status is the one entered, or the older one that stayed.
  unfold moveTo
  split
  · exact ends
  · rename_i ceased
    exact ceased

/-- A service that is told to close is over. -/
theorem status_moveTo_closed (resolver : Resolver) :
    (resolver.moveTo .closed).status ≠ .serving :=
  resolver.status_moveTo_ne nofun

/-- A resolver serves as long as it has no error for its picks. -/
theorem terminalError?_eq_none {resolver : Resolver} :
    resolver.terminalError? = none ↔ resolver.status = .serving := by
  -- There is one error for each status but the first.
  unfold terminalError?
  cases resolver.status with
  | serving | closed | failed => simp

/-! ### Reading up to an item that is no change -/

/-- Applies changes, one after the other. -/
def applyAll (resolver : Resolver) (balancer : RoundRobin) (events : List (ChangeEvent Endpoint)) :
    Resolver × RoundRobin :=
  events.foldl (fun applied event => (applied.1.apply applied.2 event).value) (resolver, balancer)

/-- The first change is applied before the others. -/
theorem applyAll_cons (resolver : Resolver) (balancer : RoundRobin) (event : ChangeEvent Endpoint)
    (rest : List (ChangeEvent Endpoint)) :
    resolver.applyAll balancer (event :: rest) =
      (resolver.moveTo .serving).applyAll (balancer.onEvent event).value rest := rfl

/-- A pool that is not shut down follows the changes like any view, and no service ends by them. -/
theorem applyAll_of_open (resolver : Resolver) {balancer : RoundRobin}
    (open_ : balancer.shutDown = false) (events : List (ChangeEvent Endpoint)) :
    let applied := resolver.applyAll balancer events
    applied.1.status = resolver.status ∧ applied.2.pool = rebuild balancer.pool events ∧
      applied.2.shutDown = false := by
  -- The pool stays open from change to change, so each one is applied to it.
  induction events generalizing resolver balancer with
  | nil => exact ⟨rfl, rfl, open_⟩
  | cons event rest ih =>
    obtain ⟨pool, still⟩ := RoundRobin.onEvent_of_open open_ event
    obtain ⟨status, rebuilt, shutDown⟩ := ih (resolver.moveTo .serving) still
    rw [status_moveTo_serving] at status
    rw [pool] at rebuilt
    exact ⟨status, rebuilt, shutDown⟩

/-- While a resolver serves, it counts the changes. -/
theorem applyAll_of_serving {resolver : Resolver} (serving : resolver.status = .serving)
    (balancer : RoundRobin) (events : List (ChangeEvent Endpoint)) :
    (resolver.applyAll balancer events).1 =
      { resolver with changes := resolver.changes + events.length } := by
  -- The service goes on after each change, so the next one is counted, too.
  induction events generalizing resolver balancer with
  | nil => rfl
  | cons event rest ih =>
    have goesOn : (resolver.moveTo .serving).status = .serving := by
      rw [status_moveTo_serving, serving]
    have counted := ih goesOn (balancer.onEvent event).value
    rw [applyAll_cons, counted, moveTo_of_serving serving, List.length_cons]
    dsimp only
    rw [serving, Nat.add_assoc, Nat.add_comm 1]

section Reading

variable {α : Type} {read : α → Logged (Except ClusterError (ChangeEvent Endpoint))}
  {event : α → ChangeEvent Endpoint} {items : List α}

/-- A driver applies the items that it can read before it comes to the others. -/
theorem consume_append (readable : ∀ item ∈ items, (read item).value = .ok (event item))
    (resolver : Resolver) (balancer : RoundRobin) (rest : List α) :
    let applied := resolver.applyAll balancer (items.map event)
    (resolver.consume read balancer (items ++ rest)).value =
      (applied.1.consume read applied.2 rest).value := by
  -- The first item can be read, so the driver applies it and goes on with the others.
  induction items generalizing resolver balancer with
  | nil => rfl
  | cons item items ih =>
    obtain ⟨first, later⟩ := List.forall_mem_cons.mp readable
    have taken := ih later (resolver.apply balancer (event item)).value.1
      (resolver.apply balancer (event item)).value.2
    rw [List.cons_append, consume, Logged.bind_eq, first]
    exact taken

/-- A driver that can read all its items applies all of them. -/
theorem consume_of_readable (readable : ∀ item ∈ items, (read item).value = .ok (event item))
    (resolver : Resolver) (balancer : RoundRobin) :
    let applied := resolver.applyAll balancer (items.map event)
    (resolver.consume read balancer items).value = ⟨applied.1, applied.2, none⟩ := by
  -- No items are left behind those that can be read, so the driver finds nothing more.
  have taken := consume_append readable resolver balancer []
  rw [List.append_nil] at taken
  exact taken

/-- A driver fails over the first item that it cannot read, and leaves those after it. -/
theorem consume_of_refused (readable : ∀ item ∈ items, (read item).value = .ok (event item))
    {item : α} {error : ClusterError} (refused : (read item).value = .error error)
    (resolver : Resolver) (balancer : RoundRobin) (rest : List α) :
    let applied := resolver.applyAll balancer (items.map event)
    (resolver.consume read balancer (items ++ item :: rest)).value =
      ⟨applied.1.moveTo (.failed error), applied.2.shutdown, some rest⟩ := by
  -- What it read before is applied first, and the next item is then at the head.
  have taken := consume_append readable resolver balancer (item :: rest)
  dsimp only at taken
  rw [taken, consume, Logged.bind_eq, refused]
  rfl

end Reading

/-- A driver whose items are changes, in one form or another, applies all of them. -/
theorem consume_total {α : Type} (read : α → ChangeEvent Endpoint) (resolver : Resolver)
    (balancer : RoundRobin) (items : List α) :
    let applied := resolver.applyAll balancer (items.map read)
    (resolver.consume (fun item => .quiet (.ok (read item))) balancer items).value =
      ⟨applied.1, applied.2, none⟩ :=
  consume_of_readable (fun _ _ => rfl) resolver balancer

/--
A driver whose items can all be read as changes works through all of them.

The resolver goes on as it was, and the pool becomes what the changes make of it.
-/
theorem consume_changes {α : Type} (read : α → ChangeEvent Endpoint) (resolver : Resolver)
    {balancer : RoundRobin} (open_ : balancer.shutDown = false) (items : List α) :
    let consumed := (resolver.consume (fun item => .quiet (.ok (read item))) balancer items).value
    consumed.unread? = none ∧ consumed.resolver.status = resolver.status ∧
      consumed.balancer.pool = rebuild balancer.pool (items.map read) ∧
      consumed.balancer.shutDown = false := by
  -- Applying leaves no item unread; the rest is what changes do to an open pool.
  rw [consume_total]
  exact ⟨rfl, resolver.applyAll_of_open open_ (items.map read)⟩

end Resolver

/-! ### Notifications -/

namespace ChangeNotification

variable {α : Type}

/-- The change that a notification reports, where one in place counts as somebody leaving. -/
def asEvent (notification : ChangeNotification α) : ChangeEvent α :=
  match notification.kind with
  | .add => .add notification.data
  | .modify | .delete => .remove notification.data

/-- What reports no change in place is read as the change that it reports. -/
theorem toEvent_of_kind [Outline α] {notification : ChangeNotification α}
    (immutable : notification.kind ≠ .modify) :
    notification.toEvent.value = .ok notification.asEvent := by
  -- A removal and a departure are read alike, and a change in place is what was ruled out.
  unfold toEvent asEvent
  cases kind : notification.kind with
  | add | delete => rfl
  | modify => exact absurd kind immutable

/-- What reports a change in place is refused. -/
theorem toEvent_modify [Outline α] (data : α) :
    (⟨.modify, data⟩ : ChangeNotification α).toEvent.value = .error (.ofModify data) := rfl

end ChangeNotification

namespace Pick

/-- A pick leaves every candidate in the pool, and is answered by one of them or by an error. -/
theorem poll_eq (pick : Pick) (resolver : Resolver) (balancer : RoundRobin) :
    let polled := pick.poll resolver balancer
    polled.2.2.pool = balancer.pool ∧ polled.2.2.shutDown = balancer.shutDown ∧
      ∀ candidate, polled.1 = .ready (.ok candidate) →
        resolver.status = .serving ∧ candidate ∈ balancer.pool := by
  obtain ⟨pool, shutDown, chosen⟩ := balancer.choose_eq
  unfold poll
  split
  -- A pick with nothing new to look at does not even look.
  · exact ⟨rfl, rfl, nofun⟩
  · cases serving : resolver.terminalError? with
    | some error => exact ⟨rfl, rfl, nofun⟩
    | none =>
      -- Only a service that goes on asks the balancer for a turn.
      have serving := Resolver.terminalError?_eq_none.mp serving
      generalize balancer.choose = turn at pool shutDown chosen
      obtain ⟨choice, left⟩ := turn
      cases choice with
      | none => exact ⟨pool, shutDown, nofun⟩
      | some candidate =>
        refine ⟨pool, shutDown, ?_⟩
        rintro candidate ⟨⟩
        exact ⟨serving, chosen candidate rfl⟩

/-- A pick asks the balancer for one turn, or for none. -/
theorem poll_turn (pick : Pick) (resolver : Resolver) (balancer : RoundRobin) :
    (pick.poll resolver balancer).2.2 = balancer ∨
      resolver.status = .serving ∧ (pick.poll resolver balancer).2.2 = balancer.choose.2 := by
  -- A pick looks at the pool only if there is something new and the service goes on.
  unfold poll
  split
  · exact .inl rfl
  · cases terminal : resolver.terminalError? with
    | some error => exact .inl rfl
    | none =>
      refine .inr ⟨Resolver.terminalError?_eq_none.mp terminal, ?_⟩
      rcases balancer.choose with ⟨choice, left⟩
      cases choice with
      | none | some => rfl

end Pick

/-- A stream of picks asks for no more than the pick that is under way. -/
theorem PickStream.poll_turn (stream : PickStream) (resolver : Resolver) (balancer : RoundRobin) :
    (stream.poll resolver balancer).2.2 = balancer ∨
      resolver.status = .serving ∧ (stream.poll resolver balancer).2.2 = balancer.choose.2 := by
  -- Whatever the pick is answered, the stream leaves the pool as the pick left it.
  cases stream with
  | done => exact .inl rfl
  | picking pick =>
    have turn := pick.poll_turn resolver balancer
    have same : (PickStream.poll (.picking pick) resolver balancer).2.2 =
        (pick.poll resolver balancer).2.2 := by
      dsimp only [poll]
      split
      all_goals
        rename_i asked
        rw [asked]
    rw [same]
    exact turn

/-- A stream of picks does no more to the pool than the pick that is under way. -/
theorem PickStream.poll_eq (stream : PickStream) (resolver : Resolver) (balancer : RoundRobin) :
    let polled := stream.poll resolver balancer
    polled.2.2.pool = balancer.pool ∧ polled.2.2.shutDown = balancer.shutDown ∧
      ∀ candidate, polled.1 = .ready (.ok candidate) →
        resolver.status = .serving ∧ candidate ∈ balancer.pool := by
  -- A stream that is done asks nobody, and any other one asks through its pick.
  cases stream with
  | done => exact ⟨rfl, rfl, nofun⟩
  | picking pick =>
    obtain ⟨pool, shutDown, chosen⟩ := pick.poll_eq resolver balancer
    rcases asked : pick.poll resolver balancer with ⟨answer, rest, left⟩
    dsimp only [poll]
    rw [asked] at pool shutDown chosen ⊢
    -- The stream passes a candidate on only if the pick is answered by one.
    cases answer with
    | ready choice =>
      cases choice with
      | ok candidate => exact ⟨pool, shutDown, chosen⟩
      | error error =>
        cases error
        all_goals exact ⟨pool, shutDown, nofun⟩
    | pending => exact ⟨pool, shutDown, nofun⟩
    | finished => exact ⟨pool, shutDown, nofun⟩

end PeerCluster
