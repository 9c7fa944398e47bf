import PeerCluster.Proofs.Venue.Shifting

/-! What is asked of a registry through a handle is heard by everybody who takes from it. -/

namespace PeerCluster

/-- A change is received by those who listen. -/
theorem Registry.Attached.subscription_announce {registry : Registry}
    (attached : registry.Attached) (lives : registry.lives = true) (members : List PeerAddress)
    (event : MemberEvent) {id : Nat} (known : id < registry.nextId) :
    (registry.announce members event).subscription id =
      (registry.subscription id).hear (some event) := by
  -- Whoever has cancelled hears nothing, and all others are on the list of listeners.
  have found := Registry.getElem?_subscriptions known
  have stored := attached.subscriptions_announce lives members event id
  rw [Registry.listens_eq, found] at stored
  unfold Subscription.hear
  cases cancelled : (registry.subscription id).cancelled with
  | true =>
    simp only [Option.any_some, cancelled, Bool.not_true, if_false, Bool.false_eq_true] at stored
    rw [Registry.subscription_of_found stored]
    rfl
  | false =>
    simp only [Option.any_some, cancelled, Bool.not_false, if_true, Option.map_some] at stored
    rw [Registry.subscription_of_found stored]
    rfl

/-- What is asked through a handle is answered from the book, and what comes of it is heard. -/
theorem Registry.perform_handle {registry : Registry} (attached : registry.Attached)
    (lives : registry.lives = true) (call : HandleCall) :
    let served := registry.book.serve call
    let outcome := (registry.perform call.toCall).value
    outcome.1 = served.1 ∧ outcome.2.book = served.2.2 ∧ outcome.2.nextId = registry.nextId ∧
      outcome.2.Attached ∧
      ∀ id < registry.nextId,
        outcome.2.subscription id = (registry.subscription id).hear served.2.1 := by
  -- Somebody has a handle, so the call is served; only joining and leaving are announced.
  have still := attached.step (registry.step call.toCall)
  change (registry.perform call.toCall).value.2.Attached at still
  have reached : (registry.perform call.toCall).value = (registry.serve call.toCall).value := by
    unfold perform
    rw [lives, Bool.not_true, Bool.and_false, if_neg Bool.false_ne_true]
  intro served outcome
  have outcome_eq : outcome = (registry.serve call.toCall).value := reached
  rw [reached] at still
  rw [outcome_eq]
  cases call with
  | add peer =>
    exact ⟨rfl, rfl, registry.nextId_announce _ _, still, fun id known =>
      attached.subscription_announce lives _ _ known⟩
  | remove index =>
    have cases_ : served = (Book.serve registry.book (.remove index)) := rfl
    rw [cases_]
    dsimp only [HandleCall.toCall, serve, remove, Book.serve, book] at still ⊢
    cases found : registry.members[index]? with
    | none =>
      rw [found] at still
      exact ⟨rfl, rfl, rfl, still, fun _ _ => rfl⟩
    | some peer =>
      rw [found] at still
      exact ⟨rfl, rfl, registry.nextId_announce _ _, still, fun id known =>
        attached.subscription_announce lives _ _ known⟩
  | retain => exact ⟨rfl, rfl, rfl, still, fun _ _ => rfl⟩
  | release => exact ⟨rfl, rfl, rfl, still, fun _ _ => rfl⟩

namespace Fabric

variable {fabric : Fabric} {registryId : Nat} {left : Registry}

/-- The books when a registry was put back. -/
theorem books_setRegistry (fabric : Fabric) (registryId : Nat) (left : Registry) :
    (fabric.setRegistry registryId left).books = fabric.books.set registryId left.book :=
  List.map_set ..

/-- What becomes of workers when a registry whose subscribers have heard something is put back. -/
theorem worker?_setRegistry (scheduled : fabric.Scheduled)
    (inside : registryId < fabric.registries.length) (change? : Option MemberEvent)
    (heard : ∀ id < (fabric.registry registryId).nextId,
      left.subscription id = ((fabric.registry registryId).subscription id).hear change?)
    (service : Nat) :
    (fabric.setRegistry registryId left).worker? service =
      (fabric.worker? service).map (Worker.hear registryId change? left.lives) := by
  -- Whoever takes from another source does not wait in vain, and so is not woken.
  unfold setRegistry
  rw [worker?_wake]
  unfold worker?
  cases found : fabric.services[service]? with
  | none => rfl
  | some follower =>
    refine congrArg some ?_
    have awakeForWork : (fabric.workerOf follower).AwakeForWork :=
      idle_iff.mp scheduled.idle service _ (worker?_of_found found)
    have registries := registry_set inside left
    have known := (scheduled.inside follower (List.mem_of_getElem? found)).2
    obtain ⟨resolver, balancer, source, task, owners⟩ := follower
    cases source with
    | feed feedId => exact awakeForWork.wake_eq
    | membership home subscription projection =>
      dsimp only [workerOf, inbox, Worker.hear] at awakeForWork ⊢
      rw [registries]
      by_cases here : home = registryId
      · subst here
        rw [if_pos rfl, if_pos rfl, heard subscription known]
        rfl
      · rw [if_neg here, if_neg here]
        exact awakeForWork.wake_eq

/-- Everybody who takes from a registry hears what its subscribers have heard. -/
theorem setRegistry_shifts (scheduled : fabric.Scheduled)
    (inside : registryId < fabric.registries.length) (attached : left.Attached)
    (grows : (fabric.registry registryId).nextId ≤ left.nextId) (change? : Option MemberEvent)
    (heard : ∀ id < (fabric.registry registryId).nextId,
      left.subscription id = ((fabric.registry registryId).subscription id).hear change?) :
    Shifts none (Station.hear registryId change? left.lives) fabric
      (fabric.setRegistry registryId left) := by
  -- Everything is in order after the registry was put back, even before anybody is woken.
  let put : Fabric := { fabric with registries := fabric.registries.set registryId left }
  have registries : ∀ other, put.registry other =
      if other = registryId then left else fabric.registry other := registry_set inside left
  have further : ∀ other, (fabric.registry other).nextId ≤ (put.registry other).nextId := by
    intro other
    rw [registries]
    split
    · rename_i here
      rw [here]
      exact grows
    · exact Nat.le_refl _
  have apart : put.Apart := by
    refine ⟨fun other => ?_, scheduled.balancers, scheduled.places, fun service member => ?_⟩
    · rw [registries]
      split
      · exact attached
      · exact scheduled.attached other
    · obtain ⟨balancer_lt, there⟩ := scheduled.inside service member
      refine ⟨balancer_lt, ?_⟩
      cases place : service.source.place with
      | stream home subscription =>
        rw [place] at there
        exact Nat.lt_of_lt_of_le there (further home)
      | feed feedId =>
        rw [place] at there
        exact there
  have lists : Lists put.due put := ⟨scheduled.lists.nodup, scheduled.lists.mem_iff⟩
  refine ⟨⟨(frame_wake (fun _ => False) put).apart apart, idle_wake put, lists.wake⟩, ?_⟩
  intro consumer station _ shown
  cases shown with
  | @stream home subscription projection? held known unowned =>
    have shown : (fabric.setRegistry registryId left).Shows
        (.stream home subscription projection? held) _ :=
      .stream (Nat.lt_of_lt_of_le known (further home)) fun service =>
        (frame_wake (fun _ => False) put).place? service ▸ unowned service
    have same : (fabric.setRegistry registryId left).registry home = put.registry home := rfl
    rw [same, registries] at shown
    dsimp only [Station.hear]
    by_cases here : home = registryId
    · subst here
      rw [if_pos rfl, heard subscription known] at shown
      rw [if_pos rfl]
      exact shown
    · rw [if_neg here] at shown ⊢
      exact shown
  | @desk service ledger worker met =>
    refine .desk ?_
    rw [worker?_setRegistry scheduled inside change? heard, met]
    rfl

end Fabric

end PeerCluster
