import PeerCluster.Proofs.Registry.Awaiting

/-! A stream gives the members at its start and then every later change, each exactly once. -/

namespace PeerCluster.Registry

open Machine

variable (registry : Registry)

/-! ### Nothing is lost, doubled, reordered or made up -/

/-- A poll takes no item from another stream. -/
theorem item?_poll_of_ne {asked id : Nat} (different : asked ≠ id) (item : Poll MemberEvent)
    (log : List LogRecord) : Exchange.item? id ⟨.poll asked, .polled item, log⟩ = none := by
  cases item <;> simp [Exchange.item?, different]

/-- A poll that finds a stream idle takes no item. -/
@[simp] theorem item?_idle (asked id : Nat) (log : List LogRecord) :
    Exchange.item? id ⟨.poll asked, .polled (registry.idle asked), log⟩ = none := by
  unfold idle
  split <;> rfl

/-- Who listens awaits a change as soon as it is made. -/
theorem awaiting_announce {registry : Registry} (attached : registry.Attached)
    (lives : registry.lives = true) (members : List PeerAddress) (event : MemberEvent) {id : Nat}
    (listens : registry.listens id = true) :
    (registry.announce members event).awaiting id = registry.awaiting id ++ [event] := by
  -- Whoever listens is attached, so it receives the change, and that at the end.
  unfold awaiting
  rw [attached.subscriptions_announce lives, if_pos listens]
  rw [listens_eq] at listens
  cases found : registry.subscriptions[id]? with
  | none => simp [found] at listens
  | some subscription =>
    have open_ : subscription.cancelled = false := by simpa [found] using listens
    simpa using Subscription.awaiting_receive open_ event

/-- A poll of another stream leaves what a stream awaits as it was. -/
theorem awaiting_poll_of_ne {asked id : Nat} (different : id ≠ asked) :
    (registry.poll asked).2.awaiting id = registry.awaiting id := by
  unfold awaiting
  rw [subscriptions_poll, if_neg different]

/-- The end of another stream leaves what a stream awaits as it was. -/
theorem awaiting_cancel_of_ne {asked id : Nat} (different : id ≠ asked) :
    (registry.cancel asked).value.awaiting id = registry.awaiting id := by
  unfold awaiting
  rw [subscriptions_cancel, if_neg different]

/-- A stream awaits nothing before it is opened, and the members once it is. -/
theorem awaiting_subscribe (id : Nat) :
    registry.subscribe.value.2.awaiting id =
      if id = registry.nextId then registry.members.map .add else registry.awaiting id := by
  unfold awaiting
  -- The new stream starts with the members, and is stored behind all others.
  by_cases newest : id = registry.nextId
  · subst newest
    simp [subscribe, nextId, Subscription.startingAt, Subscription.awaiting]
  · have older : id ≠ registry.subscriptions.size := newest
    simp [subscribe, Array.getElem?_push, newest, older]

namespace Step

variable {registry : Registry} {entry : Exchange RegistryCall RegistryAnswer}
  {result : Registry}

/-- No call takes an id back that was given out. -/
theorem nextId_le (step : registry.Step entry result) : registry.nextId ≤ result.nextId := by
  -- By the kind of step, since only an opening changes the number of subscriptions.
  cases step with
  | unreachable | missed | retained | released => exact Nat.le_refl _
  | joined | left => exact Nat.le_of_eq (registry.nextId_announce _ _).symm
  | opened =>
    rw [nextId_subscribe]
    exact Nat.le_succ _
  | polled id => exact Nat.le_of_eq (registry.nextId_poll id).symm
  | ended id => exact Nat.le_of_eq (registry.nextId_cancel id).symm

/-- Once nobody holds a handle, no call changes the membership or makes a new handle. -/
theorem of_gone (step : registry.Step entry result) (gone : registry.lives = false) :
    result.members = registry.members ∧ result.lives = false := by
  cases step with
  | unreachable => exact ⟨rfl, gone⟩
  -- Without a handle none of these calls is answered.
  | joined peer lives => cases gone.symm.trans lives
  | left found lives => cases gone.symm.trans lives
  | missed absent lives => cases gone.symm.trans lives
  | opened lives => cases gone.symm.trans lives
  | retained lives => cases gone.symm.trans lives
  | released lives => cases gone.symm.trans lives
  | polled id =>
    rw [poll_frame]
    exact ⟨rfl, gone⟩
  | ended id =>
    rw [cancel_frame]
    exact ⟨rfl, gone⟩

/-- A known stream listens after a call if it did before, unless the call ended it. -/
theorem listens (step : registry.Step entry result) (attached : registry.Attached) {id : Nat}
    (known : id < registry.nextId) :
    result.listens id = (registry.listens id && decide (entry.call ≠ .cancel id)) := by
  cases step with
  | @unreachable call handle =>
    have kept : call ≠ .cancel id := by
      rintro rfl
      simp [RegistryCall.needsHandle] at handle
    simp [kept]
  -- Nobody stops listening because a change is sent.
  | joined peer lives => simp [attached.listens_announce lives]
  | left found lives => simp [attached.listens_announce lives]
  | missed => simp
  | opened =>
    -- A known stream is an earlier one than the one that is opened.
    rw [registry.listens_subscribe id, if_neg (Nat.ne_of_lt known)]
    simp
  | retained => simp [retain, listens_eq]
  | released => simp [release, listens_eq]
  | polled asked => simp [registry.listens_poll asked]
  | ended asked =>
    rw [registry.listens_cancel asked id, Bool.and_comm]
    simp [eq_comm]

/--
A call takes the front of what a stream awaits, or lets a change join its end.

This is the law of conservation that delivery rests on.
-/
theorem awaiting (step : registry.Step entry result) (attached : registry.Attached) {id : Nat}
    (listens : registry.listens id = true) (kept : entry.call ≠ .cancel id) :
    (entry.item? id).toList ++ result.awaiting id =
      registry.awaiting id ++ entry.change?.toList := by
  cases step with
  | @unreachable call handle => cases call <;> simp [Exchange.item?, Exchange.change?]
  -- Whoever listens is attached, so a change joins the end of what is awaited.
  | joined peer lives => exact awaiting_announce attached lives _ (.add peer) listens
  | left found lives => exact awaiting_announce attached lives _ (.remove _) listens
  | missed => simp [Exchange.item?, Exchange.change?]
  | opened =>
    -- Whoever listens was opened before.
    have older : id ≠ registry.nextId := Nat.ne_of_lt (lt_nextId_of_listens listens)
    simp [Exchange.item?, Exchange.change?, awaiting_subscribe, older]
  | retained => simp [Exchange.item?, Exchange.change?, Registry.awaiting, retain]
  | released => simp [Exchange.item?, Exchange.change?, Registry.awaiting, release]
  | polled asked =>
    -- The stream itself may be asked, or another one, which takes nothing from it.
    by_cases same : asked = id
    · subst same
      rcases registry.poll_awaiting asked with
        ⟨event, rest, awaited, answer, left⟩ | ⟨awaited, answered⟩
      · simp [Exchange.item?, Exchange.change?, answer, left, awaited]
      · simp [Exchange.change?, answered, awaited]
    · simp [Exchange.change?, item?_poll_of_ne same,
        registry.awaiting_poll_of_ne (Ne.symm same)]
  | ended asked =>
    have different : id ≠ asked := fun same => kept (congrArg RegistryCall.cancel same.symm)
    simp [Exchange.item?, Exchange.change?, registry.awaiting_cancel_of_ne different]

end Step

/-- No calls take an id back that was given out. -/
theorem nextId_le_after (calls : List RegistryCall) :
    -- By induction on the calls.
    registry.nextId ≤ (after registry calls).nextId := by
  induction calls generalizing registry with
  | nil => exact Nat.le_refl _
  | cons call rest ih => exact Nat.le_trans (registry.step call).nextId_le (ih (next registry call))

/-- A known stream listens after calls if it did before, unless one of them ended it. -/
theorem listens_after {registry : Registry} (attached : registry.Attached)
    (calls : List RegistryCall) {id : Nat} (known : id < registry.nextId) :
    (after registry calls).listens id = (registry.listens id && decide (.cancel id ∉ calls)) := by
  -- One call after the other, each from a registry that has the stream attached as it should.
  induction calls generalizing registry with
  | nil => simp [after]
  | cons call rest ih =>
    have one := (registry.step call).listens attached known
    have known := Nat.lt_of_lt_of_le known (registry.step call).nextId_le
    rw [after, ih (attached.step (registry.step call)) known, one]
    -- The first call may end the stream, and then it has ended for the others as well.
    by_cases ends : call = .cancel id
    · simp [exchange, ends]
    · simp [exchange, ends, Ne.symm ends]

/-- What a stream gave and still awaits is what it awaited, with the changes since behind it. -/
theorem given_append_awaiting {registry : Registry} (attached : registry.Attached)
    {calls : List RegistryCall} {id : Nat} (listens : registry.listens id = true)
    (kept : .cancel id ∉ calls) :
    registry.given id calls ++ (after registry calls).awaiting id =
      registry.awaiting id ++ registry.changes calls := by
  -- The law of one call, once for every call of the run.
  induction calls generalizing registry with
  | nil => simp [given, changes, exchanges, after]
  | cons call rest ih =>
    -- None of the calls is its end, so the stream listens after the first one.
    obtain ⟨first, later⟩ := not_or.mp (mt List.mem_cons.mpr kept)
    have step := registry.step call
    have still : (next registry call).listens id = true := by
      simp [step.listens attached (lt_nextId_of_listens listens), listens, exchange, Ne.symm first]
    have one := step.awaiting attached listens (Ne.symm first)
    have more := ih (attached.step step) still later
    rw [given_cons, changes_cons, after, List.append_assoc, more, ← List.append_assoc, one,
      List.append_assoc]

/-! ### A stream from its start -/

/-- In a run from nothing a stream is opened under an id, after some calls and before others. -/
structure Opens (calls earlier later : List RegistryCall) (id : Nat) : Prop where
  split : calls = earlier ++ .subscribe :: later
  opened : answerTo (after empty earlier) .subscribe = .opened id

/-- A stream that does not listen has no item to take. -/
theorem item?_of_deaf {registry : Registry} {id : Nat} (deaf : registry.listens id = false)
    (call : RegistryCall) : (exchange registry call).item? id = none := by
  -- Only a poll of this very stream could take something, and it finds it idle.
  have step := registry.step call
  generalize exchange registry call = entry, next registry call = result at step
  cases step with
  | @unreachable call => cases call <;> rfl
  | joined | left | missed | opened | retained | released | ended => rfl
  | polled asked =>
    by_cases same : asked = id
    · subst same
      rw [registry.poll_of_awaiting_nil (registry.awaiting_of_deaf deaf), item?_idle]
    · exact item?_poll_of_ne same _ _

/-- A stream that is not opened yet gives nothing. -/
theorem given_of_unknown {registry : Registry} (calls : List RegistryCall) {id : Nat}
    (unknown : (after registry calls).nextId ≤ id) : registry.given id calls = [] := by
  -- Ids are given out in order, so whoever is unknown at the end is so at every moment.
  induction calls generalizing registry with
  | nil => rfl
  | cons call rest ih =>
    have before : registry.nextId ≤ id :=
      Nat.le_trans (registry.nextId_le_after (call :: rest)) unknown
    -- An unknown stream does not listen, so the first call takes nothing from it.
    have deaf : registry.listens id = false := by
      simpa using fun listens => Nat.not_lt_of_le before (lt_nextId_of_listens listens)
    rw [given_cons, item?_of_deaf deaf]
    exact ih unknown

/-- A stream that has ended gives nothing any more. -/
theorem given_of_deaf {registry : Registry} (attached : registry.Attached)
    (calls : List RegistryCall) {id : Nat} (known : id < registry.nextId)
    (deaf : registry.listens id = false) : registry.given id calls = [] := by
  -- By induction on the calls, since nobody starts to listen again.
  induction calls generalizing registry with
  | nil => rfl
  | cons call rest ih =>
    have step := registry.step call
    have still : (next registry call).listens id = false := by
      rw [step.listens attached known, deaf, Bool.false_and]
    rw [given_cons, item?_of_deaf deaf]
    exact ih (attached.step step) (Nat.lt_of_lt_of_le known step.nextId_le) still

/-- What a stream gives, also if it ends, is the beginning of what it would have given. -/
theorem given_prefix {registry : Registry} (attached : registry.Attached)
    (calls : List RegistryCall) {id : Nat} (known : id < registry.nextId) :
    registry.given id calls <+: registry.awaiting id ++ registry.changes calls := by
  -- The law of one call holds up to the end of the stream, and nothing is given after it.
  induction calls generalizing registry with
  | nil => exact List.nil_prefix
  | cons call rest ih =>
    have step := registry.step call
    by_cases goes : registry.listens id = true ∧ call ≠ .cancel id
    · -- Up to here nothing is lost, so the rest is a beginning of what is left.
      have one := step.awaiting attached goes.1 goes.2
      have more := ih (attached.step step) (Nat.lt_of_lt_of_le known step.nextId_le)
      rw [given_cons, changes_cons, ← List.append_assoc, ← one, List.append_assoc]
      exact (List.prefix_append_right_inj _).mpr more
    · -- The stream has ended before this call or by it, and nothing is given any more.
      have ends : registry.listens id = true → call = .cancel id := by simpa using goes
      have ended : (next registry call).listens id = false ∧
          (exchange registry call).item? id = none := by
        rw [step.listens attached known]
        cases listens : registry.listens id with
        | false => exact ⟨rfl, item?_of_deaf listens call⟩
        | true =>
          obtain rfl := ends listens
          exact ⟨by simp [exchange], rfl⟩
      obtain ⟨deaf, nothing⟩ := ended
      rw [given_cons, nothing, given_of_deaf (attached.step step) rest
        (Nat.lt_of_lt_of_le known step.nextId_le) deaf]
      exact List.nil_prefix

namespace Opens

variable {calls earlier later : List RegistryCall} {id : Nat}

/-- The registry right after a stream is opened, where the stream awaits the members. -/
theorem start (opens : Opens calls earlier later id) :
    let start := next (after empty earlier) .subscribe
    id = (after empty earlier).nextId ∧ start.Attached ∧ start.listens id = true ∧
      start.awaiting id = (after empty earlier).members.map .add := by
  intro start
  -- The answer tells that a stream was opened, and this is the only step with that answer.
  have attached := attached_empty.run earlier
  have step := (after empty earlier).step .subscribe
  unfold exchange at step
  rw [opens.opened] at step
  change Step _ _ start at step
  generalize start = start at step ⊢
  cases step with
  | opened => exact ⟨rfl, attached.subscribe,
      by rw [listens_subscribe, if_pos rfl],
      by simp [awaiting_subscribe]⟩

/-- At the end of its run a stream listens unless it was cancelled. -/
theorem listens (opens : Opens calls earlier later id) :
    (after empty calls).listens id = decide (.cancel id ∉ later) := by
  obtain ⟨_, attached, listens, _⟩ := opens.start
  rw [opens.split, after_append]
  show (after (_ : Registry) later).listens id = _
  -- The stream listens at its start, so only an end in between can have stopped it.
  rw [listens_after attached later (lt_nextId_of_listens listens), listens, Bool.true_and]

/-- What a stream gave and still awaits are the members at its start and the changes since. -/
theorem given_append_awaiting (opens : Opens calls earlier later id)
    (kept : .cancel id ∉ later) :
    empty.given id calls ++ (after empty calls).awaiting id =
      (after empty earlier).members.map .add ++
        (next (after empty earlier) .subscribe).changes later := by
  obtain ⟨newest, attached, listens, awaiting⟩ := opens.start
  -- Before the stream was opened, and by opening it, nothing was taken.
  have before : empty.given id earlier = [] := given_of_unknown earlier (Nat.le_of_eq newest.symm)
  rw [opens.split, given_append, before, after_append, ← awaiting, List.nil_append, given_cons]
  exact Registry.given_append_awaiting attached listens kept

/-- What a stream gave begins with the members at its start and goes on with changes since. -/
theorem given_prefix (opens : Opens calls earlier later id) :
    empty.given id calls <+: (after empty earlier).members.map .add ++
      (next (after empty earlier) .subscribe).changes later := by
  obtain ⟨newest, attached, listens, awaiting⟩ := opens.start
  -- Nothing was given before the stream was opened, so the law starts at its opening.
  have before : empty.given id earlier = [] := given_of_unknown earlier (Nat.le_of_eq newest.symm)
  rw [opens.split, given_append, before, ← awaiting, List.nil_append, given_cons]
  exact Registry.given_prefix attached later (lt_nextId_of_listens listens)

end Opens

/--
A stream gives the members at its start and then every later change, each exactly once.

What it has given by any moment and what it gives from then on, when it is asked until it is not
ready, are this one sequence. Then it waits as long as somebody holds a handle, and is finished once
nobody does. A stream that was cancelled is finished whatever it has buffered.
-/
theorem members_then_changes_once {calls earlier later : List RegistryCall} {id : Nat}
    (opens : Opens calls earlier later id) :
    let start := after empty earlier
    let final := after empty calls
    (.cancel id ∉ later →
      ∃ rest, (final.drain id none).1 = ⟨rest, if final.lives then .pending else .finished⟩ ∧
        empty.given id calls ++ rest =
          start.members.map .add ++ (next start .subscribe).changes later) ∧
    (.cancel id ∈ later → (final.poll id).1 = .finished) := by
  intro start final
  constructor
  · -- What the stream would still give is what it awaits.
    intro kept
    refine ⟨final.awaiting id, ?_, opens.given_append_awaiting kept⟩
    rw [drain_none_eq, idleTail, opens.listens]
    simp [kept]
  · -- Nobody who is cancelled awaits anything, whatever was buffered.
    intro ended
    have deaf : final.listens id = false := by simp [final, opens.listens, ended]
    rw [final.poll_of_awaiting_nil (final.awaiting_of_deaf deaf), idle, deaf]
    simp

/-- A member at the start, one that joins, one that leaves, a failed removal, and no handle left. -/
theorem members_then_changes_once_of_seven_calls :
    let earlier : List RegistryCall := [.add (.sample 10)]
    let later : List RegistryCall :=
      [.add (.sample 20), .poll 0, .remove 0, .remove 7, .release]
    Opens (earlier ++ .subscribe :: later) earlier later 0 ∧ .cancel 0 ∉ later ∧
      ∃ rest, ((after empty (earlier ++ .subscribe :: later)).drain 0 none).1 =
          ⟨rest, .finished⟩ ∧
        [.add (.sample 10)] ++ rest =
          [.add (.sample 10), .add (.sample 20), .remove (.sample 10)] := by
  have opens : Opens ([.add (.sample 10)] ++ .subscribe ::
      [.add (.sample 20), .poll 0, .remove 0, .remove 7, .release])
      [.add (.sample 10)] [.add (.sample 20), .poll 0, .remove 0, .remove 7, .release] 0 :=
    ⟨rfl, by decide⟩
  exact ⟨opens, by decide, (members_then_changes_once opens).1 (by decide)⟩

end PeerCluster.Registry
