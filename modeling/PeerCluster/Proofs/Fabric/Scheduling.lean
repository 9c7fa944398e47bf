import PeerCluster.Proofs.Fabric.Agenda
import PeerCluster.Proofs.Logged

/-! Turns, rounds and whole runs, whatever the tasks do in their turns: every task comes to rest. -/

namespace PeerCluster.Fabric

variable {Holds : Fabric → Prop} {Kept : Fabric → Fabric → Prop} {fabric result : Fabric}

/-! ### Turns that can be used -/

/-- How many turns several tasks can use at most. -/
def total (fabric : Fabric) : List Nat → Nat
  | [] => 0
  | id :: rest => fabric.turnsLeft id + fabric.total rest

/-- Two groups of tasks can together use as many turns as each of them. -/
theorem total_append (ids more : List Nat) :
    fabric.total (ids ++ more) = fabric.total ids + fabric.total more := by
  -- By induction on the first group.
  induction ids with
  | nil => exact (Nat.zero_add _).symm
  | cons id rest ih =>
    show _ + fabric.total (rest ++ more) = _ + _ + _
    omega

/-- Counted from the first task on, the turns are as many. -/
theorem foldl_turnsLeft (ids : List Nat) (counted : Nat) :
    ids.foldl (fun total id => total + fabric.turnsLeft id) counted =
      counted + fabric.total ids := by
  -- By induction on the tasks, counting on from what was counted.
  induction ids generalizing counted with
  | nil => rfl
  | cons id rest ih =>
    rw [List.foldl_cons, ih, total]
    omega

/-- Every task on an agenda can use a turn. -/
theorem turnsLeft_pos (fabric : Fabric) (id : Nat) : 0 < fabric.turnsLeft id := by
  -- Even a task that finds nothing needs a turn to find out.
  unfold turnsLeft
  split
  · exact Nat.succ_pos _
  · exact Nat.one_pos

/-- Tasks that can use as many turns as before can together use as many as before. -/
theorem total_congr {ids : List Nat}
    (same : ∀ id ∈ ids, result.turnsLeft id = fabric.turnsLeft id) :
    result.total ids = fabric.total ids := by
  -- By induction on the tasks, each of which can use as many turns as before.
  induction ids with
  | nil => rfl
  | cons id rest ih =>
    obtain ⟨first, others⟩ := List.forall_mem_cons.mp same
    rw [total, total, first, ih others]

/-- The agenda plays no part in how many turns tasks can use. -/
theorem total_withDue (due ids : List Nat) :
    ({ fabric with due } : Fabric).total ids = fabric.total ids :=
  total_congr fun _ _ => rfl

/-! ### What a turn comes to -/

/-- What a turn comes to when some others have turns coming as well. -/
structure Turned (Holds : Fabric → Prop) (Kept : Fabric → Fabric → Prop) (fabric : Fabric)
    (id : Nat) (others : List Nat) (result : Fabric) : Prop where
  holds : Holds result
  /-- The one whose turn it was is done, or else it can use another turn. -/
  lists : Lists (if result.isReady id then id :: others else others) result
  due : result.due = fabric.due
  turnsLeft : ∀ other ∈ others, result.turnsLeft other = fabric.turnsLeft other
  /-- Who can use another turn has taken something in this one. -/
  progress : result.isReady id = true → result.turnsLeft id < fabric.turnsLeft id
  kept : Kept fabric result

/-- What holds before each turn holds after it, and turns bring about only what is kept. -/
structure TurnKeeps (Holds : Fabric → Prop) (Kept : Fabric → Fabric → Prop) : Prop where
  turned : ∀ {fabric id others}, Holds fabric → Lists (id :: others) fabric →
    Turned Holds Kept fabric id others (fabric.turn id).value
  /-- The agenda plays no part in what holds, nor in what is kept. -/
  withDue : ∀ {fabric} due, Holds fabric → Holds { fabric with due }
  idle : ∀ fabric due, Kept fabric { fabric with due }
  trans : ∀ {first second third}, Kept first second → Kept second third → Kept first third

/-- What a batch of turns comes to when some others wait for the next one. -/
structure Batch (Holds : Fabric → Prop) (Kept : Fabric → Fabric → Prop) (fabric : Fabric)
    (given waiting : List Nat) (unfinished : List Nat) (result : Fabric) : Prop where
  holds : Holds result
  lists : Lists (unfinished ++ waiting) result
  due : result.due = fabric.due
  turnsLeft : ∀ other ∈ waiting, result.turnsLeft other = fabric.turnsLeft other
  /-- Every turn lowers the number of turns that can still be used. -/
  progress : result.total unfinished + given.length ≤ fabric.total given
  kept : Kept fabric result

/-- A fabric between batches: something holds, and the agenda names those with turns coming. -/
structure BetweenBatches (Holds : Fabric → Prop) (fabric : Fabric) : Prop where
  holds : Holds fabric
  lists : Lists fabric.due fabric

namespace TurnKeeps

/-- Every batch of turns that are due comes to this. -/
theorem turns_batch (turnKeeps : TurnKeeps Holds Kept) (given : List Nat) {waiting : List Nat}
    (holds : Holds fabric) (lists : Lists (given ++ waiting) fabric) :
    Batch Holds Kept fabric given waiting (fabric.turns given).value.1
      (fabric.turns given).value.2 := by
  -- Whoever can use another turn after the first one waits with the others meanwhile.
  induction given generalizing fabric waiting with
  | nil =>
    exact ⟨holds, lists, rfl, fun _ _ => rfl, Nat.le_refl _, turnKeeps.idle fabric fabric.due⟩
  | cons id rest ih =>
    have one := turnKeeps.turned holds lists
    obtain ⟨fresh, distinct⟩ := List.nodup_cons.mp lists.nodup
    rw [turns]
    simp only [Logged.bind_eq, Logged.value_pure]
    have own := fabric.turnsLeft_pos id
    have others : (fabric.turn id).value.total rest = fabric.total rest :=
      total_congr fun other member => one.turnsLeft other (List.mem_append_left _ member)
    cases goesOn : (fabric.turn id).value.isReady id with
    | true =>
      -- It comes last on the agenda, behind those of the batch and before those that wait.
      have listed := one.lists
      rw [goesOn, if_pos rfl] at listed
      have more : Lists (rest ++ id :: waiting) (fabric.turn id).value := by
        refine ⟨List.perm_middle.nodup_iff.mpr listed.nodup, fun other => ?_⟩
        rw [List.perm_middle.mem_iff]
        exact listed.mem_iff other
      obtain ⟨holds, lists, due, turnsLeft, progress, kept⟩ := ih one.holds more
      rw [if_pos rfl]
      refine ⟨holds, ?_, due.trans one.due, ?_, ?_, turnKeeps.trans one.kept kept⟩
      · rw [List.append_assoc]
        exact lists
      · intro other member
        rw [turnsLeft other (List.mem_cons_of_mem _ member),
          one.turnsLeft other (List.mem_append_right _ member)]
      · -- The turn was used, and what it took from the source is one turn less at least.
        have last := turnsLeft id List.mem_cons_self
        have less := one.progress goesOn
        rw [others] at progress
        simp only [total_append, total, List.length_cons] at progress ⊢
        omega
    | false =>
      -- It is off the agenda, and the turn that it could use no longer counts.
      have listed := one.lists
      rw [goesOn, if_neg (by simp)] at listed
      obtain ⟨holds, lists, due, turnsLeft, progress, kept⟩ := ih one.holds listed
      rw [if_neg (by simp)]
      refine ⟨holds, lists, due.trans one.due, ?_, ?_, turnKeeps.trans one.kept kept⟩
      · intro other member
        rw [turnsLeft other member, one.turnsLeft other (List.mem_append_right _ member)]
      · -- Those of the batch can use as many turns as before, less the one that was given.
        rw [others] at progress
        simp only [total, List.length_cons] at progress ⊢
        omega

/-! ### Rounds, and the whole run -/

/-- A round lowers the number of turns that can still be used. -/
theorem round_betweenBatches (turnKeeps : TurnKeeps Holds Kept)
    (betweenBatches : fabric.BetweenBatches Holds) :
    fabric.round.value.BetweenBatches Holds ∧
      fabric.round.value.total fabric.round.value.due + (fabric.due.take roundLimit).length ≤
        fabric.total fabric.due ∧
      Kept fabric fabric.round.value := by
  obtain ⟨holds, lists⟩ := betweenBatches
  have parts := List.take_append_drop roundLimit fabric.due
  have listed : Lists (fabric.due.take roundLimit ++ fabric.due.drop roundLimit)
      ({ fabric with due := fabric.due.drop roundLimit } : Fabric) := by
    rw [parts]
    exact ⟨lists.nodup, lists.mem_iff⟩
  -- A round is a batch of the first turns, while the others wait.
  have batch := turnKeeps.turns_batch (fabric.due.take roundLimit)
    (turnKeeps.withDue (fabric.due.drop roundLimit) holds) listed
  unfold round
  rw [List.splitAt_eq]
  simp only [Logged.bind_eq, Logged.value_pure]
  generalize ({ fabric with due := fabric.due.drop roundLimit } : Fabric).turns
    (fabric.due.take roundLimit) = outcome at batch ⊢
  obtain ⟨⟨unfinished, result⟩, log⟩ := outcome
  obtain ⟨holds, lists, due, turnsLeft, progress, kept⟩ := batch
  change result.due = fabric.due.drop roundLimit at due
  rw [due]
  refine ⟨⟨turnKeeps.withDue _ holds, lists.nodup, lists.mem_iff⟩, ?_, ?_⟩
  · -- Those that wait can use as many turns as before the round.
    have waiting : result.total (fabric.due.drop roundLimit) =
        fabric.total (fabric.due.drop roundLimit) := total_congr turnsLeft
    have whole : fabric.total fabric.due = fabric.total (fabric.due.take roundLimit) +
        fabric.total (fabric.due.drop roundLimit) := by
      rw [← total_append, parts]
    have left : result.total (unfinished ++ fabric.due.drop roundLimit) =
        result.total unfinished + result.total (fabric.due.drop roundLimit) :=
      total_append _ _
    have given : ({ fabric with due := fabric.due.drop roundLimit } : Fabric).total
        (fabric.due.take roundLimit) = fabric.total (fabric.due.take roundLimit) :=
      total_withDue _ _
    rw [given] at progress
    change result.total unfinished + _ ≤ _ at progress
    have next : ({ result with due := unfinished ++ fabric.due.drop roundLimit } : Fabric).total
        (unfinished ++ fabric.due.drop roundLimit) =
        result.total (unfinished ++ fabric.due.drop roundLimit) := total_withDue _ _
    show ({ result with due := unfinished ++ fabric.due.drop roundLimit } : Fabric).total
      (unfinished ++ fabric.due.drop roundLimit) + _ ≤ _
    rw [next]
    omega
  · exact turnKeeps.trans (turnKeeps.trans (turnKeeps.idle _ _) kept) (turnKeeps.idle _ _)

/-- As many rounds as there are turns that can be used bring every task to rest. -/
theorem rounds_betweenBatches (turnKeeps : TurnKeeps Holds Kept)
    (betweenBatches : fabric.BetweenBatches Holds)
    {limit : Nat} (enough : fabric.total fabric.due ≤ limit) :
    (fabric.rounds limit).value.BetweenBatches Holds ∧ (fabric.rounds limit).value.due = [] ∧
      Kept fabric (fabric.rounds limit).value := by
  -- By induction on the limit, which is at least the turns that can be used.
  induction limit generalizing fabric with
  | zero =>
    refine ⟨betweenBatches, ?_, turnKeeps.idle fabric fabric.due⟩
    -- Everybody on the agenda can use a turn, so nobody is on it.
    cases agenda : fabric.due with
    | nil => exact agenda
    | cons id rest =>
      have own := fabric.turnsLeft_pos id
      rw [agenda, total] at enough
      omega
  | succ limit ih =>
    rw [rounds]
    cases agenda : fabric.due with
    -- Nobody has a turn coming, so no round is made.
    | nil => exact ⟨betweenBatches, agenda, turnKeeps.idle fabric fabric.due⟩
    | cons id rest =>
      -- A round takes at least one turn, so one round fewer is enough for what is left.
      obtain ⟨again, fewer, kept⟩ := turnKeeps.round_betweenBatches betweenBatches
      rw [if_neg (by simp)]
      simp only [Logged.bind_eq]
      have given : 0 < (fabric.due.take roundLimit).length := by
        rw [agenda]
        exact Nat.succ_pos _
      obtain ⟨betweenBatches, rest, later⟩ := ih again (by omega)
      exact ⟨betweenBatches, rest, turnKeeps.trans kept later⟩

/-- A run brings every task to rest. -/
theorem run_betweenBatches (turnKeeps : TurnKeeps Holds Kept)
    (betweenBatches : fabric.BetweenBatches Holds) :
    fabric.run.value.BetweenBatches Holds ∧ fabric.run.value.due = [] ∧
    Kept fabric fabric.run.value := by
  refine turnKeeps.rounds_betweenBatches betweenBatches (Nat.le_of_eq ?_)
  -- The run is given as many rounds as the sum of the turns, counted from zero.
  rw [foldl_turnsLeft, Nat.zero_add]

end TurnKeeps

end PeerCluster.Fabric
