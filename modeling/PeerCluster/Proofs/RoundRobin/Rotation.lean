import Mathlib.Data.List.Count
import PeerCluster.Proofs.RoundRobin.Calls

/-! A balancer is a queue of slots that turns round: who had a turn goes behind all others. -/

namespace PeerCluster.RoundRobin

open Machine

/-- The candidates in the order of their turns, beginning with the one whose turn is next. -/
def rotation (balancer : RoundRobin) : List Endpoint :=
  balancer.pool.drop balancer.cursor ++ balancer.pool.take balancer.cursor

/-- How many turns come before that of the candidate at a position of the pool. -/
def turnOf (balancer : RoundRobin) (position : Nat) : Nat :=
  (position + balancer.pool.length - balancer.cursor) % balancer.pool.length

/-- The cursor stands at a candidate, or at the start of an empty pool. -/
def CursorInPool (balancer : RoundRobin) : Prop :=
  balancer.cursor < balancer.pool.length ∨ balancer.pool = [] ∧ balancer.cursor = 0

variable {balancer : RoundRobin}

/-- Every candidate has a turn, and only one for each slot. -/
theorem rotation_perm (balancer : RoundRobin) : balancer.rotation.Perm balancer.pool := by
  -- Both halves of the pool are there, the later one first.
  unfold rotation
  have halves : (balancer.pool.drop balancer.cursor ++ balancer.pool.take balancer.cursor).Perm
      (balancer.pool.take balancer.cursor ++ balancer.pool.drop balancer.cursor) :=
    List.perm_append_comm
  rwa [List.take_append_drop] at halves

/-- There are as many turns in a pass as candidates. -/
@[simp] theorem length_rotation (balancer : RoundRobin) :
    balancer.rotation.length = balancer.pool.length :=
  balancer.rotation_perm.length_eq

/-- The queue begins behind those who have had a turn in this pass. -/
theorem rotation_eq {early late : List Endpoint} (split : balancer.pool = early ++ late)
    (here : balancer.cursor = early.length) : balancer.rotation = late ++ early := by
  simp [rotation, split, here]

namespace CursorInPool

/-- The cursor never stands behind the pool. -/
theorem cursor_le (inPool : balancer.CursorInPool) : balancer.cursor ≤ balancer.pool.length := by
  rcases inPool with inside | ⟨_, start⟩
  · exact Nat.le_of_lt inside
  · omega

/-- Among candidates the cursor stands at one of them. -/
theorem cursor_lt (inPool : balancer.CursorInPool) (some_ : balancer.pool ≠ []) :
    balancer.cursor < balancer.pool.length := by
  rcases inPool with inside | ⟨none, _⟩
  · exact inside
  · exact absurd none some_

/-- The candidate at a position has its turn where it is expected. -/
theorem getElem?_rotation (inPool : balancer.CursorInPool) {position : Nat}
    (inside : position < balancer.pool.length) :
    balancer.rotation[balancer.turnOf position]? = balancer.pool[position]? := by
  have bounded := inPool.cursor_le
  unfold rotation turnOf
  by_cases before : position < balancer.cursor
  · -- Whoever stands before the cursor comes behind everybody from the cursor on.
    have turn : (position + balancer.pool.length - balancer.cursor) % balancer.pool.length =
        position + balancer.pool.length - balancer.cursor := Nat.mod_eq_of_lt (by omega)
    rw [turn, List.getElem?_append_right (by simp; omega), List.length_drop,
      List.getElem?_take_of_lt (by omega)]
    congr 1
    omega
  · -- Whoever stands from the cursor on comes in the order of the pool.
    have turn : (position + balancer.pool.length - balancer.cursor) % balancer.pool.length =
        position - balancer.cursor := by
      have whole : position + balancer.pool.length - balancer.cursor =
          position - balancer.cursor + balancer.pool.length := by omega
      rw [whole, Nat.add_mod_right, Nat.mod_eq_of_lt (by omega)]
    rw [turn, List.getElem?_append_left (by simp; omega), List.getElem?_drop]
    congr 1
    omega

end CursorInPool

/-- Among candidates there is one whose turn is next. -/
theorem exists_rotation_cons (some_ : balancer.pool ≠ []) :
    ∃ head tail, balancer.rotation = head :: tail := by
  -- A queue without a head is that of an empty pool.
  refine List.exists_cons_of_ne_nil fun none => some_ ?_
  have same := balancer.rotation_perm
  rw [none] at same
  exact same.symm.eq_nil

/-! ### Turns -/

/-- A turn goes to the first of the queue, who then waits behind all others. -/
theorem choose_of_cursorInPool (inPool : balancer.CursorInPool) (open_ : balancer.shutDown = false)
    {head : Endpoint} {tail : List Endpoint} (first : balancer.rotation = head :: tail) :
    balancer.choose.1 = some head ∧ balancer.choose.2.rotation = tail ++ [head] ∧
      balancer.choose.2.pool = balancer.pool ∧ balancer.choose.2.shutDown = false ∧
      balancer.choose.2.CursorInPool := by
  -- A queue with a head has somebody in the pool, so the cursor stands at a candidate.
  have some_ : balancer.pool ≠ [] := by
    intro none
    have lengths := balancer.length_rotation
    simp [first, none] at lengths
  have inside := inPool.cursor_lt some_
  have here : balancer.cursor % balancer.pool.length = balancer.cursor := Nat.mod_eq_of_lt inside
  -- The pool is split at the candidate whose turn it is.
  have cut := List.drop_eq_getElem_cons inside
  have parts : balancer.pool[balancer.cursor] = head ∧
      balancer.pool.drop (balancer.cursor + 1) ++ balancer.pool.take balancer.cursor = tail := by
    rw [rotation, cut, List.cons_append] at first
    exact List.cons.inj first
  have chosen : balancer.choose =
      (some head, { balancer with cursor := (balancer.cursor + 1) % balancer.pool.length }) := by
    simp [choose, open_, here, List.getElem?_eq_getElem inside, parts.1]
  rw [chosen]
  refine ⟨rfl, ?_, rfl, open_, ?_⟩
  · show List.drop _ balancer.pool ++ List.take _ balancer.pool = _
    have taken := List.take_succ_eq_append_getElem inside
    rw [parts.1] at taken
    by_cases last : balancer.cursor + 1 = balancer.pool.length
    · -- After the last position the cursor starts over, and the pool is in order again.
      have all : balancer.pool.take (balancer.cursor + 1) = balancer.pool :=
        List.take_of_length_le (by omega)
      have none : balancer.pool.drop (balancer.cursor + 1) = [] :=
        List.drop_of_length_le (by omega)
      rw [last, Nat.mod_self, List.drop_zero, List.take_zero, List.append_nil, ← parts.2, none,
        List.nil_append, ← taken, all]
    · -- Anywhere else it moves on by one, past the candidate that had its turn.
      rw [Nat.mod_eq_of_lt (by omega), taken, ← List.append_assoc, parts.2]
  · exact .inl (Nat.mod_lt _ (by omega))

/-! ### Changes -/

/-- Whoever joins stands behind all who wait in this pass, and ahead of those who had their turn. -/
theorem onEvent_add (open_ : balancer.shutDown = false) (candidate : Endpoint) :
    (balancer.onEvent (.add candidate)).value =
      { balancer with pool := balancer.pool ++ [candidate] } := by
  simp [onEvent, open_, Logged.quiet]

/-- The queue with one more slot, which comes between the two halves of the pool. -/
theorem rotation_add (inPool : balancer.CursorInPool) (candidate : Endpoint) :
    ({ balancer with pool := balancer.pool ++ [candidate] } : RoundRobin).rotation =
      balancer.pool.drop balancer.cursor ++ candidate :: balancer.pool.take balancer.cursor := by
  have bounded := inPool.cursor_le
  unfold rotation
  -- The cursor stands within the old pool, so the new slot lies behind it.
  rw [List.drop_append_of_le_length bounded, List.take_append_of_le_length bounded]
  simp

/-- Taking out somebody who is not there changes nothing. -/
theorem onEvent_remove_of_absent {candidate : Endpoint} (absent : candidate ∉ balancer.pool) :
    (balancer.onEvent (.remove candidate)).value = balancer := by
  -- The search finds no slot, so neither the pool nor the cursor is touched.
  have unfound : balancer.pool.findIdx? (· == candidate) = none := by
    simp only [List.findIdx?_eq_none_iff, beq_eq_false_iff_ne]
    rintro other member rfl
    exact absent member
  have same : (balancer.discard candidate).value = balancer := by
    unfold discard
    rw [unfound]
  unfold onEvent
  split
  · rfl
  · exact same

/-- Taking a candidate out takes its oldest slot out, and the cursor stays with its candidate. -/
theorem onEvent_remove (open_ : balancer.shutDown = false) {candidate : Endpoint}
    {front back : List Endpoint} (split : balancer.pool = front ++ candidate :: back)
    (oldest : candidate ∉ front) :
    (balancer.onEvent (.remove candidate)).value =
      let cursor :=
        if front.length < balancer.cursor then balancer.cursor - 1 else balancer.cursor
      { balancer with
        pool := front ++ back
        cursor := if (front ++ back).length ≤ cursor then 0 else cursor } := by
  -- The search for the candidate ends at the first slot that holds it.
  have unfound : front.findIdx? (· == candidate) = none := by
    simp only [List.findIdx?_eq_none_iff, beq_eq_false_iff_ne]
    rintro other member rfl
    exact oldest member
  have found : balancer.pool.findIdx? (· == candidate) = some front.length := by
    rw [split, List.findIdx?_append, unfound]
    simp [List.findIdx?_cons]
  have rest : balancer.pool.eraseIdx front.length = front ++ back := by
    rw [split, List.eraseIdx_append_of_length_le (Nat.le_refl _)]
    simp
  simp [onEvent, open_, discard, found, rest, Logged.quiet]

/-- The queue when one more candidate is taken out, who has had a turn in this pass. -/
theorem rotation_remove_early (open_ : balancer.shutDown = false) {candidate : Endpoint}
    {front rest late : List Endpoint} (split : balancer.pool = front ++ candidate :: rest ++ late)
    (here : balancer.cursor = (front ++ candidate :: rest).length) (oldest : candidate ∉ front)
    (some_ : late ≠ []) :
    let left := (balancer.onEvent (.remove candidate)).value
    left.CursorInPool ∧ left.rotation = late ++ (front ++ rest) ∧
      balancer.turnOf front.length = late.length + front.length := by
  have split' : balancer.pool = front ++ candidate :: (rest ++ late) := by simp [split]
  have size := List.length_pos_iff.mpr some_
  rw [onEvent_remove open_ split' oldest]
  simp only [List.length_append, List.length_cons] at here
  -- The cursor moves down by one with everybody from it on.
  have moved : balancer.cursor - 1 = (front ++ rest).length := by
    simp only [List.length_append]
    omega
  have before : front.length < balancer.cursor := by omega
  have fits : ¬ (front ++ (rest ++ late)).length ≤ (front ++ rest).length := by
    simp only [List.length_append]
    omega
  simp only [before, if_true, moved, fits, if_false]
  refine ⟨.inl (by simp only; omega), rotation_eq (by simp) rfl, ?_⟩
  unfold turnOf
  rw [split]
  simp only [List.length_append, List.length_cons]
  rw [Nat.mod_eq_of_lt (by omega)]
  omega

/-- The queue when a candidate is taken out whose turn in this pass is still to come. -/
theorem rotation_remove_late (open_ : balancer.shutDown = false) {candidate : Endpoint}
    {early front back : List Endpoint}
    (split : balancer.pool = early ++ (front ++ candidate :: back))
    (here : balancer.cursor = early.length) (oldest : candidate ∉ early ++ front) :
    let left := (balancer.onEvent (.remove candidate)).value
    left.CursorInPool ∧ left.rotation = front ++ back ++ early ∧
      balancer.turnOf (early ++ front).length = front.length := by
  have split' : balancer.pool = early ++ front ++ candidate :: back := by simp [split]
  -- The slot lies at the cursor or behind it, so the cursor does not move down.
  have after : ¬ (early ++ front).length < balancer.cursor := by
    simp only [List.length_append]
    omega
  have left : (balancer.onEvent (.remove candidate)).value = { balancer with
      pool := early ++ front ++ back
      cursor := if (early ++ front ++ back).length ≤ early.length then 0 else early.length } := by
    rw [onEvent_remove open_ split' oldest]
    simp only [if_neg after]
    rw [here]
  rw [left]
  have turn : balancer.turnOf (early ++ front).length = front.length := by
    unfold turnOf
    rw [split]
    simp only [List.length_append, List.length_cons, here]
    have whole : early.length + front.length +
        (early.length + (front.length + (back.length + 1))) - early.length =
        front.length + (early.length + (front.length + (back.length + 1))) := by omega
    rw [whole, Nat.add_mod_right, Nat.mod_eq_of_lt (by omega)]
  by_cases last : front ++ back = []
  · -- The slot was the last of the pool, so the cursor starts over where the next turn falls.
    obtain ⟨rfl, rfl⟩ := List.append_eq_nil_iff.mp last
    simp only [List.append_nil, Nat.le_refl, if_true] at turn ⊢
    refine ⟨?_, by simp [rotation], turn⟩
    cases early with
    | nil => exact .inr ⟨rfl, rfl⟩
    | cons first rest => exact .inl (Nat.succ_pos _)
  · have more := List.length_pos_iff.mpr last
    rw [List.length_append] at more
    have fits : ¬ (early ++ front ++ back).length ≤ early.length := by
      simp only [List.length_append]
      omega
    simp only [fits, if_false]
    exact ⟨.inl (Nat.lt_of_not_le fits), rotation_eq (by simp) rfl, turn⟩

/-- Whoever is taken out leaves its oldest slot, and all others keep their order in the queue. -/
theorem rotation_remove (inPool : balancer.CursorInPool) (open_ : balancer.shutDown = false)
    {candidate : Endpoint} (member : candidate ∈ balancer.pool) :
    let left := (balancer.onEvent (.remove candidate)).value
    left.CursorInPool ∧ ∃ front back, balancer.pool = front ++ candidate :: back ∧
      candidate ∉ front ∧
      left.pool = front ++ back ∧
      left.rotation = balancer.rotation.eraseIdx (balancer.turnOf front.length) := by
  have inside := inPool.cursor_lt (List.ne_nil_of_mem member)
  -- The pool is cut where the cursor stands; the oldest slot lies on one of the two sides.
  obtain ⟨early, late, cut, here⟩ : ∃ early late, balancer.pool = early ++ late ∧
      balancer.cursor = early.length :=
    ⟨balancer.pool.take balancer.cursor, balancer.pool.drop balancer.cursor,
      (List.take_append_drop _ _).symm, by simp; omega⟩
  have some_ : late ≠ [] := by
    rintro rfl
    simp [cut] at inside
    omega
  by_cases passed : candidate ∈ early
  · -- It has had a turn in this pass, so its slot waits behind all from the cursor on.
    obtain ⟨front, rest, rfl, oldest⟩ := List.eq_append_cons_of_mem passed
    obtain ⟨inPool, rotation, turn⟩ := rotation_remove_early open_ cut here oldest some_
    have split : balancer.pool = front ++ candidate :: (rest ++ late) := by simp [cut]
    refine ⟨inPool, front, rest ++ late, split, oldest,
      by rw [onEvent_remove open_ split oldest], ?_⟩
    rw [rotation, turn, rotation_eq cut here, List.eraseIdx_append_of_length_le (by omega),
      Nat.add_sub_cancel_left, List.eraseIdx_append_of_length_le (Nat.le_refl _)]
    simp
  · -- Its turn is still to come, so its slot is among the first of the queue.
    have later : candidate ∈ late := by
      rw [cut] at member
      exact (List.mem_append.mp member).resolve_left passed
    obtain ⟨front, back, rfl, fresh⟩ := List.eq_append_cons_of_mem later
    have oldest : candidate ∉ early ++ front := by simp [passed, fresh]
    obtain ⟨inPool, rotation, turn⟩ := rotation_remove_late open_ cut here oldest
    have split : balancer.pool = early ++ front ++ candidate :: back := by simp [cut]
    refine ⟨inPool, early ++ front, back, split, oldest,
      by rw [onEvent_remove open_ split oldest], ?_⟩
    rw [rotation, turn, rotation_eq cut here, List.eraseIdx_append_of_lt_length (by simp),
      List.eraseIdx_append_of_length_le (Nat.le_refl _)]
    simp

/-! ### Many turns -/

/-- Turns in two batches are given as all of them at once. -/
theorem chooseMany_add (balancer : RoundRobin) (first second : Nat) :
    let between := (chooseMany first balancer).2
    chooseMany (first + second) balancer =
      ((chooseMany first balancer).1 ++ (chooseMany second between).1,
        (chooseMany second between).2) := by
  -- The second batch begins where the first one ends, turn by turn.
  induction first generalizing balancer with
  | zero => simp [chooseMany]
  | succ first ih =>
    rw [Nat.succ_add]
    simp [chooseMany, ih]

/-- Turns in one pass go to the first of the queue, who then wait behind the others in order. -/
theorem chooseMany_of_le (inPool : balancer.CursorInPool) (open_ : balancer.shutDown = false)
    {times : Nat} (within : times ≤ balancer.pool.length) :
    let left := (chooseMany times balancer).2
    (chooseMany times balancer).1 = (balancer.rotation.take times).map some ∧
      left.rotation = balancer.rotation.drop times ++ balancer.rotation.take times ∧
      left.pool = balancer.pool ∧ left.shutDown = false ∧ left.CursorInPool := by
  -- Each turn takes the head of the queue, and the rest of the pass is that of its tail.
  induction times generalizing balancer with
  | zero => exact ⟨rfl, by simp [chooseMany], rfl, open_, inPool⟩
  | succ times ih =>
    have lengths := balancer.length_rotation
    cases first : balancer.rotation with
    | nil =>
      rw [first, List.length_nil] at lengths
      omega
    | cons head tail =>
      rw [first, List.length_cons] at lengths
      obtain ⟨chosen, rotation, pool, still, inPool⟩ := choose_of_cursorInPool inPool open_ first
      have more := ih inPool still (by rw [pool]; omega)
      rw [rotation, pool, List.take_append_of_le_length (by omega),
        List.drop_append_of_le_length (by omega)] at more
      obtain ⟨picks, turned, same, serving, stands⟩ := more
      have step : chooseMany (times + 1) balancer =
          (balancer.choose.1 :: (chooseMany times balancer.choose.2).1,
            (chooseMany times balancer.choose.2).2) := rfl
      rw [step]
      exact ⟨by simp [picks, chosen], by simp [turned], same, serving, stands⟩

/-- In a whole pass everybody has one turn for each slot, and the queue stands as before. -/
theorem chooseMany_pass (inPool : balancer.CursorInPool) (open_ : balancer.shutDown = false) :
    let left := (chooseMany balancer.pool.length balancer).2
    (chooseMany balancer.pool.length balancer).1 = balancer.rotation.map some ∧
      left.rotation = balancer.rotation ∧
      left.pool = balancer.pool ∧ left.shutDown = false ∧ left.CursorInPool := by
  -- A pass takes the whole queue, and nobody is left in front of those who had their turn.
  obtain ⟨picks, turned, kept⟩ := chooseMany_of_le inPool open_ (Nat.le_refl _)
  have all := Nat.le_of_eq balancer.length_rotation
  rw [List.take_of_length_le all] at picks turned
  rw [List.drop_of_length_le all, List.nil_append] at turned
  exact ⟨picks, turned, kept⟩

/-- After whole passes the queue stands as before, and everybody had as many turns as passes. -/
theorem chooseMany_passes (inPool : balancer.CursorInPool) (open_ : balancer.shutDown = false)
    (passes : Nat) :
    let left := (chooseMany (balancer.pool.length * passes) balancer).2
    (chooseMany (balancer.pool.length * passes) balancer).1 =
        (List.replicate passes balancer.rotation).flatten.map some ∧
      left.rotation = balancer.rotation ∧
      left.pool = balancer.pool ∧ left.shutDown = false ∧ left.CursorInPool := by
  induction passes generalizing balancer with
  | zero => exact ⟨rfl, rfl, rfl, open_, inPool⟩
  | succ passes ih =>
    -- One pass comes first, and leaves a queue in the same order for the others.
    rw [Nat.mul_succ, Nat.add_comm, chooseMany_add]
    obtain ⟨picks, turned, pool, still, stands⟩ := chooseMany_pass inPool open_
    generalize chooseMany balancer.pool.length balancer = one at picks turned pool still stands
    obtain ⟨others, rotation, same, serving, inPool⟩ := ih stands still
    rw [pool] at others rotation same serving inPool
    rw [turned] at others rotation
    refine ⟨?_, rotation, same, serving, inPool⟩
    show one.1 ++ _ = _
    rw [others, picks, List.replicate_succ, List.flatten_cons, List.map_append]

/-- Any number of turns makes whole passes and the beginning of another one. -/
theorem chooseMany_eq (inPool : balancer.CursorInPool) (open_ : balancer.shutDown = false)
    (some_ : balancer.pool ≠ []) (times : Nat) :
    let passes := times / balancer.pool.length
    let more := times % balancer.pool.length
    (chooseMany times balancer).1 = ((List.replicate passes balancer.rotation).flatten ++
        balancer.rotation.take more).map some ∧
      (chooseMany times balancer).2.rotation =
        balancer.rotation.drop more ++ balancer.rotation.take more ∧
      (chooseMany times balancer).2.pool = balancer.pool := by
  intro passes more
  have whole : times = balancer.pool.length * passes + more := (Nat.div_add_mod times _).symm
  have part : more ≤ balancer.pool.length :=
    Nat.le_of_lt (Nat.mod_lt times (List.length_pos_iff.mpr some_))
  clear_value passes more
  subst whole
  -- Whole passes leave the queue as it was, so what is left over begins at its head.
  rw [chooseMany_add]
  obtain ⟨picks, turned, pool, still, stands⟩ := chooseMany_passes inPool open_ passes
  generalize chooseMany (balancer.pool.length * passes) balancer = first
    at picks turned pool still stands
  have left : more ≤ first.2.pool.length := by rwa [pool]
  obtain ⟨others, rotation, same, _⟩ := chooseMany_of_le stands still left
  rw [turned] at others rotation
  exact ⟨by simp [picks, others], rotation, same.trans pool⟩

/-- In any number of turns a candidate has one for each of its slots and each pass, or one more. -/
theorem count_chooseMany (inPool : balancer.CursorInPool) (open_ : balancer.shutDown = false)
    (some_ : balancer.pool ≠ []) (times : Nat) (candidate : Endpoint) :
    let slots := balancer.pool.count candidate
    let passes := times / balancer.pool.length
    let turns := (chooseMany times balancer).1.count (some candidate)
    slots * passes ≤ turns ∧ turns ≤ slots * (passes + 1) := by
  intro slots passes turns
  -- A pass holds every slot once, and the beginning of a pass each at most once.
  have each : balancer.rotation.count candidate = slots :=
    balancer.rotation_perm.count_eq candidate
  have begun := (balancer.rotation.take_sublist (times % balancer.pool.length)).count_le candidate
  have split : turns = slots * passes +
      (balancer.rotation.take (times % balancer.pool.length)).count candidate := by
    show List.count (some candidate) (chooseMany times balancer).1 = _
    rw [(chooseMany_eq inPool open_ some_ times).1,
      List.count_map_of_injective _ _ fun _ _ => Option.some.inj, List.count_append,
      List.count_flatten, List.map_replicate, each, List.sum_replicate_nat]
    rw [Nat.mul_comm]
  rw [Nat.mul_succ]
  omega

/-! ### Every history -/

/-- Every call keeps the cursor at a candidate. -/
theorem CursorInPool.next (inPool : balancer.CursorInPool) (call : BalancerCall) :
    (next balancer call).CursorInPool := by
  -- Only a removal shortens the pool, and it takes the cursor back with it.
  cases call with
  | shutdown => exact .inr ⟨rfl, rfl⟩
  | tell event =>
    show (balancer.onEvent event).value.CursorInPool
    cases ended : balancer.shutDown with
    | true =>
      have ignored : balancer.onEvent event = .quiet balancer := by simp [onEvent, ended]
      rw [ignored]
      exact inPool
    | false =>
      cases event with
      | add candidate =>
        rw [onEvent_add ended]
        exact .inl (by simpa using Nat.lt_succ_of_le inPool.cursor_le)
      | remove candidate =>
        by_cases member : candidate ∈ balancer.pool
        · exact (rotation_remove inPool ended member).1
        · rwa [onEvent_remove_of_absent member]
  | choose =>
    show balancer.choose.2.CursorInPool
    by_cases none : balancer.shutDown = true ∨ balancer.pool = []
    · rwa [choose_of_none none]
    · obtain ⟨open_, some_⟩ := not_or.mp none
      obtain ⟨head, tail, first⟩ := exists_rotation_cons some_
      obtain ⟨_, _, _, _, stands⟩ := choose_of_cursorInPool inPool (by simpa using open_) first
      exact stands

/-- In every history the cursor stays at a candidate. -/
theorem CursorInPool.after (inPool : balancer.CursorInPool) (calls : List BalancerCall) :
    (after balancer calls).CursorInPool :=
  after_of_kept (fun _ call inPool _ => inPool.next call) inPool fun _ _ => trivial

/--
A balancer is a queue of slots that turns round, whatever has happened to it.

The cursor always stands at a candidate, or at the start of an empty pool. The head of the queue has
its turn and then goes to the end. Whoever is taken out leaves its oldest slot, and nobody else is
moved. Whoever joins comes behind those who still wait in this pass, and ahead of those who had
their turn. So the pool depends on the changes alone, and turns in a row go round the queue.
-/
theorem slots_take_turns (calls : List BalancerCall) :
    let balancer := after empty calls
    let pool := balancer.pool
    let queue := balancer.rotation
    (balancer.cursor < pool.length ∨ pool = [] ∧ balancer.cursor = 0) ∧
    (∀ position < pool.length, queue[balancer.turnOf position]? = pool[position]?) ∧
    (balancer.shutDown = false → pool ≠ [] → ∃ head tail, queue = head :: tail ∧
      answerTo balancer .choose = .chosen (some head) ∧
      (next balancer .choose).rotation = tail ++ [head] ∧ (next balancer .choose).pool = pool) ∧
    (balancer.shutDown = false → ∀ candidate ∈ pool,
      let left := next balancer (.tell (.remove candidate))
      ∃ front back, pool = front ++ candidate :: back ∧ candidate ∉ front ∧
        left.pool = front ++ back ∧
        left.rotation = queue.eraseIdx (balancer.turnOf front.length)) ∧
    (∀ candidate ∉ pool, next balancer (.tell (.remove candidate)) = balancer) ∧
    (balancer.shutDown = false → ∀ candidate,
      let joined := next balancer (.tell (.add candidate))
      joined.pool = pool ++ [candidate] ∧
        joined.rotation = pool.drop balancer.cursor ++ candidate :: pool.take balancer.cursor) ∧
    (balancer.shutDown = decide (.shutdown ∈ calls)) ∧
    (pool = if .shutdown ∈ calls then []
      else ChangeEvent.rebuild [] (calls.filterMap BalancerCall.change?)) ∧
    (balancer.shutDown = false → pool ≠ [] → ∀ times,
      let passes := times / pool.length
      let more := times % pool.length
      let (turns, left) := balancer.chooseMany times
      turns = ((List.replicate passes queue).flatten ++ queue.take more).map some ∧
        left.rotation = queue.drop more ++ queue.take more ∧ left.pool = pool ∧
        ∀ candidate, pool.count candidate * passes ≤ turns.count (some candidate) ∧
          turns.count (some candidate) ≤ pool.count candidate * (passes + 1)) := by
  intro balancer pool queue
  have begun : empty.CursorInPool := .inr ⟨rfl, rfl⟩
  have inPool : balancer.CursorInPool := begun.after calls
  have opened : empty.shutDown = false := rfl
  -- All but the pool and the end is a matter of one call, and holds wherever the cursor stands.
  refine ⟨inPool, fun _ => inPool.getElem?_rotation, ?_, ?_, ?_, ?_, ?_, ?_, ?_⟩
  · intro open_ some_
    obtain ⟨head, tail, first⟩ := exists_rotation_cons some_
    obtain ⟨chosen, turned, same, _⟩ := choose_of_cursorInPool inPool open_ first
    exact ⟨head, tail, first, congrArg BalancerAnswer.chosen chosen, turned, same⟩
  · intro open_ candidate member
    exact (rotation_remove inPool open_ member).2
  · intro candidate absent
    exact onEvent_remove_of_absent absent
  · intro open_ candidate joined
    have grown : joined = { balancer with pool := pool ++ [candidate] } :=
      onEvent_add open_ candidate
    rw [grown]
    exact ⟨rfl, rotation_add inPool candidate⟩
  · by_cases ended : .shutdown ∈ calls
    · simpa [ended] using (empty.ceased_after ended).1
    · simpa [ended] using (pool_after opened ended).2
  · by_cases ended : .shutdown ∈ calls
    · simpa [ended] using (empty.ceased_after ended).2
    · rw [if_neg ended]
      exact (pool_after opened ended).1
  · intro open_ some_ times
    obtain ⟨turns, turned, same⟩ := chooseMany_eq inPool open_ some_ times
    exact ⟨turns, turned, same, count_chooseMany inPool open_ some_ times⟩

/-- Three candidates join, two have a turn, and then the first of them leaves. -/
theorem slots_take_turns_of_six_calls :
    let of (port : UInt16) : Endpoint := ⟨"localhost", port⟩
    let balancer := after empty [.tell (.add (of 1)), .tell (.add (of 2)), .tell (.add (of 3)),
      .choose, .choose, .tell (.remove (of 1))]
    balancer.shutDown = false ∧ balancer.pool = [of 2, of 3] ∧ balancer.rotation = [of 3, of 2] ∧
      ∃ head tail, balancer.rotation = head :: tail ∧
        answerTo balancer .choose = .chosen (some head) ∧
        (next balancer .choose).rotation = tail ++ [head] ∧
        (next balancer .choose).pool = balancer.pool :=
  ⟨by decide, by decide, by decide,
    (slots_take_turns [.tell (.add ⟨"localhost", 1⟩), .tell (.add ⟨"localhost", 2⟩),
      .tell (.add ⟨"localhost", 3⟩), .choose, .choose,
      .tell (.remove ⟨"localhost", 1⟩)]).2.2.1 (by decide) (by decide)⟩

end PeerCluster.RoundRobin
