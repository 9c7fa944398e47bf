import PeerCluster.Proofs.RoundRobin.Rotation

/-! Nobody waits long for a turn, whoever else comes and goes in the meantime. -/

namespace PeerCluster

/-- Whether a call tells of a candidate that joined. -/
def BalancerCall.joins : BalancerCall → Bool
  | tell (.add _) => true
  | _ => false

namespace RoundRobin

open Machine

/-- How many turns go to others before the next one of a candidate. -/
def wait (balancer : RoundRobin) (candidate : Endpoint) : Nat :=
  balancer.rotation.idxOf candidate

variable {balancer : RoundRobin} {candidate : Endpoint}

/-- Everybody in the pool has a turn to wait for. -/
theorem mem_rotation_iff : candidate ∈ balancer.rotation ↔ candidate ∈ balancer.pool :=
  balancer.rotation_perm.mem_iff

/-- Nobody waits for more than one turn of everybody else. -/
theorem wait_lt (member : candidate ∈ balancer.pool) :
    balancer.wait candidate < balancer.pool.length := by
  -- The rotation has as many places as there are slots, and the candidate has one of them.
  rw [← balancer.length_rotation]
  exact List.idxOf_lt_length_of_mem (mem_rotation_iff.mpr member)

/-! ### One call -/

/-- A turn goes to the candidate that waits for none, and shortens the wait of everybody else. -/
theorem wait_choose (inPool : balancer.CursorInPool) (open_ : balancer.shutDown = false)
    (member : candidate ∈ balancer.pool) :
    balancer.wait candidate = 0 ∧ balancer.choose.1 = some candidate ∨
      balancer.choose.1 ≠ some candidate ∧
        balancer.choose.2.wait candidate + 1 = balancer.wait candidate := by
  -- Somebody is in the pool, so the queue has a head, and the turn takes it from front to back.
  obtain ⟨head, tail, first⟩ := exists_rotation_cons (List.ne_nil_of_mem member)
  obtain ⟨chosen, turned, _⟩ := choose_of_cursorInPool inPool open_ first
  unfold wait
  rw [chosen, turned, first]
  by_cases same : head = candidate
  · exact .inl ⟨List.idxOf_cons_eq _ same, congrArg some same⟩
  · -- The candidate stands behind the head, and so it keeps its place when the head goes behind.
    have behind : candidate ∈ tail := by
      have queued := mem_rotation_iff.mpr member
      rw [first] at queued
      exact (List.mem_cons.mp queued).resolve_left fun same' => same same'.symm
    refine .inr ⟨fun same' => same (Option.some.inj same'), ?_⟩
    rw [List.idxOf_append_of_mem behind, List.idxOf_cons_ne _ same]

/-- A candidate that joins comes before others at most once. -/
theorem wait_add (inPool : balancer.CursorInPool) (open_ : balancer.shutDown = false)
    (other : Endpoint) :
    (balancer.onEvent (.add other)).value.wait candidate ≤ balancer.wait candidate + 1 := by
  unfold wait
  rw [onEvent_add open_, rotation_add inPool]
  unfold rotation
  -- Only those who had their turn in this pass stand behind the new slot.
  by_cases ahead : candidate ∈ balancer.pool.drop balancer.cursor
  · rw [List.idxOf_append_of_mem ahead, List.idxOf_append_of_mem ahead]
    exact Nat.le_succ _
  · rw [List.idxOf_append_of_notMem ahead, List.idxOf_append_of_notMem ahead, Nat.add_assoc]
    refine Nat.add_le_add_left ?_ _
    by_cases same : other = candidate
    · rw [List.idxOf_cons_eq _ same]
      exact Nat.zero_le _
    · exact Nat.le_of_eq (List.idxOf_cons_ne _ same)

/-- Nobody moves back in a list when somebody else is taken out. -/
theorem idxOf_eraseIdx_le {other : Endpoint} (different : other ≠ candidate) :
    ∀ {queue : List Endpoint} {position : Nat}, queue[position]? = some other →
      (queue.eraseIdx position).idxOf candidate ≤ queue.idxOf candidate
  | head :: tail, 0, found => by
    -- The head is taken out, and everybody behind it moves up.
    obtain rfl : head = other := by simpa using found
    rw [List.eraseIdx_cons_zero, List.idxOf_cons_ne _ different]
    exact Nat.le_succ _
  | head :: tail, position + 1, found => by
    have behind : tail[position]? = some other := by simpa using found
    have shorter := idxOf_eraseIdx_le different behind
    -- The head stays, so all depends on those behind it.
    rw [List.eraseIdx_cons_succ]
    by_cases same : head = candidate
    · rw [List.idxOf_cons_eq _ same]
      exact Nat.zero_le _
    · rw [List.idxOf_cons_ne _ same, List.idxOf_cons_ne _ same]
      exact Nat.succ_le_succ shorter

/-- Whoever else leaves, a candidate stays, and does not wait any longer. -/
theorem wait_remove (inPool : balancer.CursorInPool) (open_ : balancer.shutDown = false)
    (member : candidate ∈ balancer.pool) {other : Endpoint} (different : other ≠ candidate) :
    candidate ∈ (balancer.onEvent (.remove other)).value.pool ∧
      (balancer.onEvent (.remove other)).value.wait candidate ≤ balancer.wait candidate := by
  -- Either a slot of the other candidate is taken out of the queue, or there is none to take.
  by_cases there : other ∈ balancer.pool
  · obtain ⟨_, front, back, split, _, pool, queue⟩ := rotation_remove inPool open_ there
    have slot : balancer.pool[front.length]? = some other := by simp [split]
    have inside : front.length < balancer.pool.length := by simp [split]
    constructor
    · rw [split] at member
      rw [pool]
      simpa [Ne.symm different] using member
    · unfold wait
      rw [queue]
      exact idxOf_eraseIdx_le different ((inPool.getElem?_rotation inside).trans slot)
  · rw [onEvent_remove_of_absent there]
    exact ⟨member, Nat.le_refl _⟩

/-! ### Many calls -/

/-- Turns in a row reach a candidate as soon as there are more of them than it waits for. -/
theorem mem_chooseMany_iff (inPool : balancer.CursorInPool) (open_ : balancer.shutDown = false)
    (member : candidate ∈ balancer.pool) (times : Nat) :
    some candidate ∈ (balancer.chooseMany times).1 ↔ balancer.wait candidate < times := by
  -- Each turn is the candidate's own, or it brings the candidate nearer by one.
  induction times generalizing balancer with
  | zero => simp [chooseMany]
  | succ times ih =>
    have step : (balancer.chooseMany (times + 1)).1 =
        balancer.choose.1 :: (balancer.choose.2.chooseMany times).1 := rfl
    rw [step, List.mem_cons]
    rcases wait_choose inPool open_ member with ⟨first, chosen⟩ | ⟨passed, closer⟩
    · simp [first, chosen]
    · -- The others' turn changes nothing but the queue.
      obtain ⟨pool, shutDown, _⟩ := balancer.choose_eq
      have stands : balancer.choose.2.CursorInPool := inPool.next .choose
      rw [ih stands (shutDown.trans open_) (pool ▸ member), ← closer]
      simp [Ne.symm passed]

/-- Among enough turns there is one of a candidate that stays, whatever else happens. -/
theorem exists_turn (inPool : balancer.CursorInPool) (open_ : balancer.shutDown = false)
    (member : candidate ∈ balancer.pool) {calls : List BalancerCall}
    (kept : .shutdown ∉ calls) (stays : .tell (.remove candidate) ∉ calls)
    (enough : balancer.wait candidate + calls.countP BalancerCall.joins < calls.count .choose) :
    ∃ entry ∈ exchanges balancer calls,
      entry.call = .choose ∧ entry.answer = .chosen (some candidate) := by
  -- A turn of somebody else lowers the wait, and only those who join raise it, by one each.
  induction calls generalizing balancer with
  | nil => simp at enough
  | cons call rest ih =>
    obtain ⟨goesOn, kept⟩ := not_or.mp (mt List.mem_cons.mpr kept)
    obtain ⟨spares, stays⟩ := not_or.mp (mt List.mem_cons.mpr stays)
    -- Any call that is no turn of the candidate hands the same question on to the rest.
    have later (member : candidate ∈ (next balancer call).pool)
        (open_ : (next balancer call).shutDown = false)
        (enough : (next balancer call).wait candidate + rest.countP BalancerCall.joins <
          rest.count .choose) :
        ∃ entry ∈ exchanges balancer (call :: rest),
          entry.call = .choose ∧ entry.answer = .chosen (some candidate) := by
      obtain ⟨entry, among, turn⟩ := ih (inPool.next call) open_ member kept stays enough
      exact ⟨entry, List.mem_cons_of_mem _ among, turn⟩
    cases call with
    | shutdown => exact absurd rfl goesOn
    | choose =>
      rcases wait_choose inPool open_ member with ⟨_, chosen⟩ | ⟨_, closer⟩
      · exact ⟨exchange balancer .choose, List.mem_cons_self, rfl, congrArg _ chosen⟩
      · obtain ⟨pool, shutDown, _⟩ := balancer.choose_eq
        refine later (pool ▸ member) (shutDown.trans open_) ?_
        have less : (next balancer .choose).wait candidate + 1 = balancer.wait candidate := closer
        simp only [List.count_cons_self, BalancerCall.joins, Bool.false_eq_true, not_false_eq_true,
          List.countP_cons_of_neg] at enough
        omega
    | tell event =>
      obtain ⟨pool, still⟩ := onEvent_of_open open_ event
      have tells : BalancerCall.tell event ≠ .choose := by simp
      rw [List.count_cons_of_ne tells] at enough
      cases event with
      | add other =>
        have more : (next balancer (.tell (.add other))).wait candidate ≤
            balancer.wait candidate + 1 := wait_add inPool open_ other
        refine later (pool ▸ List.mem_append_left _ member) still ?_
        rw [List.countP_cons_of_pos rfl] at enough
        omega
      | remove other =>
        have different : other ≠ candidate := fun same => spares (by rw [same])
        obtain ⟨member, less⟩ := wait_remove inPool open_ member different
        refine later member still ?_
        rw [List.countP_cons_of_neg (by simp [BalancerCall.joins])] at enough
        exact Nat.lt_of_le_of_lt (Nat.add_le_add_right less _) enough

/--
Waits are bounded, whatever was asked of a balancer before.

A candidate in the pool has a turn as soon as as many turns were given as there were candidates,
and one more for each that joined in the meantime. That holds for calls in any order, as long as
nobody takes the candidate out or ends the balancer. Whoever else leaves, turns in a row reach the
candidate no later than before.
-/
theorem waits_are_bounded (earlier : List BalancerCall) :
    let balancer := after empty earlier
    balancer.shutDown = false → ∀ candidate ∈ balancer.pool,
      (∀ later, .shutdown ∉ later → .tell (.remove candidate) ∉ later →
        balancer.pool.length + later.countP BalancerCall.joins ≤ later.count .choose →
        ∃ entry ∈ exchanges balancer later,
          entry.call = .choose ∧ entry.answer = .chosen (some candidate)) ∧
      ∀ other ≠ candidate,
        let left := next balancer (.tell (.remove other))
        left.wait candidate ≤ balancer.wait candidate ∧
          ∀ times, some candidate ∈ (balancer.chooseMany times).1 →
            some candidate ∈ (left.chooseMany times).1 := by
  -- After every history the cursor stands in the pool, which is all that both parts ask for.
  intro balancer open_ candidate member
  have begun : empty.CursorInPool := .inr ⟨rfl, rfl⟩
  have inPool : balancer.CursorInPool := begun.after earlier
  constructor
  · intro later kept stays enough
    refine exists_turn inPool open_ member kept stays (Nat.lt_of_lt_of_le ?_ enough)
    exact Nat.add_lt_add_right (wait_lt member) _
  · intro other different left
    obtain ⟨stays, less⟩ := wait_remove inPool open_ member different
    refine ⟨less, fun times reached => ?_⟩
    have stands : left.CursorInPool := inPool.next (.tell (.remove other))
    have still : left.shutDown = false := (onEvent_of_open open_ (.remove other)).2
    have soon := (mem_chooseMany_iff inPool open_ member times).mp reached
    exact (mem_chooseMany_iff stands still stays times).mpr (Nat.lt_of_le_of_lt less soon)

/-- One of three candidates has had its turn, one joins, one leaves, and four turns are enough. -/
theorem waits_are_bounded_of_churn :
    let of (port : UInt16) : Endpoint := ⟨"localhost", port⟩
    let earlier : List BalancerCall :=
      [.tell (.add (of 1)), .tell (.add (of 2)), .tell (.add (of 3)), .choose]
    let balancer := after empty earlier
    let later : List BalancerCall :=
      [.tell (.add (of 4)), .choose, .tell (.remove (of 2)), .choose, .choose, .choose]
    balancer.shutDown = false ∧ of 1 ∈ balancer.pool ∧ .shutdown ∉ later ∧
      .tell (.remove (of 1)) ∉ later ∧
      balancer.pool.length + later.countP BalancerCall.joins ≤ later.count .choose ∧
      ∃ entry ∈ exchanges balancer later,
        entry.call = .choose ∧ entry.answer = .chosen (some (of 1)) :=
  ⟨by decide, by decide, by decide, by decide, by decide,
    (waits_are_bounded [.tell (.add ⟨"localhost", 1⟩), .tell (.add ⟨"localhost", 2⟩),
      .tell (.add ⟨"localhost", 3⟩), .choose] (by decide) ⟨"localhost", 1⟩ (by decide)).1
      [.tell (.add ⟨"localhost", 4⟩), .choose, .tell (.remove ⟨"localhost", 2⟩), .choose,
        .choose, .choose] (by decide) (by decide) (by decide)⟩

end RoundRobin

end PeerCluster
