import PeerCluster.Log

/-! Runs: calls on a state, one after the other, with the answers that they get. -/

namespace PeerCluster

/-- A call with its answer and with what was logged for it. -/
structure Exchange (Call Answer : Type) where
  call : Call
  answer : Answer
  log : List LogRecord
deriving DecidableEq, Repr

/-- States that answer calls, and that change with them. -/
class Machine (State : Type) (Call Answer : outParam Type) where
  /-- Answers a call. -/
  perform : State → Call → Logged (Answer × State)

namespace Machine

variable {State Call Answer : Type} [Machine State Call Answer]

/-- The answer to a call. -/
def answerTo (state : State) (call : Call) : Answer :=
  (perform state call).value.1

/-- The state after a call. -/
def next (state : State) (call : Call) : State :=
  (perform state call).value.2

/-- A call together with the answer that it gets. -/
def exchange (state : State) (call : Call) : Exchange Call Answer :=
  ⟨call, answerTo state call, (perform state call).log⟩

/-- The state after calls, one after the other. -/
def after (state : State) : List Call → State
  | [] => state
  | call :: rest => after (next state call) rest

/-- Calls, one after the other, together with the answers that they get. -/
def exchanges (state : State) : List Call → List (Exchange Call Answer)
  | [] => []
  | call :: rest => exchange state call :: exchanges (next state call) rest

/-- Every state that there is between calls, before the first one, and after the last one. -/
def moments (state : State) : List Call → List State
  | [] => [state]
  | call :: rest => state :: moments (next state call) rest

variable (state : State) (calls more : List Call)

/-- Calls in two batches lead where all of them lead at once. -/
@[simp] theorem after_append : after state (calls ++ more) = after (after state calls) more := by
  -- Batches are joined by going through the first one.
  induction calls generalizing state with
  | nil => rfl
  | cons call rest ih => exact ih (next state call)

/-- The answers to two batches of calls follow each other. -/
theorem exchanges_append :
    exchanges state (calls ++ more) =
      exchanges state calls ++ exchanges (after state calls) more := by
  -- Both sides have the first exchange, and the others begin in the state behind it.
  induction calls generalizing state with
  | nil => rfl
  | cons call rest ih => simp [exchanges, after, ih]

/-- What is read off the first exchange comes before what is read off those after it. -/
theorem filterMap_exchanges_cons {Item : Type} (read : Exchange Call Answer → Option Item)
    (call : Call) :
    (exchanges state (call :: calls)).filterMap read =
      (read (exchange state call)).toList ++
        (exchanges (next state call) calls).filterMap read := by
  rw [exchanges, List.filterMap_cons]
  cases read (exchange state call) with
  | none | some => rfl

/-- The calls that were answered are those that were made. -/
@[simp] theorem map_call_exchanges :
    (exchanges state calls).map Exchange.call = calls := by
  -- Each exchange keeps its call.
  induction calls generalizing state with
  | nil => rfl
  | cons call rest ih => exact congrArg (call :: ·) (ih (next state call))

/-- The states passed through are those after the first few calls. -/
theorem mem_moments_iff {moment : State} :
    moment ∈ moments state calls ↔
      ∃ earlier later, calls = earlier ++ later ∧ moment = after state earlier := by
  -- A moment is the one at the start, or a moment of the run that is left after the first call.
  induction calls generalizing state with
  | nil => simp [moments, after]
  | cons call rest ih =>
    simp only [moments, List.mem_cons, ih]
    constructor
    · rintro (same | ⟨earlier, later, split, reached⟩)
      · exact ⟨[], call :: rest, rfl, same⟩
      · exact ⟨call :: earlier, later, by simp [split], reached⟩
    · rintro ⟨earlier, later, split, reached⟩
      cases earlier with
      | nil => exact .inl reached
      | cons first earlier =>
        obtain ⟨rfl, tail⟩ := List.cons_eq_cons.mp split
        exact .inr ⟨earlier, later, tail, reached⟩

/-- The exchanges of a run are those of its calls, each in the state after the earlier ones. -/
theorem mem_exchanges_iff {entry : Exchange Call Answer} :
    entry ∈ exchanges state calls ↔
      ∃ earlier call later, calls = earlier ++ call :: later ∧
        entry = exchange (after state earlier) call := by
  -- An exchange is the first one, or one of the run that is left after it.
  induction calls generalizing state with
  | nil => simp [exchanges]
  | cons call rest ih =>
    simp only [exchanges, List.mem_cons, ih]
    constructor
    · rintro (same | ⟨earlier, other, later, split, same⟩)
      · exact ⟨[], call, rest, rfl, same⟩
      · exact ⟨call :: earlier, other, later, by simp [split], same⟩
    · rintro ⟨earlier, other, later, split, same⟩
      cases earlier with
      | nil =>
        obtain ⟨rfl, rfl⟩ := List.cons_eq_cons.mp split
        exact .inl same
      | cons first earlier =>
        obtain ⟨rfl, tail⟩ := List.cons_eq_cons.mp split
        exact .inr ⟨earlier, other, later, tail, same⟩

variable {state : State} {calls : List Call}

/-- What every admitted call keeps holds after any number of them. -/
theorem after_of_kept {Holds : State → Prop} {Admitted : Call → Prop}
    (kept : ∀ state call, Holds state → Admitted call → Holds (next state call))
    (holds : Holds state) (admitted : ∀ call ∈ calls, Admitted call) :
    Holds (after state calls) := by
  -- What holds is handed from each call to the next, as all of them are admitted.
  induction calls generalizing state with
  | nil => exact holds
  | cons call rest ih =>
    obtain ⟨first, later⟩ := List.forall_mem_cons.mp admitted
    exact ih (kept state call holds first) later

/-- What holds of every admitted call in such a state holds of all calls of a run. -/
theorem exchanges_of_kept {Holds : State → Prop} {Admitted : Call → Prop}
    {Expected : Exchange Call Answer → Prop}
    (kept : ∀ state call, Holds state → Admitted call → Holds (next state call))
    (expected : ∀ state call, Holds state → Admitted call → Expected (exchange state call))
    (holds : Holds state) (admitted : ∀ call ∈ calls, Admitted call) :
    ∀ entry ∈ exchanges state calls, Expected entry := by
  -- Each call is answered in a state that the calls before it have kept.
  induction calls generalizing state with
  | nil => simp [exchanges]
  | cons call rest ih =>
    obtain ⟨first, later⟩ := List.forall_mem_cons.mp admitted
    refine List.forall_mem_cons.mpr ⟨expected state call holds first, ?_⟩
    exact ih (kept state call holds first) later

/-- States that answer every call alike, and stay alike, answer all calls of a run alike. -/
theorem exchanges_of_alike {Other : Type} [Machine Other Call Answer]
    {Alike : State → Other → Prop}
    (alike : ∀ state other call, Alike state other →
      exchange state call = exchange other call ∧ Alike (next state call) (next other call))
    {other : Other} (begins : Alike state other) (calls : List Call) :
    exchanges state calls = exchanges other calls ∧
      Alike (after state calls) (after other calls) := by
  -- The two runs go side by side, and are alike before each call.
  induction calls generalizing state other with
  | nil => exact ⟨rfl, begins⟩
  | cons call rest ih =>
    obtain ⟨first, still⟩ := alike state other call begins
    obtain ⟨later, ends⟩ := ih still
    exact ⟨List.cons_eq_cons.mpr ⟨first, later⟩, ends⟩

end Machine

end PeerCluster
