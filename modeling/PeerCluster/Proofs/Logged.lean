import PeerCluster.Log

/-! What sequences of logged computations result in, and logs without errors. -/

namespace PeerCluster

namespace Logged

variable {α β : Type}

/-- A computation without records has its result. -/
@[simp] theorem value_quiet (value : α) : (quiet value).value = value := rfl

/-- A computation without records has none. -/
@[simp] theorem log_quiet (value : α) : (quiet value).log = [] := rfl

/-- The rest of a sequence goes on from the result of its first part, and its records follow. -/
theorem bind_eq (first : Logged α) (rest : α → Logged β) :
    first >>= rest = ⟨(rest first.value).value, first.log ++ (rest first.value).log⟩ := rfl

/-- A sequence without a first part has its result. -/
@[simp] theorem value_pure (value : α) : (pure value : Logged α).value = value := rfl

/-- A sequence without a first part has no records. -/
@[simp] theorem log_pure (value : α) : (pure value : Logged α).log = [] := rfl

/-- A changed result is the change of the result. -/
@[simp] theorem value_map (change : α → β) (logged : Logged α) :
    (logged.map change).value = change logged.value := rfl

/-- A record that is emitted is logged. -/
@[simp] theorem log_emit (entry : LogRecord) : (emit entry).log = [entry] := rfl

end Logged

/-- No record of a log is an error. -/
def ErrorFree (log : List LogRecord) : Prop :=
  ∀ entry ∈ log, entry.level ≠ .error

namespace ErrorFree

/-- A log without records has no errors. -/
@[simp] theorem nil : ErrorFree [] := by
  simp [ErrorFree]

/-- One record is a log without errors if its level is not that of an error. -/
theorem single {entry : LogRecord} (level : entry.level ≠ .error) : ErrorFree [entry] := by
  simpa [ErrorFree] using level

/-- Two logs without errors make one without errors. -/
theorem append {log more : List LogRecord} (errorFree : ErrorFree log) (further : ErrorFree more) :
    ErrorFree (log ++ more) := by
  -- A record of both logs is a record of one of them.
  intro entry member
  rcases List.mem_append.mp member with earlier | later
  · exact errorFree entry earlier
  · exact further entry later

end ErrorFree

end PeerCluster
