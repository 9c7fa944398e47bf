import PeerCluster.Proofs.Cluster.Attempts
import PeerCluster.Proofs.Registry.Calls

/-! Errors that no retry can mend are logged, in a record of an error with their code. -/

namespace PeerCluster

/-- Some record of a log is an error and carries the code of this one. -/
def LogsError (error : ClusterError) (log : List LogRecord) : Prop :=
  ∃ entry ∈ log, entry.level = .error ∧ error.codeField ∈ entry.fields

namespace LogsError

variable {error : ClusterError} {log more : List LogRecord}

/-- A record of an error logs it, whatever other fields it has. -/
theorem single {entry : LogRecord} (level : entry.level = .error)
    (code : error.codeField ∈ entry.fields) : LogsError error [entry] :=
  -- The record of the error is the only one.
  ⟨entry, List.mem_singleton_self entry, level, code⟩

/-- A logged error stays logged, whatever is logged after it. -/
theorem before (logged : LogsError error log) (more : List LogRecord) :
    LogsError error (log ++ more) := by
  -- The record keeps its place in front of those that follow.
  obtain ⟨entry, member, said⟩ := logged
  exact ⟨entry, List.mem_append_left more member, said⟩

/-- It is logged whatever was logged before it, too. -/
theorem behind (logged : LogsError error more) (log : List LogRecord) :
    LogsError error (log ++ more) := by
  -- The record moves back, and is still there.
  obtain ⟨entry, member, said⟩ := logged
  exact ⟨entry, List.mem_append_right log member, said⟩

end LogsError

/-- When a result is an error that no retry can mend, the log has it. -/
def LogsViolation {α : Type} (result : Except ClusterError α) (log : List LogRecord) : Prop :=
  ∀ error, result = .error error → error.isInvariantViolation = true → LogsError error log

namespace LogsViolation

variable {α β : Type} {log more : List LogRecord} {error : ClusterError}

/-- A success need not log anything. -/
theorem ok (value : α) : LogsViolation (.ok value) log := nofun

/-- An error that is in the log meets this, whatever kind of error it is. -/
theorem of_logsError (logged : LogsError error log) :
    LogsViolation (α := α) (.error error) log := by
  -- The error asked about is the one that is in the log.
  rintro _ ⟨⟩ _
  exact logged

/-- Neither need an error of another kind. -/
theorem of_notViolation (notViolation : error.isInvariantViolation = false) :
    LogsViolation (α := α) (.error error) log := by
  -- The error asked about is of another category.
  rintro _ ⟨⟩ violation
  exact absurd violation (by simp [notViolation])

/-- More records behind those of a result take none of them away. -/
theorem before {result : Except ClusterError α} (logsViolation : LogsViolation result log)
    (more : List LogRecord) : LogsViolation result (log ++ more) :=
  fun error failed violation => (logsViolation error failed violation).before more

/-- Neither do records before them. -/
theorem behind {result : Except ClusterError α} (logsViolation : LogsViolation result more)
    (log : List LogRecord) : LogsViolation result (log ++ more) :=
  fun error failed violation => (logsViolation error failed violation).behind log

/-- Two results that fail alike have the same errors to log. -/
theorem map {result : Except ClusterError α} (logsViolation : LogsViolation result log)
    (change : α → β) :
    LogsViolation (result.map change) log := by
  -- A change of the value touches no error.
  cases result with
  | error error => exact fun _ failed => logsViolation _ (by cases failed; rfl)
  | ok value => exact .ok (change value)

end LogsViolation

/-! ### Registries and notifications -/

/-- No removal fails without saying so. -/
theorem Registry.logsViolation_remove (registry : Registry) (index : Nat) :
    LogsViolation (registry.remove index).value.1 (registry.remove index).log := by
  -- The one failure is that nobody stands at the position, and it is logged before it is answered.
  cases found : registry.members[index]? with
  | none =>
    unfold remove
    rw [found]
    exact .of_logsError (.single rfl List.mem_cons_self)
  | some peer =>
    -- Whoever is found is removed.
    rw [(remove_of_found found).1]
    exact .ok peer

/-- No call to a registry fails without saying so. -/
theorem Registry.logsViolation_perform (registry : Registry) (call : RegistryCall)
    {error : ClusterError}
    (failed : (registry.perform call).value.1 = .failed error)
    (violation : error.isInvariantViolation = true) :
    LogsError error (registry.perform call).log := by
  -- Whoever no longer reaches the registry is not answered an error, and so only removals can fail.
  unfold perform at failed ⊢
  split at failed
  · cases failed
  · rename_i reached
    rw [if_neg reached]
    cases call with
    | remove index =>
      refine registry.logsViolation_remove index error ?_ violation
      change RegistryAnswer.ofRemoval (registry.remove index).value.1 = _ at failed
      generalize (registry.remove index).value.1 = result at failed
      cases result with
      | error cause => exact congrArg _ (RegistryAnswer.failed.inj failed)
      | ok peer => cases failed
    | add | subscribe | retain | release | poll | cancel => cases failed

/-- No notification is refused without saying so. -/
theorem ChangeNotification.logsViolation_toEvent {α : Type} [Outline α]
    (notification : ChangeNotification α) :
    LogsViolation notification.toEvent.value notification.toEvent.log := by
  -- Only a change in place is refused, and the refusal is logged with its code.
  unfold toEvent
  cases notification.kind with
  | add | delete => exact .ok _
  | modify => exact .of_logsError (.single rfl List.mem_cons_self)

/-- No notification is refused by a projection without saying so. -/
theorem Projection.logsViolation_projectNotification (projection : Projection)
    (notification : ChangeNotification PeerAddress) :
    LogsViolation (projection.projectNotification notification).value
      (projection.projectNotification notification).log :=
  notification.logsViolation_toEvent.map projection.projectEvent

end PeerCluster
