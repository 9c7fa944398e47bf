import Mathlib.Data.List.InsertIdx
import Mathlib.Data.List.Nodup
import PeerCluster.Event

/-! Views that consumers build out of changes, and the memberships that the changes come from. -/

namespace PeerCluster.ChangeEvent

variable {α β : Type}

/-- What a change makes of a consumer's view, in which a member is known by its value alone. -/
def applyTo [DecidableEq α] (view : List α) : ChangeEvent α → List α
  | add payload => view ++ [payload]
  | remove payload => view.erase payload

/-- What changes, one after the other, make of a consumer's view. -/
def rebuild [DecidableEq α] (view : List α) (events : List (ChangeEvent α)) : List α :=
  events.foldl applyTo view

/-- A change turns one membership into the next; who leaves is told by a position. -/
inductive Turns (before : List α) : ChangeEvent α → List α → Prop where
  | add (payload : α) : Turns before (.add payload) (before ++ [payload])
  | remove {index : Nat} {payload : α} (found : before[index]? = some payload) :
      Turns before (.remove payload) (before.eraseIdx index)

/-- Changes in two batches make of a view what they make of it at once. -/
theorem rebuild_append [DecidableEq α] (view : List α) (events more : List (ChangeEvent α)) :
    rebuild view (events ++ more) = rebuild (rebuild view events) more :=
  List.foldl_append

/-- Additions alone put what they add behind a view. -/
theorem rebuild_additions [DecidableEq α] (view members : List α) :
    rebuild view (members.map .add) = view ++ members := by
  -- The first addition comes to stand behind the view, and the others behind that.
  induction members generalizing view with
  | nil => simp [rebuild]
  | cons first rest ih =>
    have more := ih (view ++ [first])
    rw [List.append_assoc] at more
    exact more

/-- Whoever is in a view stays there unless it leaves. -/
theorem mem_rebuild_of_kept [DecidableEq α] {view : List α} {events : List (ChangeEvent α)}
    {payload : α} (member : payload ∈ view) (kept : .remove payload ∉ events) :
    payload ∈ rebuild view events := by
  -- By induction on the changes; none of them is the leave of the one looked for.
  induction events generalizing view with
  | nil => exact member
  | cons event rest ih =>
    obtain ⟨first, later⟩ := not_or.mp (mt List.mem_cons.mpr kept)
    refine ih ?_ later
    cases event with
    | add other => exact List.mem_append_left _ member
    -- Somebody else is taken out, and that is another value.
    | remove other =>
      have different : payload ≠ other := fun same => first (congrArg remove same)
      exact (List.mem_erase_of_ne different).mpr member

namespace Turns

variable {before after : List α} {event : ChangeEvent α}

/-- Only a member can leave. -/
theorem mem {payload : α} (turns : Turns before (.remove payload) after) : payload ∈ before := by
  -- What left was found at some position.
  cases turns with
  | remove found => exact List.mem_of_getElem? found

/-- A change of the members is a change of what they are seen as. -/
theorem map (change : α → β) (turns : Turns before event after) :
    Turns (before.map change) (event.map change) (after.map change) := by
  -- A value that joins, or one that is found, is seen as its image at the same position.
  cases turns with
  | add payload =>
    rw [List.map_append]
    exact .add (change payload)
  | remove found =>
    rw [← List.eraseIdx_map]
    exact .remove (by simp [found])

/-- A view of the same members in another order stays one. -/
theorem applyTo_perm [DecidableEq α] (turns : Turns before event after) {view : List α}
    (same : view.Perm before) : (event.applyTo view).Perm after := by
  -- The occurrence that the view erases may be another one than that which left.
  cases turns with
  -- A newcomer is put behind both.
  | add payload => exact same.append_right [payload]
  | @remove index payload found =>
    obtain ⟨inside, rfl⟩ := List.getElem?_eq_some_iff.mp found
    exact (same.erase before[index]).trans (List.erase_getElem inside)

/-- A view of distinct members in order stays one. -/
theorem applyTo_eq [DecidableEq α] (turns : Turns before event after) (distinct : before.Nodup) :
    event.applyTo before = after := by
  -- In a list without repetition the value erased is the one at the position.
  cases turns with
  | add payload => rfl
  | @remove index payload found =>
    obtain ⟨inside, rfl⟩ := List.getElem?_eq_some_iff.mp found
    exact distinct.erase_getElem index inside

/-- Members stay distinct when only somebody new joins. -/
theorem nodup (turns : Turns before event after) (distinct : before.Nodup)
    (fresh : ∀ payload, event = .add payload → payload ∉ before) : after.Nodup := by
  -- A newcomer is no member yet, and a leave repeats nobody.
  cases turns with
  | add payload =>
    rw [List.nodup_append_comm, List.singleton_append, List.nodup_cons]
    exact ⟨fresh payload rfl, distinct⟩
  | remove found => exact distinct.eraseIdx _

end Turns

end PeerCluster.ChangeEvent
