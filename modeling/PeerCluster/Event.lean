import PeerCluster.Address
import PeerCluster.Log

/-! Changes of a membership, and the looser notifications that other sources report them by. -/

namespace PeerCluster

/-- A peer or endpoint that joined or left; there is no change in place. -/
inductive ChangeEvent (α : Type) where
  | add (payload : α)
  | remove (payload : α)
deriving DecidableEq, Repr

namespace ChangeEvent

variable {α β : Type}

/-- The word for the kind of a change. -/
def kind : ChangeEvent α → String
  | add _ => "add"
  | remove _ => "remove"

/-- What joined or left. -/
def payload : ChangeEvent α → α
  | add payload => payload
  | remove payload => payload

/-- Replaces what joined or left and keeps the kind of the change. -/
def map (change : α → β) : ChangeEvent α → ChangeEvent β
  | add payload => add (change payload)
  | remove payload => remove (change payload)

/-- The text of a change in messages: its kind, a space, and what joined or left. -/
def text [ToString α] (event : ChangeEvent α) : String :=
  event.kind ++ " " ++ toString event.payload

end ChangeEvent

instance {α : Type} [ToString α] : ToString (ChangeEvent α) where
  toString := ChangeEvent.text

instance {α : Type} [Outline α] : Outline (ChangeEvent α) where
  outline
    | .add payload => Text.wrappedOutline "Add" (outline payload)
    | .remove payload => Text.wrappedOutline "Remove" (outline payload)

/-- The kinds of change that other sources report. -/
inductive NotificationKind where
  | add | modify | delete
deriving DecidableEq, Repr

instance : Outline NotificationKind where
  outline
    | .add => "Add"
    | .modify => "Modify"
    | .delete => "Delete"

/-- A change as another source reports it. -/
structure ChangeNotification (α : Type) where
  kind : NotificationKind
  data : α
deriving DecidableEq, Repr

/-- The error that a report of a change in place leads to. -/
def ClusterError.ofModify {α : Type} [Outline α] (data : α) : ClusterError :=
  .modifyNotSupported (outline data)

/-- Reads a notification as a change, refusing one that reports a change in place. -/
def ChangeNotification.toEvent {α : Type} [Outline α] (notification : ChangeNotification α) :
    Logged (Except ClusterError (ChangeEvent α)) :=
  match notification.kind with
  | .add => .quiet (.ok (.add notification.data))
  | .delete => .quiet (.ok (.remove notification.data))
  | .modify =>
    let error := ClusterError.ofModify notification.data
    ⟨.error error, [⟨.error, .event, "modify notification observed for an immutable peer",
      [error.codeField, ("payload", .rendered (outline notification.data))]⟩]⟩

/-- A change as a notification for other parties. -/
def ChangeEvent.toNotification {α : Type} : ChangeEvent α → ChangeNotification α
  | add payload => ⟨.add, payload⟩
  | remove payload => ⟨.delete, payload⟩

end PeerCluster
