/-! Queues: items leave in the order in which they came. -/

namespace PeerCluster

/-- A queue whose front is in order and whose back has the newest item first. -/
structure Queue (α : Type) where
  front : List α
  back : List α
deriving DecidableEq, Repr

namespace Queue

variable {α : Type}

/-- The queue without items. -/
def empty : Queue α :=
  ⟨[], []⟩

/-- The items, oldest first. -/
def toList (queue : Queue α) : List α :=
  queue.front ++ queue.back.reverse

/-- Appends an item. -/
def push (queue : Queue α) (item : α) : Queue α :=
  { queue with back := item :: queue.back }

/-- The oldest item, and the queue without it. -/
def pop? (queue : Queue α) : Option (α × Queue α) :=
  match queue.front with
  | item :: rest => some (item, { queue with front := rest })
  | [] =>
    match queue.back.reverse with
    | item :: rest => some (item, ⟨rest, []⟩)
    | [] => none

/-- How many items there are. -/
def length (queue : Queue α) : Nat :=
  queue.front.length + queue.back.length

/-- The empty queue has no items. -/
@[simp] theorem toList_empty : (empty : Queue α).toList = [] := rfl

/-- A new item is the last one. -/
@[simp] theorem toList_push (queue : Queue α) (item : α) :
    (queue.push item).toList = queue.toList ++ [item] := by
  simp [toList, push]

/-- The item that leaves is the first one, and nothing leaves only from the empty queue. -/
theorem map_toList_pop? (queue : Queue α) :
    queue.pop?.map (fun (item, rest) => item :: rest.toList) =
      if queue.toList = [] then none else some queue.toList := by
  -- Once the front is used up, the back is turned round and becomes the front.
  unfold pop? toList
  cases queue.front with
  | cons item rest => simp
  | nil => cases back : queue.back.reverse <;> simp

/-- The length counts the items. -/
@[simp] theorem length_toList (queue : Queue α) : queue.toList.length = queue.length := by
  simp [toList, length]

end Queue

end PeerCluster
