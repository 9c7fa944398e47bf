/-! Answers of sources that are asked for their next item without waiting for it. -/

namespace PeerCluster

/-- The answer of a source that is asked once. -/
inductive Poll (α : Type) where
  /-- The next item, which the source has let go of. -/
  | ready (item : α)
  /-- Nothing yet. -/
  | pending
  /-- Nothing any more. -/
  | finished
deriving DecidableEq, Repr

/-- Replaces the item of an answer. -/
def Poll.map {α β : Type} (change : α → β) : Poll α → Poll β
  | ready item => ready (change item)
  | pending => pending
  | finished => finished

/-- Whether a source has nothing yet. -/
def Poll.isPending {α : Type} : Poll α → Bool
  | pending => true
  | _ => false

/-- Whether a source has nothing any more. -/
def Poll.isFinished {α : Type} : Poll α → Bool
  | finished => true
  | _ => false

/-- Why asking a source again and again came to a stop. -/
inductive DrainTail where
  | pending
  | finished
  /-- As many items as asked for were taken. -/
  | limit
deriving DecidableEq, Repr

/-- The items that a source gave when it was asked again and again. -/
structure Drained (α : Type) where
  items : List α
  tail : DrainTail
deriving DecidableEq, Repr

/-- Replaces every item taken from a source. -/
def Drained.map {α β : Type} (change : α → β) (drained : Drained α) : Drained β :=
  ⟨drained.items.map change, drained.tail⟩

/-- Puts an item in front of those taken after it. -/
def Drained.cons {α : Type} (item : α) (drained : Drained α) : Drained α :=
  ⟨item :: drained.items, drained.tail⟩

/-- Asks a source until it has no item ready, or until a number of items is taken. -/
def drain {α σ : Type} (poll : σ → Poll α × σ) : Nat → σ → Drained α × σ
  | 0, source => (⟨[], .limit⟩, source)
  | limit + 1, source =>
    match poll source with
    | (.ready item, rest) =>
      let (drained, final) := drain poll limit rest
      (drained.cons item, final)
    | (.pending, rest) => (⟨[], .pending⟩, rest)
    | (.finished, rest) => (⟨[], .finished⟩, rest)

end PeerCluster
