import PeerCluster.Config

/-! What a block of ports holds, and that machine words are wide enough to hand blocks out. -/

namespace PeerCluster

/-! ### Blocks -/

/-- The ports of a block follow each other from its first one. -/
theorem NodePorts.toNat_startingAt {first : Nat} (fits : first + portsPerNode ≤ UInt16.size) :
    (startingAt first).toList.map UInt16.toNat =
      [first, first + 1, first + 2, first + 3, first + 4] := by
  -- The last port of the block is below the number of ports, so no number is cut off.
  simp only [portsPerNode, UInt16.size] at fits
  simp only [startingAt, toList, List.map_cons, List.map_nil, UInt16.toNat_ofNat', List.cons.injEq,
    and_true]
  omega

namespace PortAllocator

variable {allocator : PortAllocator}

/-- A block that ends before the ports do is handed out. -/
theorem peek_of_fits (fits : allocator.next + portsPerNode ≤ UInt16.size) :
    allocator.peek = .ok (.startingAt allocator.next) :=
  if_pos fits

/-- A block that would go past the last port is refused. -/
theorem peek_of_full (full : UInt16.size < allocator.next + portsPerNode) :
    allocator.peek = .error (.portSpaceExhausted allocator.next allocator.layout.stride) :=
  if_neg (Nat.not_le_of_lt full)

/-- Only the next block is handed out, and only when it ends before the ports do. -/
theorem startingAt_of_peek {ports : NodePorts} (block : allocator.peek = .ok ports) :
    allocator.next + portsPerNode ≤ UInt16.size ∧ ports = .startingAt allocator.next := by
  -- Only the test of the bounds decides whether there is a block.
  unfold peek at block
  split at block
  · rename_i fits
    exact ⟨fits, (Except.ok.inj block).symm⟩
  · cases block

end PortAllocator

/-- In settings that make sense blocks are at least as far apart as they are long. -/
theorem ClusterConfig.apart_of_valid {config : ClusterConfig}
    (valid : config.validate = .ok config) : portsPerNode ≤ config.ports.stride.toNat := by
  refine Nat.le_of_not_lt fun narrow => ?_
  -- A narrower stride is a fault, unless another one is found before it.
  have fault : config.fault?.isSome = true := by
    simp only [fault?, if_pos narrow, apply_ite Option.isSome]
    simp
  obtain ⟨reason, found⟩ := Option.isSome_iff_exists.mp fault
  unfold validate at valid
  rw [found] at valid
  cases valid

/-! ### Words -/

/-- The sum of two ports, if it is one. -/
def addPorts? (port offset : UInt16) : Option UInt16 :=
  if port.toNat + offset.toNat < UInt16.size then some (port + offset) else none

/-- The sum of two words, if it is one. -/
def addWords? (word offset : UInt32) : Option UInt32 :=
  if word.toNat + offset.toNat < UInt32.size then some (word + offset) else none

/-- An allocator that reckons in machine words, and gives up when a sum is none. -/
structure WordAllocator where
  layout : PortLayout
  cursor : UInt32

namespace WordAllocator

/-- The next block, unless it would go past the last port. -/
def peek (allocator : WordAllocator) : Option (Except ClusterError NodePorts) := do
  let exhausted : ClusterError :=
    .portSpaceExhausted allocator.cursor.toNat allocator.layout.stride
  let last ← addWords? allocator.cursor 4
  if UInt16.size ≤ last.toNat then
    return .error exhausted
  else if UInt16.size ≤ allocator.cursor.toNat then
    return .error exhausted
  else
    let base := allocator.cursor.toUInt16
    return .ok ⟨← addPorts? base 0, ← addPorts? base 1, ← addPorts? base 2, ← addPorts? base 3,
      ← addPorts? base 4⟩

/-- Uses the next block up. -/
def commit (allocator : WordAllocator) : Option WordAllocator := do
  let cursor ← addWords? allocator.cursor allocator.layout.stride.toUInt32
  return { allocator with cursor }

/-- An allocator that reckons in words stands where one that reckons in numbers does. -/
structure Holds (words : WordAllocator) (allocator : PortAllocator) : Prop where
  layout : words.layout = allocator.layout
  cursor : words.cursor.toNat = allocator.next

variable {words : WordAllocator} {allocator : PortAllocator}

/-- A port of a block is found without a sum that is too large. -/
theorem addPorts?_toUInt16 {cursor : UInt32} {offset : UInt16}
    (small : cursor.toNat + offset.toNat < UInt16.size) :
    addPorts? cursor.toUInt16 offset = some (.ofNat (cursor.toNat + offset.toNat)) := by
  simp only [UInt16.size] at small
  have exact : cursor.toUInt16.toNat = cursor.toNat := by
    rw [UInt32.toNat_toUInt16]
    omega
  unfold addPorts?
  rw [exact, if_pos small]
  congr 1
  -- Both sides are the same number, which is small enough to be a port.
  apply UInt16.toNat.inj
  rw [UInt16.toNat_add, exact, UInt16.toNat_ofNat']

/-- The sum of two words that is one is the sum of their numbers. -/
theorem addWords?_eq {word offset : UInt32} (room : word.toNat + offset.toNat < UInt32.size) :
    ∃ sum, addWords? word offset = some sum ∧ sum.toNat = word.toNat + offset.toNat := by
  refine ⟨word + offset, if_pos room, ?_⟩
  -- The sum is below the size of words, so it is not cut off.
  rw [UInt32.toNat_add]
  exact Nat.mod_eq_of_lt room

/-- Words are wide enough to look at the next block. -/
theorem peek_eq (holds : words.Holds allocator) (room : allocator.next + 4 < UInt32.size) :
    words.peek = some allocator.peek := by
  obtain ⟨layout, cursor⟩ := words
  obtain ⟨rfl, here⟩ := holds
  -- The cursor and the next number are the same number.
  simp only at here
  obtain ⟨last, found, sum⟩ : ∃ last, addWords? cursor 4 = some last ∧
      last.toNat = cursor.toNat + 4 := addWords?_eq (by rw [here]; exact room)
  unfold peek PortAllocator.peek
  simp only [found, Option.bind_eq_bind, Option.bind_some, sum, here, Option.pure_def]
  by_cases fits : allocator.next + portsPerNode ≤ UInt16.size
  · -- Every port of the block is below the number of ports.
    rw [if_pos fits]
    simp only [portsPerNode, UInt16.size] at fits
    have port (offset : UInt16) (within : offset.toNat < 5) :
        addPorts? cursor.toUInt16 offset = some (.ofNat (allocator.next + offset.toNat)) := by
      rw [← here]
      exact addPorts?_toUInt16 (by simp only [UInt16.size]; omega)
    have last_fits : ¬ UInt16.size ≤ allocator.next + 4 := by simp only [UInt16.size]; omega
    have base_fits : ¬ UInt16.size ≤ allocator.next := by simp only [UInt16.size]; omega
    rw [if_neg last_fits, if_neg base_fits, port 0 (by decide), port 1 (by decide),
      port 2 (by decide), port 3 (by decide), port 4 (by decide)]
    rfl
  · -- Already the last port of the block would be one too many.
    rw [if_neg fits]
    simp only [portsPerNode, UInt16.size] at fits
    rw [if_pos (by simp only [UInt16.size]; omega)]

/-- Words are wide enough to use the next block up. -/
theorem commit_eq (holds : words.Holds allocator)
    (room : allocator.next + allocator.layout.stride.toNat < UInt32.size) :
    ∃ left, words.commit = some left ∧ left.Holds allocator.commit := by
  -- The stride of ports is widened to a word, which does not change it.
  have stride : words.layout.stride.toUInt32.toNat = allocator.layout.stride.toNat := by
    rw [UInt16.toNat_toUInt32, holds.layout]
  rw [← holds.cursor, ← stride] at room
  obtain ⟨cursor, found, sum⟩ := addWords?_eq room
  refine ⟨{ words with cursor }, ?_, holds.layout, ?_⟩
  · unfold commit
    rw [found]
    rfl
  · rw [sum, stride, holds.cursor]
    rfl

/-- As long as no more than a stride has gone past the last port, no sum of words is too large. -/
theorem exists_holds (bounded : allocator.next < 2 * UInt16.size) :
    ∃ words : WordAllocator, words.Holds allocator ∧ words.peek = some allocator.peek ∧
      ∀ block, allocator.peek = .ok block → ∃ left, words.commit = some left ∧
        left.Holds allocator.commit := by
  simp only [UInt16.size] at bounded
  have narrow := allocator.layout.stride.toNat_lt
  let words : WordAllocator := ⟨allocator.layout, .ofNat allocator.next⟩
  have holds : words.Holds allocator := by
    -- A number below twice the ports is one that fits a word.
    refine ⟨rfl, ?_⟩
    rw [UInt32.toNat_ofNat']
    omega
  refine ⟨words, holds, peek_eq holds ?_, fun block _ => commit_eq holds ?_⟩
  · -- Neither sum is anywhere near the size of words.
    simp only [UInt32.size]
    omega
  · simp only [UInt32.size]
    omega

end WordAllocator

end PeerCluster
