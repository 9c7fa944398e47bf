import PeerCluster.Toml.Reader

/-! Properties of what readers take off texts, whatever the texts are. -/

namespace PeerCluster.Toml

namespace Reader

variable {α β : Type} {reader : Reader α} {holds : α → Prop} {also : β → Prop}

/-- Whatever a reader takes off a text has a property. -/
def Yields (reader : Reader α) (holds : α → Prop) : Prop :=
  ∀ text value rest, reader text = some (value, rest) → holds value

namespace Yields

/-- A value that takes nothing off a text is yielded as it is. -/
theorem pure {value : α} (fine : holds value) : Yields (Pure.pure value) holds := by
  -- The text is left as it was, and the value is the one given.
  intro text taken rest read
  obtain ⟨rfl, _⟩ := Prod.mk.inj (Option.some.inj read)
  exact fine

/-- A reader that refuses everything yields nothing. -/
theorem failure : Yields (failure : Reader α) holds := by
  -- There is no text of which it takes anything.
  intro text taken rest read
  cases read

/-- Of two readers in a row the second one decides, given what the first one has taken. -/
theorem bind {next : α → Reader β} (first : reader.Yields holds)
    (second : ∀ value, holds value → (next value).Yields also) : (reader >>= next).Yields also := by
  -- Both have taken something, the second one off what the first one has left.
  intro text taken rest read
  obtain ⟨⟨value, between⟩, begun, goesOn⟩ := Option.bind_eq_some_iff.mp read
  exact second value (first text value between begun) between taken rest goesOn

/-- Of two readers in a row the second one decides, whatever the first one has taken. -/
theorem after {next : α → Reader β} (second : ∀ value, (next value).Yields also) :
    (reader >>= next).Yields also :=
  bind (fun _ _ _ _ => trivial : reader.Yields fun _ => True) fun value _ => second value

/-- What is made of anything is yielded if it has the property whatever it is made of. -/
theorem map {make : α → β} (fine : ∀ value, also (make value)) :
    (make <$> reader).Yields also := by
  -- To make something of a value is to read on without taking anything.
  rw [map_eq_pure_bind]
  exact after fun value => pure (fine value)

/-- Where the first part is left out the second one decides. -/
theorem seqRight {other : Reader β} (fine : other.Yields also) : (reader *> other).Yields also := by
  -- What the first part takes is read and thrown away.
  rw [seqRight_eq_bind]
  exact after fun _ => fine

/-- Where the second part is left out the first one decides. -/
theorem seqLeft {other : Reader β} (fine : reader.Yields holds) :
    (reader <* other).Yields holds := by
  -- What the second part takes is thrown away, and what was found before is given back.
  rw [seqLeft_eq_bind]
  exact fine.bind fun value found => after fun _ => pure found

/-- Of two alternatives each one yields what has the property. -/
theorem orElse {other : Reader α} (fine : reader.Yields holds) (fine' : other.Yields holds) :
    (reader <|> other).Yields holds := by
  -- The second alternative is tried only on a text that the first one has refused.
  intro text taken rest read
  change (reader text).orElse (fun _ => other text) = some (taken, rest) at read
  cases begun : reader text with
  | none =>
    rw [begun] at read
    exact fine' text taken rest read
  | some result =>
    rw [begun] at read
    obtain rfl := Option.some.inj read
    exact fine text taken rest begun

/-- What may be missing has the property if it is there. -/
theorem optional? (fine : reader.Yields holds) :
    reader.optional?.Yields fun value? => ∀ value ∈ value?, holds value := by
  -- It is there, or nothing is taken.
  unfold Reader.optional?
  refine orElse ?_ (pure nofun)
  rw [map_eq_pure_bind]
  refine fine.bind fun value found => pure fun other same => ?_
  obtain rfl := Option.some.inj same
  exact found

/-- Whatever is taken up to a number of times has the property if what was taken before has it. -/
theorem repeatedUpTo (fine : reader.Yields holds) (limit : Nat) {taken : List α}
    (found : ∀ value ∈ taken, holds value) :
    (reader.repeatedUpTo limit taken).Yields fun values => ∀ value ∈ values, holds value := by
  -- What was taken is kept in reverse until the reader refuses or the limit is reached.
  induction limit generalizing taken with
  | zero =>
    intro text values rest read
    obtain ⟨rfl, _⟩ := Prod.mk.inj (Option.some.inj read)
    exact fun value member => found value (List.mem_reverse.mp member)
  | succ limit ih =>
    intro text values rest read
    unfold Reader.repeatedUpTo at read
    split at read
    · obtain ⟨rfl, _⟩ := Prod.mk.inj (Option.some.inj read)
      exact fun value member => found value (List.mem_reverse.mp member)
    · rename_i next between begun
      exact ih (List.forall_mem_cons.mpr ⟨fine text next between begun, found⟩) between values rest
        read

/-- Whatever is taken again and again has the property, each time. -/
theorem repeated (fine : reader.Yields holds) :
    reader.repeated.Yields fun values => ∀ value ∈ values, holds value := by
  -- Each round takes something off the text, so that its length is limit enough.
  intro text values rest read
  unfold Reader.repeated at read
  split at read
  · obtain ⟨rfl, _⟩ := Prod.mk.inj (Option.some.inj read)
    exact nofun
  · rename_i first between begun
    have alone : ∀ value ∈ [first], holds value :=
      List.forall_mem_singleton.mpr (fine text first between begun)
    exact fine.repeatedUpTo between.length alone between values rest read

end Yields

end Reader

end PeerCluster.Toml
