import PeerCluster.Projection

/-! What asking a source again and again takes, whatever the source is. -/

namespace PeerCluster

variable {α σ : Type} {poll : σ → Poll α × σ} {awaiting : σ → List α} {goesOn : σ → Bool}

/-- A source gives what it awaits, one item after the other, and then tells whether it goes on. -/
def Gives (poll : σ → Poll α × σ) (awaiting : σ → List α) (goesOn : σ → Bool) : Prop :=
  ∀ source,
    (∃ item rest, awaiting source = item :: rest ∧ (poll source).1 = .ready item ∧
      awaiting (poll source).2 = rest ∧ goesOn (poll source).2 = goesOn source) ∨
    (awaiting source = [] ∧ poll source = (if goesOn source then .pending else .finished, source))

/-- Asking a source takes what it awaits, up to the limit, and tells why it came to a stop. -/
theorem drain_of_gives (gives : Gives poll awaiting goesOn) (limit : Nat) (source : σ) :
    let drained := drain poll limit source
    drained.1 = ⟨(awaiting source).take limit,
      if limit ≤ (awaiting source).length then .limit
      else if goesOn source then .pending else .finished⟩ ∧
    awaiting drained.2 = (awaiting source).drop limit := by
  -- Every poll takes one item and lowers the limit by one, so both run out in step.
  induction limit generalizing source with
  | zero => simp [drain]
  | succ limit ih =>
    rcases gives source with ⟨item, rest, awaited, answer, left, same⟩ | ⟨awaited, answered⟩
    · obtain ⟨taken, remaining⟩ := ih (poll source).2
      rw [left, same] at taken
      rw [left] at remaining
      have split : poll source = (.ready item, (poll source).2) := by rw [← answer]
      rw [drain, split]
      simp [taken, remaining, awaited, Drained.cons]
    · -- A source that awaits nothing stops at once, and the limit plays no part in it.
      rw [drain, answered, awaited]
      cases goesOn source <;> simp [awaited]

/-- What every poll keeps holds after asking a source up to a limit. -/
theorem drain_kept (Holds : σ → Prop) (kept : ∀ source, Holds source → Holds (poll source).2)
    (limit : Nat) {source : σ} (holds : Holds source) : Holds (drain poll limit source).2 := by
  -- Whatever the answers are, the source is left by polls alone.
  induction limit generalizing source with
  | zero => exact holds
  | succ limit ih =>
    have one := kept source holds
    rw [drain]
    generalize poll source = polled at one
    obtain ⟨answer, left⟩ := polled
    cases answer with
    | ready item => exact ih one
    | pending => exact one
    | finished => exact one

/-- Two sources that are polled alike are drained alike. -/
theorem drain_alike {τ : Type} {other : τ → Poll α × τ} (Alike : σ → τ → Prop)
    (polled : ∀ {source rival}, Alike source rival →
      (poll source).1 = (other rival).1 ∧ Alike (poll source).2 (other rival).2)
    (limit : Nat) {source : σ} {rival : τ} (alike : Alike source rival) :
    (drain poll limit source).1 = (drain other limit rival).1 ∧
      Alike (drain poll limit source).2 (drain other limit rival).2 := by
  -- After an item both go on from what it left, and otherwise both stop for the same reason.
  induction limit generalizing source rival with
  | zero => exact ⟨rfl, alike⟩
  | succ limit ih =>
    obtain ⟨answer, still⟩ := polled alike
    rw [drain, drain]
    generalize poll source = first, other rival = second at answer still
    obtain ⟨answered, left⟩ := first
    obtain ⟨_, right⟩ := second
    obtain rfl := answer
    cases answered with
    | ready item =>
      obtain ⟨items, final⟩ := ih still
      exact ⟨congrArg (Drained.cons item) items, final⟩
    | pending => exact ⟨rfl, still⟩
    | finished => exact ⟨rfl, still⟩

/-! ### Projected streams -/

namespace ProjectedStream

/-- A projected stream gives the projected items of its upstream, and goes on as that does. -/
theorem gives_poll {Upstream : Type}
    {pollUpstream : Upstream → Poll (ChangeEvent PeerAddress) × Upstream}
    {awaiting : Upstream → List (ChangeEvent PeerAddress)} {goesOn : Upstream → Bool}
    (gives : Gives pollUpstream awaiting goesOn) :
    Gives (ProjectedStream.poll pollUpstream)
      (fun stream => (awaiting stream.upstream).map stream.projection.projectEvent)
      fun stream => goesOn stream.upstream := by
  -- One poll of the stream is one of the upstream, and the projection stays the same.
  rintro ⟨upstream, projection⟩
  unfold ProjectedStream.poll
  dsimp only
  rcases gives upstream with ⟨item, rest, awaited, answer, left, same⟩ | ⟨awaited, answered⟩
  · refine .inl ⟨projection.projectEvent item, rest.map projection.projectEvent, ?_, ?_, ?_, same⟩
    · rw [awaited, List.map_cons]
    · rw [answer]
      rfl
    · rw [left]
  · refine .inr ⟨by rw [awaited, List.map_nil], ?_⟩
    rw [answered]
    dsimp only
    split
    · rfl
    · rfl

/--
A stream over given events gives each of them projected, in order, and then comes to its end.

Before each poll the size hint tells exactly how many of them are still to come.
-/
theorem polls_of_events (projection : Projection) (events : List (ChangeEvent PeerAddress)) :
    (projection.projectStream events).polls (events.length + 1) =
      events.mapIdx (fun taken event =>
        ((events.length - taken, some (events.length - taken)),
          .ready (projection.projectEvent event))) ++ [((0, some 0), .finished)] := by
  -- After the first event is taken, the positions of the others are one less, as is their number.
  induction events with
  | nil => rfl
  | cons event rest ih =>
    rw [List.mapIdx_cons, List.cons_append]
    simp only [List.length_cons, Nat.add_sub_add_right]
    rw [← ih]
    rfl

end ProjectedStream

end PeerCluster
