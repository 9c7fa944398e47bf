import Mathlib.Data.List.Nodup
import PeerCluster.Proofs.Toml.Yielding
import PeerCluster.Toml.Document

/-! Whatever is read as a document names each place once and holds integers of 64 bits only. -/

namespace PeerCluster.Toml

/-! ### Trees -/

/-- In every table of a value each key stands once, and every integer fits 64 bits with a sign. -/
inductive Value.WellFormed : Value → Prop where
  | text {value : String} : WellFormed (.text value)
  | integer {value : Int} (least : -0x8000000000000000 ≤ value)
      (most : value < 0x8000000000000000) : WellFormed (.integer value)
  | float {value : Decimal.Binary64} : WellFormed (.float value)
  | boolean {value : Bool} : WellFormed (.boolean value)
  | moment : WellFormed .moment
  | array {byHeaders : Bool} {items : List Value} (each : ∀ item ∈ items, WellFormed item) :
      WellFormed (.array byHeaders items)
  | table {origin : Origin} {entries : Entries} (distinct : (entries.map Prod.fst).Nodup)
      (each : ∀ entry ∈ entries, WellFormed entry.2) : WellFormed (.table origin entries)

/-- The items of a well-formed sequence are well-formed. -/
theorem Value.WellFormed.items {byHeaders : Bool} {items : List Value}
    (wellFormed : (Value.array byHeaders items).WellFormed) : ∀ item ∈ items, item.WellFormed := by
  cases wellFormed with
  | array each => exact each

namespace Entries

/-- The entries of a table have keys of their own and well-formed values. -/
structure WellFormed (entries : Entries) : Prop where
  distinct : (entries.map Prod.fst).Nodup
  each : ∀ entry ∈ entries, entry.2.WellFormed

variable {entries : Entries} {key : String} {value : Value}

/-- A table without entries is well-formed. -/
theorem WellFormed.nil : WellFormed [] := ⟨List.nodup_nil, nofun⟩

/-- The entries of a well-formed table are well-formed. -/
theorem WellFormed.of_table {origin : Origin}
    (wellFormed : (Value.table origin entries).WellFormed) : entries.WellFormed := by
  cases wellFormed with
  | table distinct each => exact ⟨distinct, each⟩

/-- A table of well-formed entries is well-formed. -/
theorem WellFormed.table {origin : Origin} (wellFormed : entries.WellFormed) :
    (Value.table origin entries).WellFormed :=
  .table wellFormed.distinct wellFormed.each

/-- A key that is looked up in vain is the key of no entry. -/
theorem not_mem_keys_of_lookup (absent : entries.lookup key = none) :
    key ∉ entries.map Prod.fst := by
  -- An entry with the key would have been found.
  intro member
  obtain ⟨entry, among, rfl⟩ := List.mem_map.mp member
  have differs := List.lookup_eq_none_iff.mp absent entry among
  simp at differs

/-- What is looked up stands among the entries. -/
theorem mem_of_lookup (found : entries.lookup key = some value) : (key, value) ∈ entries := by
  obtain ⟨before, after, rfl, _⟩ := List.lookup_eq_some_iff.mp found
  simp

/-- A new entry with a key of its own keeps entries well-formed. -/
theorem WellFormed.concat (wellFormed : entries.WellFormed) (new : key ∉ entries.map Prod.fst)
    (fine : value.WellFormed) :
    WellFormed (entries ++ [(key, value)]) := by
  refine ⟨?_, ?_⟩
  · -- The keys grow by one that none of the others is.
    rw [List.map_append]
    refine List.nodup_append.mpr ⟨wellFormed.distinct, List.nodup_singleton _, ?_⟩
    intro other among last single
    obtain rfl := List.mem_singleton.mp single
    exact fun same => new (same ▸ among)
  · exact List.forall_mem_append.mpr ⟨wellFormed.each, List.forall_mem_singleton.mpr fine⟩

/-- The entries keep their keys when a value is replaced. -/
theorem keys_replace (entries : Entries) (key : String) (value : Value) :
    -- The entry is replaced by one with the same key.
    (entries.replace key value).map Prod.fst = entries.map Prod.fst := by
  unfold replace
  rw [List.map_map]
  refine List.map_congr_left fun entry _ => ?_
  show (if entry.1 = key then (key, value) else entry).1 = entry.1
  split
  · rename_i same
    exact same.symm
  · rfl

/-- Another well-formed value in place of one keeps entries well-formed. -/
theorem WellFormed.replace (wellFormed : entries.WellFormed) (fine : value.WellFormed) :
    (entries.replace key value).WellFormed := by
  refine ⟨?_, ?_⟩
  · -- The keys are as before, and so are all values but one.
    rw [keys_replace]
    exact wellFormed.distinct
  · intro entry member
    obtain ⟨earlier, among, rfl⟩ := List.mem_map.mp member
    split
    · exact fine
    · exact wellFormed.each earlier among

/-- The entries left when a key is taken out are well-formed. -/
theorem WellFormed.without (wellFormed : entries.WellFormed) (key : String) :
    (entries.without key).WellFormed := by
  -- The entries that are left are some of those before, in the same order.
  unfold Entries.without
  exact ⟨wellFormed.distinct.sublist (List.filter_sublist.map Prod.fst),
    fun entry member => wellFormed.each entry (List.mem_filter.mp member).1⟩

/-- Entries that are left out leave no entry under their key. -/
theorem not_mem_keys_without (entries : Entries) (key : String) :
    key ∉ (entries.without key).map Prod.fst := by
  -- Whoever has the key was filtered out.
  intro member
  obtain ⟨entry, among, same⟩ := List.mem_map.mp member
  have differs := (List.mem_filter.mp among).2
  simp [same] at differs

/-- A change keeps all tables well-formed if it does so with the one at which a path ends. -/
theorem WellFormed.within {dotted : Bool} {change : Origin → Entries → Option Entries}
    (keeps : ∀ origin before after, Entries.WellFormed before → change origin before = some after →
      Entries.WellFormed after)
    {path : List String} {origin : Origin} {changed : Entries} (wellFormed : entries.WellFormed)
    (done : Entries.within dotted change path origin entries = some changed) :
    changed.WellFormed := by
  -- Each part of the path leads into a table that stands in the one before it, or is new there.
  induction path generalizing origin entries changed with
  | nil => exact keeps _ _ _ wellFormed done
  | cons key path ih =>
    simp only [Entries.within] at done
    split at done
    · -- Nothing stands under the key yet, so a table is put there.
      rename_i absent
      obtain ⟨inner, made, placed⟩ := Option.bind_eq_some_iff.mp done
      obtain rfl := Option.some.inj placed
      exact wellFormed.concat (not_mem_keys_of_lookup absent) (ih .nil made).table
    · -- The table that stands under the key is changed, unless it is complete.
      rename_i found
      split at done
      · cases done
      · obtain ⟨inner, made, placed⟩ := Option.bind_eq_some_iff.mp done
        obtain rfl := Option.some.inj placed
        have earlier : WellFormed _ := .of_table (wellFormed.each _ (mem_of_lookup found))
        exact wellFormed.replace (ih earlier made).table
    · -- Of a sequence that was started by a header the last table is changed.
      rename_i items found
      have each := (wellFormed.each _ (mem_of_lookup found)).items
      split at done
      · rename_i last
        obtain ⟨inner, made, placed⟩ := Option.bind_eq_some_iff.mp done
        obtain rfl := Option.some.inj placed
        have earlier : WellFormed _ := .of_table (each _ (List.mem_of_getLast? last))
        refine wellFormed.replace (.array (List.forall_mem_append.mpr ⟨?_, ?_⟩))
        · exact fun item before => each item (List.dropLast_subset items before)
        · exact List.forall_mem_singleton.mpr (ih earlier made).table
      · cases done
    · cases done

/-- A well-formed value that is added keeps entries well-formed. -/
theorem WellFormed.insert {origin : Origin} {path : List String} {changed : Entries}
    (wellFormed : entries.WellFormed) (fine : value.WellFormed)
    (done : entries.insert origin path key value = some changed) : changed.WellFormed := by
  -- The path leads to a table, which has no entry under the key yet.
  refine wellFormed.within (fun inner before after earlier added => ?_) done
  split at added
  · cases added
  · rename_i fits
    obtain rfl := Option.some.inj added
    simp only [Bool.or_eq_true, not_or, Bool.not_eq_true, Option.isSome_eq_false_iff,
      Option.isNone_iff_eq_none] at fits
    exact earlier.concat (not_mem_keys_of_lookup fits.2) fine

/-- Well-formed values that are added keep entries well-formed. -/
theorem WellFormed.insertAll {origin : Origin} {assignments : List (List String × String × Value)}
    {changed : Entries} (wellFormed : entries.WellFormed)
    (fine : ∀ assigned ∈ assignments, assigned.2.2.WellFormed)
    (done : Entries.insertAll origin entries assignments = some changed) : changed.WellFormed := by
  -- Each value is added to what the ones before it have left.
  induction assignments generalizing entries with
  | nil =>
    obtain rfl := Option.some.inj done
    exact wellFormed
  | cons first rest ih =>
    obtain ⟨next, inserted, others⟩ := Option.bind_eq_some_iff.mp done
    exact ih (wellFormed.insert (fine first List.mem_cons_self) inserted)
      (fun assigned member => fine assigned (List.mem_cons_of_mem first member)) others

end Entries

/-! ### Values -/

open Reader

/-- An integer is read only if it fits 64 bits. -/
theorem yields_integerWithin (value : Int) : (integerWithin value).Yields Value.WellFormed := by
  -- Reading on depends on the bounds, so a value that was read is within them.
  intro text taken rest read
  obtain ⟨⟨_, between⟩, held, given⟩ := Option.bind_eq_some_iff.mp read
  obtain ⟨rfl, _⟩ := Prod.mk.inj (Option.some.inj given)
  unfold require at held
  split at held
  · rename_i small
    simp only [Bool.and_eq_true, decide_eq_true_eq] at small
    exact .integer small.1 small.2
  · cases held

/-- An integer behind a mark for its base fits 64 bits. -/
theorem yields_basedInteger (mark : Char) (base : Nat) (isDigit : Char → Bool) :
    (basedInteger mark base isDigit).Yields Value.WellFormed :=
  .after fun _ => .after fun _ => yields_integerWithin _

/-- A decimal integer fits 64 bits. -/
theorem yields_decimalNumber : decimalNumber.Yields Value.WellFormed := by
  -- Without a fraction and an exponent a number is an integer, and otherwise a float.
  refine .after fun negative => .after fun whole => ?_
  refine .after fun fraction? => .after fun exponent? => ?_
  split
  · exact yields_integerWithin _
  · exact .after fun _ => .pure .float

/-- A number is well-formed in any of its forms. -/
theorem yields_number : number.Yields Value.WellFormed := by
  -- The forms are tried in a row, and each of them makes either an integer or a float.
  refine .orElse (yields_basedInteger _ _ _) ?_
  refine .orElse (yields_basedInteger _ _ _) (.orElse (yields_basedInteger _ _ _) ?_)
  refine .orElse yields_decimalNumber (.after fun _ => ?_)
  exact .orElse (.seqRight (.pure .float)) (.seqRight (.pure .float))

/-- A value that holds no other is well-formed. -/
theorem yields_plainValue : plainValue.Yields Value.WellFormed := by
  -- Only a number needs an argument, since nothing bounds the other kinds.
  refine .orElse (.map fun _ => .text) ?_
  refine .orElse (.seqRight (.pure .boolean)) (.orElse (.seqRight (.pure .boolean)) ?_)
  exact .orElse (.seqRight (.pure .moment)) yields_number

/-- What holds for all of a list that may be missing holds for all that is there. -/
theorem forall_mem_getD {α : Type} {holds : α → Prop} {list? : Option (List α)}
    (found : ∀ list ∈ list?, ∀ item ∈ list, holds item) : ∀ item ∈ list?.getD [], holds item := by
  cases list? with
  | none => exact nofun
  | some list => exact found list rfl

/-- A sequence of well-formed items is well-formed. -/
theorem yields_bracketed {item : Reader Value} (fine : item.Yields Value.WellFormed) :
    (bracketed item).Yields Value.WellFormed := by
  -- All items are read by one reader, the first one ahead of the commas and the others behind them.
  have separated : (gap *> item <* gap).Yields Value.WellFormed := .seqLeft (.seqRight fine)
  have items : (do
      let first ← gap *> item <* gap
      let rest ← repeated (character ',' *> (gap *> item <* gap))
      let _ ← optional? (character ',' *> gap)
      return first :: rest : Reader (List Value)).Yields fun items => ∀ item ∈ items,
        item.WellFormed :=
    separated.bind fun first wellFormed => (separated.seqRight.repeated).bind fun rest others =>
      .after fun _ => .pure (List.forall_mem_cons.mpr ⟨wellFormed, others⟩)
  refine .after fun _ => items.optional?.bind fun items? found => .after fun _ => .after fun _ => ?_
  exact .pure (.array (forall_mem_getD found))

/-- What an assignment gives to a key is well-formed if every value is that can be read. -/
theorem yields_assignment {value : Reader Value} (fine : value.Yields Value.WellFormed) :
    (assignment value).Yields fun assigned => assigned.2.2.WellFormed :=
  .after fun _ => .after fun _ => .after fun _ => fine.bind fun _ wellFormed => .pure wellFormed

/-- A table between braces is well-formed if every value is that can be read. -/
theorem yields_braced {value : Reader Value} (fine : value.Yields Value.WellFormed) :
    (braced value).Yields Value.WellFormed := by
  -- Entries are read like the items of a sequence, and are then put into an empty table.
  have assigned : (assignment value <* spaces).Yields fun assigned => assigned.2.2.WellFormed :=
    (yields_assignment fine).seqLeft
  have listed : (do
      let first ← assignment value <* spaces
      let rest ← repeated (character ',' *> (assignment value <* spaces))
      return first :: rest : Reader (List Assignment)).Yields
        fun assignments => ∀ assigned ∈ assignments, assigned.2.2.WellFormed :=
    assigned.bind fun first wellFormed => (assigned.seqRight.repeated).bind fun rest others =>
      .pure (List.forall_mem_cons.mpr ⟨wellFormed, others⟩)
  refine .after fun _ => .after fun _ => listed.optional?.bind fun assignments? found => ?_
  refine .after fun _ => ?_
  split
  · rename_i entries placed
    exact .pure (Entries.WellFormed.nil.insertAll (forall_mem_getD found) placed).table
  · exact .failure

/-- Values that nest up to a depth are well-formed. -/
theorem yields_valueUpTo (depth : Nat) : (valueUpTo depth).Yields Value.WellFormed := by
  -- A value of the next depth holds no other, or holds only such of the depth before.
  induction depth with
  | zero => exact yields_plainValue
  | succ depth ih =>
    exact .orElse yields_plainValue (.orElse (yields_bracketed ih) (yields_braced ih))

/-- Assignments give well-formed values only. -/
theorem yields_assignments :
    assignments.Yields fun assignments => ∀ assigned ∈ assignments, assigned.2.2.WellFormed :=
  .after fun _ => (yields_assignment (yields_valueUpTo _)).seqLeft.seqLeft.repeated

/-! ### Documents -/

/-- The assignments below a header give well-formed values only. -/
def Section.WellFormed (part : Section) : Prop :=
  ∀ assigned ∈ part.assignments, assigned.2.2.WellFormed

/-- A section that is read is well-formed. -/
theorem yields_documentSection : documentSection.Yields Section.WellFormed :=
  .after fun _ => .after fun _ => yields_assignments.bind fun _ wellFormed => .pure wellFormed

/-- A document stays well-formed when a well-formed section is put in its place. -/
theorem Entries.WellFormed.place {part : Section} {document changed : Entries}
    (wellFormed : document.WellFormed) (fine : part.WellFormed)
    (done : part.place document = some changed) : changed.WellFormed := by
  -- The header leads to the table that stands around the new one, which is then one of four cases.
  refine wellFormed.within (fun origin entries after earlier added => ?_) done
  split at added
  · -- A new table.
    rename_i absent
    obtain ⟨inner, made, placed⟩ := Option.bind_eq_some_iff.mp added
    obtain rfl := Option.some.inj placed
    exact earlier.concat (not_mem_keys_of_lookup absent) (WellFormed.nil.insertAll fine made).table
  · -- A table that was only implied, which moves to the end.
    rename_i start _ implied
    obtain ⟨inner, made, placed⟩ := Option.bind_eq_some_iff.mp added
    obtain rfl := Option.some.inj placed
    have begun : WellFormed start := .of_table (earlier.each _ (mem_of_lookup implied))
    exact (earlier.without _).concat (not_mem_keys_without _ _) (begun.insertAll fine made).table
  · -- A new sequence with its first table.
    rename_i absent
    obtain ⟨inner, made, placed⟩ := Option.bind_eq_some_iff.mp added
    obtain rfl := Option.some.inj placed
    refine earlier.concat (not_mem_keys_of_lookup absent) (.array ?_)
    exact List.forall_mem_singleton.mpr (WellFormed.nil.insertAll fine made).table
  · -- A further table of a sequence.
    rename_i items _ begun
    obtain ⟨inner, made, placed⟩ := Option.bind_eq_some_iff.mp added
    obtain rfl := Option.some.inj placed
    refine earlier.replace (.array (List.forall_mem_append.mpr ⟨?_, ?_⟩))
    · exact (earlier.each _ (mem_of_lookup begun)).items
    · exact List.forall_mem_singleton.mpr (WellFormed.nil.insertAll fine made).table
  · cases added

/-- A document stays well-formed through any number of such sections. -/
theorem Entries.WellFormed.placeAll {parts : List Section} {document changed : Entries}
    (wellFormed : document.WellFormed) (fine : ∀ part ∈ parts, part.WellFormed)
    (done : Toml.placeAll document parts = some changed) : changed.WellFormed := by
  -- Each section is put into what the ones before it have left.
  induction parts generalizing document with
  | nil =>
    obtain rfl := Option.some.inj done
    exact wellFormed
  | cons first rest ih =>
    obtain ⟨next, placed, others⟩ := Option.bind_eq_some_iff.mp done
    exact ih (wellFormed.place (fine first List.mem_cons_self) placed)
      (fun part member => fine part (List.mem_cons_of_mem first member)) others

/-- Whatever is read as a document is well-formed. -/
theorem wellFormed_of_parse? {text : String} {entries : Entries}
    (read : parse? text = some entries) : entries.WellFormed := by
  -- The text is the assignments ahead of all headers, and then one section after another.
  unfold parse? at read
  obtain ⟨⟨top, between⟩, first, read⟩ := Option.bind_eq_some_iff.mp read
  obtain ⟨⟨sections, left⟩, second, read⟩ := Option.bind_eq_some_iff.mp read
  dsimp only at read
  split at read
  · obtain ⟨document, begun, placed⟩ := Option.bind_eq_some_iff.mp read
    have start := Entries.WellFormed.nil.insertAll (yields_assignments _ _ _ first) begun
    exact start.placeAll (yields_documentSection.repeated _ _ _ second) placed
  · cases read

end PeerCluster.Toml
