import PeerCluster.Text.Digits
import PeerCluster.Text.Outline

/-! Numbers, quoted texts and fields of records can be read off whatever they are written into. -/

namespace PeerCluster.Text

/-! ### Marks -/

section Marks

variable {α : Type} {mark : α} {before before' after after' : List α}

/-- A text has one first place of a mark. -/
theorem split_at_first (new : mark ∉ before) (new' : mark ∉ before')
    (same : before ++ mark :: after = before' ++ mark :: after') :
    before = before' ∧ after = after' := by
  -- As long as neither part is over, the two begin with the same, which is not the mark.
  induction before generalizing before' with
  | nil =>
    cases before' with
    | nil => exact ⟨rfl, (List.cons.inj same).2⟩
    | cons first rest =>
      obtain ⟨rfl, _⟩ := List.cons.inj same
      exact absurd List.mem_cons_self new'
  | cons first rest ih =>
    cases before' with
    | nil =>
      obtain ⟨rfl, _⟩ := List.cons.inj same
      exact absurd List.mem_cons_self new
    | cons first' rest' =>
      obtain ⟨rfl, others⟩ := List.cons.inj same
      obtain ⟨rfl, equal⟩ :=
        ih (List.not_mem_of_not_mem_cons new) (List.not_mem_of_not_mem_cons new') others
      exact ⟨rfl, equal⟩

/-- A text has one last place of a mark. -/
theorem split_at_last (free : mark ∉ after) (free' : mark ∉ after')
    (same : before ++ mark :: after = before' ++ mark :: after') :
    before = before' ∧ after = after' := by
  -- Seen from the end, the last place is the first one.
  have turned := congrArg List.reverse same
  simp only [List.reverse_append, List.reverse_cons, List.append_assoc, List.singleton_append]
    at turned
  obtain ⟨ends, begins⟩ := split_at_first (fun member => free (List.mem_reverse.mp member))
    (fun member => free' (List.mem_reverse.mp member)) turned
  exact ⟨List.reverse_inj.mp begins, List.reverse_inj.mp ends⟩

end Marks

/-! ### Numbers -/

/-- A number is made of the digits below its base. -/
theorem exists_digit_of_mem {base number : Nat} (two : 1 < base) {c : Char}
    (member : c ∈ Nat.toDigits base number) : ∃ digit < base, c = digit.digitChar := by
  -- The number is its last digit and those of the quotient, so each of them is a remainder.
  induction number using Nat.strongRecOn with
  | ind number ih =>
    rw [Nat.toDigits_eq_if two] at member
    split at member
    · rename_i small
      exact ⟨number, small, List.mem_singleton.mp member⟩
    · rename_i large
      rcases List.mem_append.mp member with earlier | last
      · exact ih (number / base) (Nat.div_lt_self (by omega) two) earlier
      · exact ⟨number % base, Nat.mod_lt _ (by omega), List.mem_singleton.mp last⟩

/-- A digit is worth what it was written for. -/
theorem digitValue_digitChar {digit : Nat} (small : digit < 16) :
    digitValue digit.digitChar = digit := by
  -- There are sixteen digits, and each is looked up.
  revert digit
  decide

/-- The digits of a number write that number. -/
theorem numberOf_toDigits {base : Nat} (two : 1 < base) (small : base ≤ 16) (number : Nat) :
    numberOf base (Nat.toDigits base number) = number := by
  -- The last digit is the remainder, and the digits before it write the quotient.
  induction number using Nat.strongRecOn with
  | ind number ih =>
    rw [Nat.toDigits_eq_if two]
    split
    · rename_i single
      simp [numberOf, digitValue_digitChar (Nat.lt_of_lt_of_le single small)]
    · rename_i large
      have last : number % base < base := Nat.mod_lt _ (by omega)
      have earlier := ih (number / base) (Nat.div_lt_self (by omega) two)
      unfold numberOf at earlier ⊢
      rw [List.foldl_append, earlier, List.foldl_cons, List.foldl_nil,
        digitValue_digitChar (Nat.lt_of_lt_of_le last small), Nat.mul_comm]
      exact Nat.div_add_mod number base

/-- Numbers are told apart by their digits. -/
theorem toDigits_inj {base m n : Nat} (two : 1 < base) (small : base ≤ 16)
    (same : Nat.toDigits base m = Nat.toDigits base n) : m = n := by
  rw [← numberOf_toDigits two small m, same, numberOf_toDigits two small n]

/-- The text of a port is its digits. -/
theorem toList_port (port : UInt16) : (toString port).toList = Nat.toDigits 10 port.toNat := by
  -- A port is written as the number that it is.
  show (toString port.toNat).toList = _
  rw [Nat.toString_eq_ofList_toDigits, String.toList_ofList]

/-- Nothing but digits stands in the text of a port. -/
theorem not_mem_port {mark : Char} (other : mark.isDigit = false) (port : UInt16) :
    mark ∉ (toString port).toList := by
  -- A mark that stood in the text would be one of its digits.
  intro member
  rw [toList_port] at member
  have digit := Nat.isDigit_of_mem_toDigits (by decide) (by decide) member
  exact Bool.false_ne_true (other.symm.trans digit)

/-- Ports are told apart by their texts. -/
theorem port_inj {port port' : UInt16} (same : (toString port).toList = (toString port').toList) :
    port = port' := by
  rw [toList_port, toList_port] at same
  exact UInt16.toNat_inj.mp (toDigits_inj (by decide) (by decide) same)

/-- A port can be read off the front of a text in which a mark follows that is no digit. -/
theorem port_append_inj {port port' : UInt16} {mark : Char} {rest rest' : List Char}
    (other : mark.isDigit = false)
    (same : (toString port).toList ++ mark :: rest = (toString port').toList ++ mark :: rest') :
    port = port' ∧ rest = rest' := by
  -- The text of a port ends at the first mark that is no digit.
  obtain ⟨digits, others⟩ :=
    split_at_first (not_mem_port other port) (not_mem_port other port') same
  exact ⟨port_inj digits, others⟩

/-! ### Records -/

/-- What stands in the outline of a record from its first field on. -/
def fieldsText : List (String × String) → List Char
  | [] => [' ', '\x7d']
  | [(name, value)] => name.toList ++ ':' :: ' ' :: (value.toList ++ [' ', '\x7d'])
  | (name, value) :: next :: rest =>
    name.toList ++ ':' :: ' ' :: (value.toList ++ ',' :: ' ' :: fieldsText (next :: rest))

/-- Fields are outlined one after another, with commas between them. -/
theorem toList_intercalate_fields (fields : List (String × String)) :
    (", ".intercalate (fields.map fun field => field.1 ++ ": " ++ field.2)).toList ++
      [' ', '\x7d'] = fieldsText fields := by
  -- A field follows the one before it behind a comma; only the last one has the brace behind it.
  have colon : ": ".toList = [':', ' '] := by decide
  have comma : ", ".toList = [',', ' '] := by decide
  fun_induction fieldsText fields with
  | case1 => rfl
  | case2 name value =>
    simp only [List.map_cons, List.map_nil, String.intercalate_singleton, String.toList_append,
      colon, List.append_assoc, List.cons_append, List.nil_append]
  | case3 name value next rest ih =>
    rw [← ih]
    simp only [List.map_cons, String.intercalate_cons_cons, String.toList_append, colon, comma,
      List.append_assoc, List.cons_append, List.nil_append]

/-- The outline of a record is its name and its fields, with a brace between them. -/
theorem toList_recordOutline (name : String) (fields : List (String × String)) :
    (recordOutline name fields).toList =
      name.toList ++ ' ' :: '\x7b' :: ' ' :: fieldsText fields := by
  -- The braces are texts of their own, so they are written out first.
  have opening : " \x7b ".toList = [' ', '\x7b', ' '] := by decide
  have closing : " \x7d".toList = [' ', '\x7d'] := by decide
  simp only [recordOutline, String.toList_append, opening, closing, List.append_assoc,
    List.cons_append, List.nil_append, toList_intercalate_fields]

/-! ### Escapes -/

/-- An escape starts with a backslash. -/
def IsEscape (written : List Char) : Prop :=
  written.head? = some '\\'

/-- A way to write characters between quotes, by themselves or by escapes that tell them apart. -/
structure Escaping (escape : Char → List Char) : Prop where
  /-- A character is written as itself or as an escape. -/
  plainOrEscaped : ∀ c, escape c = [c] ∨ IsEscape (escape c)
  /-- A quote is never written as itself. -/
  quoteMark : escape '"' ≠ ['"']
  /-- A backslash is never written as itself. -/
  backslash : escape '\\' ≠ ['\\']
  /-- An escape determines the character that it stands for. -/
  determined : ∀ c d, IsEscape (escape c) → escape c = escape d → c = d
  /-- No escape is the beginning of another one. -/
  prefixFree : ∀ c d, IsEscape (escape c) → IsEscape (escape d) → escape c <+: escape d →
    escape c = escape d

/-- A text in quotes, given how characters are written. -/
def quoteBy (escape : Char → List Char) (text : String) : String :=
  String.ofList ('"' :: text.toList.flatMap escape ++ ['"'])

namespace Escaping

variable {escape : Char → List Char}

/-- What is written for a character starts with something, which is not a quote. -/
theorem exists_first (escaping : Escaping escape) (c : Char) :
    ∃ first rest, escape c = first :: rest ∧ first ≠ '"' := by
  rcases escaping.plainOrEscaped c with plain | escaped
  · refine ⟨c, [], plain, ?_⟩
    rintro rfl
    exact escaping.quoteMark plain
  · obtain ⟨rest, written⟩ := List.head?_eq_some_iff.mp escaped
    exact ⟨'\\', rest, written, by decide⟩

/-- A character that is written as itself is no backslash. -/
theorem ne_backslash (escaping : Escaping escape) {c : Char} (plain : escape c = [c]) :
    c ≠ '\\' := by
  rintro rfl
  exact escaping.backslash plain

/-- What is written for a character does not begin what is written for another one. -/
theorem eq_of_begins (escaping : Escaping escape) {c d : Char} (begins : escape c <+: escape d) :
    c = d := by
  -- Both are written as themselves, one of them is, or both are escaped.
  rcases escaping.plainOrEscaped c with plain | escaped
  all_goals rcases escaping.plainOrEscaped d with plain' | escaped'
  · rw [plain, plain', List.cons_prefix_cons] at begins
    exact begins.1
  · -- An escape starts with a backslash, and that is never written as itself.
    obtain ⟨rest, written⟩ := List.head?_eq_some_iff.mp escaped'
    rw [plain, written, List.cons_prefix_cons] at begins
    exact absurd begins.1 (escaping.ne_backslash plain)
  · obtain ⟨rest, written⟩ := List.head?_eq_some_iff.mp escaped
    rw [plain', written, List.cons_prefix_cons] at begins
    exact absurd begins.1.symm (escaping.ne_backslash plain')
  · exact escaping.determined c d escaped (escaping.prefixFree c d escaped escaped' begins)

/-- What stands between quotes can be read off, whatever follows the second one. -/
theorem flatMap_append_inj (escaping : Escaping escape) {cs ds rest rest' : List Char}
    (same : cs.flatMap escape ++ '"' :: rest = ds.flatMap escape ++ '"' :: rest') :
    cs = ds ∧ rest = rest' := by
  -- The two texts are read character by character until the quote of one of them.
  induction cs generalizing ds with
  | nil =>
    cases ds with
    | nil => exact ⟨rfl, (List.cons.inj same).2⟩
    | cons d ds =>
      -- No character is written so that the quote could start it.
      obtain ⟨first, others, written, ordinary⟩ := escaping.exists_first d
      rw [List.flatMap_cons, written] at same
      exact absurd (List.cons.inj same).1.symm ordinary
  | cons c cs ih =>
    cases ds with
    | nil =>
      obtain ⟨first, others, written, ordinary⟩ := escaping.exists_first c
      rw [List.flatMap_cons, written] at same
      exact absurd (List.cons.inj same).1 ordinary
    | cons d ds =>
      -- Of two beginnings of one text one begins the other, so the characters are the same.
      simp only [List.flatMap_cons, List.append_assoc] at same
      have equal : c = d := by
        rcases List.prefix_or_prefix_of_prefix (List.prefix_append _ _)
          (same ▸ List.prefix_append _ _) with begins | begins
        · exact (escaping.eq_of_begins begins).symm
        · exact escaping.eq_of_begins begins
      subst equal
      obtain ⟨rfl, others⟩ := ih (List.append_cancel_left same)
      exact ⟨rfl, others⟩

/-- A quoted text can be read off the front of any other. -/
theorem quoteBy_append_inj (escaping : Escaping escape) {text text' : String}
    {rest rest' : List Char}
    (same : (quoteBy escape text).toList ++ rest = (quoteBy escape text').toList ++ rest') :
    text = text' ∧ rest = rest' := by
  -- Both texts begin with a quote, and what stands behind it is read up to the next one.
  simp only [quoteBy, String.toList_ofList, List.cons_append, List.append_assoc] at same
  obtain ⟨characters, others⟩ := escaping.flatMap_append_inj (List.cons.inj same).2
  exact ⟨String.toList_inj.mp characters, others⟩

end Escaping

/-! ### The escapes in use -/

/-- The characters that have a short escape, each with what follows the backslash in it. -/
def shortEscapes : List (Char × Char) :=
  [('\x00', '0'), ('\t', 't'), ('\r', 'r'), ('\n', 'n'), ('"', '"'), ('\\', '\\')]

/-- What is written for a character. -/
inductive Written (c : Char) : List Char → Prop where
  /-- It stands for itself. -/
  | plain (quoteMark : c ≠ '"') (backslash : c ≠ '\\') : Written c [c]
  /-- It has a short escape. -/
  | short {letter : Char} (known : (c, letter) ∈ shortEscapes) : Written c ['\\', letter]
  /-- Its code point is named. -/
  | point : Written c (escapePoint c)

/-- Every character is written in one of these ways. -/
theorem written_escape (c : Char) : Written c (escape c) := by
  unfold escape
  -- The short escapes come first, and what is left is neither a quote nor a backslash.
  iterate 6
    split
    · rename_i same
      exact .short (by rw [same]; decide)
  rename_i quoteMark backslash
  split
  · exact .plain quoteMark backslash
  · split
    · exact .point
    · exact .plain quoteMark backslash

/-- A short escape belongs to one character. -/
theorem eq_of_mem_shortEscapes {c d letter : Char} (known : (c, letter) ∈ shortEscapes)
    (known' : (d, letter) ∈ shortEscapes) : c = d := by
  -- There are six short escapes, and so all pairs of them are compared.
  have distinct : ∀ first ∈ shortEscapes, ∀ second ∈ shortEscapes,
      first.2 = second.2 → first.1 = second.1 := by decide
  exact distinct _ known _ known' rfl

/-- No short escape looks as if a code point followed. -/
theorem ne_of_mem_shortEscapes {c letter : Char} (known : (c, letter) ∈ shortEscapes) :
    letter ≠ 'u' := by
  have others : ∀ first ∈ shortEscapes, first.2 ≠ 'u' := by decide
  exact others _ known

/-- The braces around a code point can be told from its digits. -/
theorem brace_not_mem_toDigits (number : Nat) : '\x7d' ∉ Nat.toDigits 16 number := by
  -- A brace among the digits would be the digit of some number below the base.
  intro member
  obtain ⟨digit, _, same⟩ := exists_digit_of_mem (by decide) member
  exact Nat.digitChar_ne '\x7d' (by decide) same.symm

/-- The named code points of characters do not begin each other. -/
theorem eq_of_escapePoint_begins {c d : Char} (begins : escapePoint c <+: escapePoint d) :
    c = d := by
  -- Both name a number in braces, and its digits end at the first closing brace.
  obtain ⟨rest, same⟩ := begins
  simp only [escapePoint, List.cons_append, List.nil_append, List.append_assoc,
    List.cons.injEq, true_and] at same
  obtain ⟨digits, _⟩ := split_at_first (brace_not_mem_toDigits _) (brace_not_mem_toDigits _) same
  exact Char.toNat_inj.mp (toDigits_inj (by decide) (by decide) digits)

/-- The escapes in use do not begin each other. -/
theorem eq_of_escape_begins {c d : Char} (escaped : IsEscape (escape c))
    (escaped' : IsEscape (escape d)) (begins : escape c <+: escape d) : c = d := by
  -- Both are escapes, so each is short or names a code point, and the letter tells which.
  have first := written_escape c
  have second := written_escape d
  generalize escape c = written at *
  generalize escape d = written' at *
  cases first with
  | plain _ backslash => exact absurd (Option.some.inj escaped) backslash
  | short known =>
    cases second with
    | plain _ backslash => exact absurd (Option.some.inj escaped') backslash
    | short known' =>
      obtain rfl := (List.cons_prefix_cons.mp (List.cons_prefix_cons.mp begins).2).1
      exact eq_of_mem_shortEscapes known known'
    | point =>
      have letter := (List.cons_prefix_cons.mp (List.cons_prefix_cons.mp begins).2).1
      exact absurd letter (ne_of_mem_shortEscapes known)
  | point =>
    cases second with
    | plain _ backslash => exact absurd (Option.some.inj escaped') backslash
    | short known' =>
      have letter := (List.cons_prefix_cons.mp (List.cons_prefix_cons.mp begins).2).1
      exact absurd letter.symm (ne_of_mem_shortEscapes known')
    | point => exact eq_of_escapePoint_begins begins

/-- The escapes in use tell characters apart. -/
theorem escaping_escape : Escaping escape where
  plainOrEscaped c := by
    have form := written_escape c
    generalize escape c = written at form
    cases form with
    | plain => exact .inl rfl
    | short | point => exact .inr rfl
  quoteMark := by decide
  backslash := by decide
  determined c d escaped same :=
    eq_of_escape_begins escaped (same ▸ escaped) (same ▸ List.prefix_refl _)
  prefixFree c d escaped escaped' begins := by
    rw [eq_of_escape_begins escaped escaped' begins]

end PeerCluster.Text
