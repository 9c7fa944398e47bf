import PeerCluster.Log.Pattern.Class
import PeerCluster.Text.Alphabetic
import PeerCluster.Text.Numeric

/-! Which texts can be values of fields in a filter: numerals and well-formed patterns. -/

namespace PeerCluster.LogPattern

/-- The letters of the settings, and the dash that turns off those behind it. -/
def settingLetters : List Char :=
  ['i', 'm', 's', 'U', 'u', 'R', 'x', '-']

/-- What letters say about one of them: on, off, or nothing. -/
def asked? (letters : List Char) (letter : Char) : Option Bool :=
  if !letters.contains letter then none
  else some ((letters.takeWhile (· ≠ '-')).contains letter)

/-- The settings that letters ask for, each of which may come once. -/
def Settings.changed? (settings : Settings) (letters : List Char) : Option Settings :=
  if letters.all settingLetters.contains && letters.Nodup && letters.getLast? ≠ some '-' then
    some {
      ignoresCase := (asked? letters 'i').getD settings.ignoresCase
      unicode := (asked? letters 'u').getD settings.unicode
      verbose := (asked? letters 'x').getD settings.verbose }
  else none

/-- Whether characters can name a group. -/
def isGroupName : List Char → Bool
  | first :: rest =>
    (first == '_' || Text.isAlphabetic first) && rest.all fun c =>
      Text.isAlphabetic c || Text.isNumeric c || ['_', '.', '[', ']'].contains c
  | [] => false

/-- What a parenthesis opens. -/
inductive Opening where
  /-- A group with settings of its own and perhaps a name. -/
  | group (settings : Settings) (name? : Option (List Char))
  /-- New settings up to the end of the group around. -/
  | change (settings : Settings)
deriving DecidableEq, Repr

/-- What a parenthesis opens, and the text behind the opening. -/
def opened? (settings : Settings) (text : List Char) : Option (Opening × List Char) :=
  match settings.next text with
  | '?' :: 'P' :: '<' :: named | '?' :: '<' :: named =>
    match named.span (· ≠ '>') with
    | (name, '>' :: rest) =>
      if isGroupName name then some (.group settings (some name), rest) else none
    | _ => none
  | '?' :: changing => do
    let (letters, behind) := changing.span fun c => c ≠ ':' && c ≠ ')'
    let changed ← settings.changed? letters
    match behind with
    | ':' :: rest => return (.group changed none, rest)
    | ')' :: rest => if letters.isEmpty then none else some (.change changed, rest)
    | _ => none
  | text => some (.group settings none, text)

/-- A group that is open, or the pattern as a whole. -/
structure Level where
  settings : Settings
  /-- The branches before the one that is being read. -/
  branches : Parts
  /-- The parts of the branch so far. -/
  branch : Parts
  /-- How deep the part before nests, if it may be repeated. -/
  repeatable? : Option Nat
deriving DecidableEq, Repr

namespace Level

/-- A level of which nothing has been read. -/
def empty (settings : Settings) : Level :=
  ⟨settings, .empty, .empty, none⟩

/-- One more part of the branch. -/
def add (level : Level) (depth : Nat) : Level :=
  { level with branch := level.branch.add depth, repeatable? := some depth }

/-- Settings that last to the end of the level; they count as a part, but nothing repeats them. -/
def change (level : Level) (settings : Settings) : Level :=
  { level with settings, branch := level.branch.add 0, repeatable? := none }

/-- The part before, repeated. -/
def repeated? (level : Level) : Option Level := do
  let depth ← level.repeatable?
  return {
    level with
    branch := ⟨level.branch.count, max level.branch.deepest (depth + 1)⟩
    repeatable? := some (depth + 1) }

/-- A new branch. -/
def split (level : Level) : Level :=
  { level with
    branches := level.branches.add level.branch.depth, branch := .empty, repeatable? := none }

/-- How deep the branches nest together. -/
def depth (level : Level) : Nat :=
  (level.branches.add level.branch.depth).depth

end Level

/-- How deep a pattern nests, if it is well formed; the levels around are the innermost first. -/
def depth? : Nat → List (List Char) → Level → List Level → List Char → Option Nat
  | 0, _, _, _, _ => none
  | limit + 1, names, level, around, text =>
    let settings := level.settings
    match settings.next text with
    | [] => if around.isEmpty then some level.depth else none
    | '(' :: rest => do
      match ← opened? settings rest with
      | (.change settings, rest) => depth? limit names (level.change settings) around rest
      | (.group settings none, rest) => depth? limit names (.empty settings) (level :: around) rest
      | (.group settings (some name), rest) =>
        -- No two groups share a name.
        if names.contains name then none
        else depth? limit (name :: names) (.empty settings) (level :: around) rest
    | ')' :: rest =>
      match around with
      | outer :: around => depth? limit names (outer.add (level.depth + 1)) around rest
      | [] => none
    | '|' :: rest => depth? limit names level.split around rest
    | '?' :: rest | '*' :: rest | '+' :: rest => do
      -- A question mark right behind asks for as few repetitions as possible.
      let rest := match rest with
        | '?' :: rest => rest
        | _ => rest
      depth? limit names (← level.repeated?) around rest
    | '[' :: rest => do
      let (depth, rest) ← class? settings rest
      depth? limit names (level.add depth) around rest
    | '\\' :: rest => do
      let (escape, rest) ← escape? settings rest
      if settings.allows escape then depth? limit names (level.add 0) around rest else none
    | '^' :: rest | '$' :: rest => depth? limit names (level.add 0) around rest
    | '.' :: rest =>
      if settings.unicode then depth? limit names (level.add 0) around rest else none
    -- Counted repetitions would need a closing brace, which ends the field.
    | '\x7b' :: _ => none
    | _ :: rest =>
      if settings.allowsCharacters then depth? limit names (level.add 0) around rest else none

/-- How deep patterns may nest. -/
def nestingLimit : Nat := 250

/-- Whether a text is a well-formed pattern. -/
def isPattern (text : List Char) : Bool :=
  -- Every step takes at least one character.
  (depth? (text.length + 1) [] (.empty .standard) [] text).any (· ≤ nestingLimit)

/-- Whether a text writes a number, in digits or by a name of a value that has none. -/
def isNumeral (text : List Char) : Bool :=
  let unsigned := match text with
    | '-' :: rest | '+' :: rest => rest
    | _ => text
  let (whole, behind) := unsigned.span Char.isDigit
  let (fraction, behind) := match behind with
    | '.' :: rest => rest.span Char.isDigit
    | _ => ([], behind)
  let exponent := match behind with
    | 'e' :: '-' :: digits | 'e' :: '+' :: digits | 'e' :: digits => some digits
    | 'E' :: '-' :: digits | 'E' :: '+' :: digits | 'E' :: digits => some digits
    | _ => none
  let word := (String.ofList unsigned).toLower
  word = "inf" || word = "infinity" || word = "nan"
    || !(whole ++ fraction).isEmpty && match exponent with
      | some digits => !digits.isEmpty && digits.all Char.isDigit
      | none => behind.isEmpty

/-- Whether a text can be the value of a field. -/
def isValue (text : List Char) : Bool :=
  isNumeral text || isPattern text

end PeerCluster.LogPattern
