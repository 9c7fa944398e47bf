import PeerCluster.Log.Pattern.Escape

/-! Classes of characters in brackets, as parts of a pattern. -/

namespace PeerCluster.LogPattern

/-- How many parts stand side by side, and how deep the deepest of them nests. -/
structure Parts where
  count : Nat
  deepest : Nat
deriving DecidableEq, Repr

namespace Parts

/-- No part yet. -/
def empty : Parts :=
  ⟨0, 0⟩

/-- One more part. -/
def add (parts : Parts) (depth : Nat) : Parts :=
  ⟨parts.count + 1, max parts.deepest depth⟩

/-- How deep parts nest together; what holds several of them is one level more. -/
def depth (parts : Parts) : Nat :=
  if 2 ≤ parts.count then parts.deepest + 1 else parts.deepest

end Parts

/-- The names of classes that need no brackets of their own. -/
def classNames : List String :=
  ["alnum", "alpha", "ascii", "blank", "cntrl", "digit", "graph", "lower", "print", "punct",
    "space", "upper", "word", "xdigit"]

/-- Whether a class is negated, where a text behind a bracket names one, and the text behind it. -/
def namedClass? : List Char → Option (Bool × List Char)
  | ':' :: text =>
    let (negated, text) := match text with
      | '^' :: rest => (true, rest)
      | _ => (false, text)
    match text.span (· ≠ ':') with
    | (name, ':' :: ']' :: rest) =>
      if classNames.contains (String.ofList name) then some (negated, rest) else none
    | _ => none
  | _ => none

/-- Whether a class may hold characters, and the given one. -/
def Settings.allowsMember (settings : Settings) (c : Char) : Bool :=
  if settings.unicode then !settings.ignoresCase else c.toNat < 0x80

/-- Whether a class may hold a named one. -/
def Settings.allowsNamed (settings : Settings) (negated : Bool) : Bool :=
  if settings.unicode then !settings.ignoresCase else !negated

/-- A member of a class: a character, or an escape that stands for several of them. -/
def member? (settings : Settings) : List Char → Option (Option Char × List Char)
  | '\\' :: text => do
    match ← escape? settings text with
    | (.character c, rest) | (.byte c, rest) =>
      if settings.allowsMember c then some (some c, rest) else none
    | (.shorthand negated, rest) =>
      if settings.allows (.shorthand negated) then some (none, rest) else none
    | _ => none
  | c :: rest => if settings.allowsMember c then some (some c, rest) else none
  | [] => none

/-- What decides whether a dash in front starts a range, where the mark of a comment is a blank. -/
def Settings.ahead (settings : Settings) (text : List Char) : List Char :=
  if settings.verbose then
    match text.dropWhile Text.isBlank with
    | '#' :: rest => rest.dropWhile Text.isBlank
    | text => text
  else text

/-- The text behind a member of a class or behind a range, which has to lead upwards. -/
def behindRange? (settings : Settings) (text : List Char) : Option (List Char) := do
  let (first?, rest) ← member? settings text
  match settings.next rest with
  | '-' :: behind =>
    match settings.ahead behind with
    -- In front of another dash or of the closing bracket, a dash starts no range.
    | '-' :: _ | ']' :: _ => return '-' :: behind
    | _ =>
      let (last?, rest) ← member? settings (settings.next behind)
      if (← first?) ≤ (← last?) then some rest else none
  | rest => return rest

/-- The dashes that a class starts with, and the text behind them. -/
def leadingDashes (settings : Settings) : Nat → Parts → List Char → Parts × List Char
  | limit + 1, parts, '-' :: rest =>
    leadingDashes settings limit (parts.add 0) (settings.next rest)
  | _, parts, text => (parts, text)

/-- The first members of a class, and the text behind them. -/
def opening? (settings : Settings) (text : List Char) : Option (Parts × List Char) :=
  let text := settings.next text
  let (negated, text) := match text with
    | '^' :: rest => (true, settings.next rest)
    | _ => (false, text)
  let (dashes, text) := leadingDashes settings text.length .empty text
  let (parts, text) := match dashes.count, text with
    -- A closing bracket in front is a member, because no class is empty.
    | 0, ']' :: rest => (dashes.add 0, rest)
    | _, _ => (dashes, text)
  -- Everything but some bytes is no set of characters.
  if negated && !settings.unicode then none
  else if parts.count = 0 || settings.allowsMember '-' then some (parts, text)
  else none

/-- How deep the members of a class nest, in sets with an operator between them. -/
def combinedDepth (left? : Option Nat) (parts : Parts) : Nat :=
  match left? with
  | some left => max left parts.depth + 1
  | none => parts.depth

/-- How deep the members of a class nest, and the text behind its closing bracket. -/
def members? (settings : Settings) :
    Nat → Option Nat → Parts → List Char → Option (Nat × List Char)
  | 0, _, _, _ => none
  | limit + 1, left?, parts, text =>
    match settings.next text with
    | [] => none
    | ']' :: rest => some (combinedDepth left? parts, rest)
    | '[' :: inner =>
      match namedClass? inner with
      | some (negated, rest) =>
        if settings.allowsNamed negated then members? settings limit left? (parts.add 0) rest
        else none
      | none => do
        let (first, rest) ← opening? settings inner
        let (depth, rest) ← members? settings limit none first rest
        members? settings limit left? (parts.add (depth + 1)) rest
    | '&' :: '&' :: rest | '-' :: '-' :: rest | '~' :: '~' :: rest =>
      members? settings limit (some (combinedDepth left? parts)) .empty rest
    | text => do
      let rest ← behindRange? settings text
      members? settings limit left? (parts.add 0) rest

/-- How deep a class nests, and the text behind it, where it starts behind its bracket. -/
def class? (settings : Settings) (text : List Char) : Option (Nat × List Char) := do
  let (first, rest) ← opening? settings text
  -- Every step takes at least one character.
  let (depth, rest) ← members? settings (rest.length + 1) none first rest
  return (depth + 1, rest)

end PeerCluster.LogPattern
