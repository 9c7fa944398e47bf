import PeerCluster.Text.Blank
import PeerCluster.Text.Digits

/-! What a backslash starts in a pattern, and the settings that decide whether it is allowed. -/

namespace PeerCluster.LogPattern

/-- What a pattern may turn on and off for the parts that follow. -/
structure Settings where
  ignoresCase : Bool
  /-- Whether the pattern is about characters; otherwise it is about bytes. -/
  unicode : Bool
  /-- Whether blanks and comments between the parts are skipped. -/
  verbose : Bool
deriving DecidableEq, Repr

/-- The settings at the start of a pattern. -/
def Settings.standard : Settings :=
  ⟨false, true, false⟩

/-- The text behind blanks and comments, each of which runs to the end of its line. -/
def skipped (inComment : Bool) : List Char → List Char
  | [] => []
  | c :: rest =>
    if inComment then skipped (c ≠ '\n') rest
    else if c = '#' then skipped true rest
    else if Text.isBlank c then skipped false rest
    else c :: rest

/-- The text from its next part on. -/
def Settings.next (settings : Settings) (text : List Char) : List Char :=
  if settings.verbose then skipped false text else text

/-- What an escape means. -/
inductive Escape where
  /-- A character that stands for itself. -/
  | character (c : Char)
  /-- A character that stands for one byte where the pattern is about bytes. -/
  | byte (c : Char)
  /-- Digits, blanks or word characters, or everything but these. -/
  | shorthand (negated : Bool)
  /-- The edge of a word, or a place without one. -/
  | edge
  /-- The start or the end of the text. -/
  | anchor
deriving DecidableEq, Repr

/-- A number of hexadecimal digits, and the text behind them. -/
def hexDigits? (settings : Settings) : Nat → List Char → Option (List Char × List Char)
  | 0, text => some ([], text)
  | count + 1, text =>
    match settings.next text with
    | [] => none
    | digit :: rest => do
      let (digits, rest) ← hexDigits? settings count rest
      if Text.isHexDigit digit then some (digit :: digits, rest) else none

/-- The character that a number of hexadecimal digits name, and the text behind them. -/
def codePoint? (settings : Settings) (count : Nat) (text : List Char) :
    Option (Char × List Char) := do
  let (digits, rest) ← hexDigits? settings count text
  return (← Text.charAt? (Text.numberOf 16 digits), rest)

/-- The escape of one character, if it has a meaning. -/
def letterEscape? : Char → Option Escape
  | 'd' | 's' | 'w' => some (.shorthand false)
  | 'D' | 'S' | 'W' => some (.shorthand true)
  | 'b' | 'B' | '<' | '>' => some .edge
  | 'A' | 'z' => some .anchor
  | 'a' => some (.character '\x07')
  | 't' => some (.character '\t')
  | 'n' => some (.character '\n')
  | 'v' => some (.character '\x0b')
  | 'f' => some (.character '\x0c')
  | 'r' => some (.character '\r')
  | c => if c.toNat < 0x80 && !c.isAlphanum then some (.character c) else none

/-- The escape behind a backslash, and the text behind it. -/
def escape? (settings : Settings) : List Char → Option (Escape × List Char)
  | 'x' :: rest => do
    let (c, rest) ← codePoint? settings 2 rest
    return (.byte c, rest)
  | 'u' :: rest => do
    let (c, rest) ← codePoint? settings 4 rest
    return (.character c, rest)
  | 'U' :: rest => do
    let (c, rest) ← codePoint? settings 8 rest
    return (.character c, rest)
  | c :: rest => do return (← letterEscape? c, rest)
  | [] => none

/-- Whether characters may be written; to ignore case is possible for bytes only. -/
def Settings.allowsCharacters (settings : Settings) : Bool :=
  !(settings.unicode && settings.ignoresCase)

/-- Whether an escape is allowed outside of classes. -/
def Settings.allows (settings : Settings) : Escape → Bool
  | .character _ => settings.allowsCharacters
  | .byte c => if settings.unicode then !settings.ignoresCase else c.toNat < 0x80
  | .shorthand negated => !settings.unicode && !negated
  | .edge => !settings.unicode
  | .anchor => true

end PeerCluster.LogPattern
