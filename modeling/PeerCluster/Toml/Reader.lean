/-! Readers take something off the front of a text, or refuse it. -/

namespace PeerCluster.Toml

/-- Takes a value off the front of a text. -/
abbrev Reader (α : Type) := StateT (List Char) Option α

namespace Reader

variable {α : Type}

/-- The next character, which has to be one of a class. -/
def satisfying (accepted : Char → Bool) : Reader Char := fun text =>
  match text with
  | c :: rest => if accepted c then some (c, rest) else none
  | [] => none

/-- One given character. -/
def character (expected : Char) : Reader Unit := do
  let _ ← satisfying (· == expected)

/-- Given characters in order. -/
def literal : List Char → Reader Unit
  | [] => pure ()
  | expected :: rest => do
    character expected
    literal rest

/-- As many characters of a class as there are. -/
def run (accepted : Char → Bool) : Reader (List Char) := fun text =>
  some (text.span accepted)

/-- At least one character of a class, and as many as there are. -/
def run1 (accepted : Char → Bool) : Reader (List Char) := do
  let first ← satisfying accepted
  let rest ← run accepted
  return first :: rest

/-- A given number of characters of a class. -/
def exactly (accepted : Char → Bool) : Nat → Reader (List Char)
  | 0 => pure []
  | count + 1 => do
    let first ← satisfying accepted
    let rest ← exactly accepted count
    return first :: rest

/-- Something that may be missing. -/
def optional? (reader : Reader α) : Reader (Option α) :=
  (some <$> reader) <|> pure none

/-- Refuses what does not hold. -/
def require (holds : Bool) : Reader Unit := fun text =>
  if holds then some ((), text) else none

/-- Whether the text is over. -/
def atEnd : Reader Bool := fun text =>
  some (text.isEmpty, text)

/-- What a reader takes when it is used again and again, up to a number of times. -/
def repeatedUpTo (reader : Reader α) : Nat → List α → Reader (List α)
  | 0, taken, text => some (taken.reverse, text)
  | limit + 1, taken, text =>
    match reader text with
    | none => some (taken.reverse, text)
    | some (next, rest) => repeatedUpTo reader limit (next :: taken) rest

/-- What a reader takes when it is used again and again until it refuses. -/
def repeated (reader : Reader α) : Reader (List α) := fun text =>
  match reader text with
  | none => some ([], text)
  -- A reader that takes at least one character each time refuses before the limit.
  | some (first, rest) => repeatedUpTo reader rest.length [first] rest

end Reader

/-- The blanks inside a line. -/
def isSpace (c : Char) : Bool :=
  c == ' ' || c == '\t'

/-- Characters beyond ASCII, which texts and comments may hold. -/
def isBeyondAscii (c : Char) : Bool :=
  0x80 ≤ c.toNat

/-- Characters of a comment: the tab and everything that is no control character. -/
def isCommentChar (c : Char) : Bool :=
  c == '\t' || (' ' ≤ c && c ≤ '~') || isBeyondAscii c

namespace Reader

/-- The blanks up to the next character that is none. -/
def spaces : Reader Unit := do
  let _ ← run isSpace

/-- The end of a line. -/
def lineBreak : Reader Unit :=
  character '\n' <|> literal ['\r', '\n']

/-- The end of a line, or of the text. -/
def lineEnd : Reader Unit := do
  if ← atEnd then pure () else lineBreak

/-- A comment up to the end of its line. -/
def comment : Reader Unit := do
  character '#'
  let _ ← run isCommentChar

/-- Blanks, and a comment if there is one, up to the end of the line. -/
def restOfLine : Reader Unit := do
  spaces
  let _ ← optional? comment
  lineEnd

/-- Blanks, line breaks and comments between the items of a sequence. -/
def gap : Reader Unit := do
  let _ ← repeated (run1 isSpace *> pure () <|> lineBreak <|> comment *> lineBreak)

end Reader

end PeerCluster.Toml
