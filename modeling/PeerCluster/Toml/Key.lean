import PeerCluster.Text.Digits
import PeerCluster.Toml.Reader

/-! Quoted texts of TOML on one line or several, and the keys that are made of them. -/

namespace PeerCluster.Toml

open Reader

/-- The characters that stand for themselves between double quotes. -/
def isBasicChar (c : Char) : Bool :=
  isCommentChar c && c ≠ '"' && c ≠ '\\'

/-- The characters that stand for themselves between single quotes. -/
def isLiteralChar (c : Char) : Bool :=
  isCommentChar c && c ≠ '\x27'

/-- The code point that hexadecimal digits name, if it is a character. -/
def codePoint (digits : Nat) : Reader Char := do
  Text.charAt? (Text.numberOf 16 (← exactly Text.isHexDigit digits))

/-- The character that an escape stands for. -/
def escaped : Reader Char := do
  character '\\'
  match ← satisfying fun _ => true with
  | 'b' => return '\x08'
  | 't' => return '\t'
  | 'n' => return '\n'
  | 'f' => return '\x0c'
  | 'r' => return '\r'
  | '"' => return '"'
  | '\\' => return '\\'
  | 'u' => codePoint 4
  | 'U' => codePoint 8
  | _ => failure

/-- A text between double quotes. -/
def basicText : Reader String := do
  character '"'
  let parts ← repeated (run1 isBasicChar <|> List.singleton <$> escaped)
  character '"'
  return .ofList parts.flatten

/-- A text between single quotes. -/
def literalText : Reader String := do
  character '\x27'
  let text ← run isLiteralChar
  character '\x27'
  return .ofList text

/-- A line break that is left out, with the blanks around it and the empty lines after it. -/
def foldedBreak : Reader (List Char) := do
  character '\\'
  spaces
  lineBreak
  let _ ← repeated (run1 isSpace *> pure () <|> lineBreak)
  return []

/-- One or two quotes that do not end a text of several lines. -/
def innerQuotes (quoteMark : Char) : Reader (List Char) := do
  let quotes ← run1 (· == quoteMark)
  require (quotes.length < 3)
  return quotes

/-- The end of a text of several lines, before which up to two quotes belong to the text. -/
def closingQuotes (quoteMark : Char) : Reader (List Char) := do
  let quotes ← run1 (· == quoteMark)
  require (3 ≤ quotes.length && quotes.length ≤ 5)
  return quotes.drop 3

/-- A text of several lines, made of parts between triple quotes; a first line break is left out. -/
def longText (quoteMark : Char) (part : Reader (List Char)) : Reader String := do
  literal [quoteMark, quoteMark, quoteMark]
  let _ ← optional? lineBreak
  let parts ← repeated (part <|> (lineBreak *> pure ['\n']) <|> innerQuotes quoteMark)
  let rest ← closingQuotes quoteMark
  return .ofList (parts.flatten ++ rest)

/-- A text of several lines between double quotes. -/
def longBasicText : Reader String :=
  longText '"' (run1 isBasicChar <|> foldedBreak <|> List.singleton <$> escaped)

/-- A text of several lines between single quotes. -/
def longLiteralText : Reader String :=
  longText '\x27' (run1 isLiteralChar)

/-- A text in any of its four forms. -/
def quotedText : Reader String :=
  longBasicText <|> basicText <|> longLiteralText <|> literalText

/-- The characters of keys that need no quotes. -/
def isBareKeyChar (c : Char) : Bool :=
  c.isAlphanum || c == '-' || c == '_'

/-- One part of a key. -/
def keyPart : Reader String :=
  basicText <|> literalText <|> String.ofList <$> run1 isBareKeyChar

/-- How deep values and keys may nest. -/
def nestingLimit : Nat := 80

/-- A key: parts with points between them, and the blanks around. -/
def key : Reader (List String × String) := do
  let part := spaces *> keyPart <* spaces
  let first ← part
  let rest ← repeated (character '.' *> part)
  let parts := first :: rest
  require (parts.length < nestingLimit)
  return (parts.dropLast, parts.getLastD first)

end PeerCluster.Toml
