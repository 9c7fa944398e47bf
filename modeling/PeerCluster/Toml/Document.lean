import PeerCluster.Toml.Moment
import PeerCluster.Toml.Number

/-! Documents of TOML are read line by line and put together to one table. -/

namespace PeerCluster.Toml

open Reader

/-- A key with the value that it names. -/
abbrev Assignment := List String × String × Value

/-- A key and its value, given how to read a value. -/
def assignment (value : Reader Value) : Reader Assignment := do
  let (path, last) ← key
  character '='
  spaces
  return (path, last, ← value)

/-- Items between brackets, given how to read one. -/
def bracketed (item : Reader Value) : Reader Value := do
  character '['
  let separated := gap *> item <* gap
  let items ← optional? do
    let first ← separated
    let rest ← repeated (character ',' *> separated)
    let _ ← optional? (character ',' *> gap)
    return first :: rest
  gap
  character ']'
  return .array false (items.getD [])

/-- Assignments between braces on one line, given how to read a value. -/
def braced (value : Reader Value) : Reader Value := do
  character '\x7b'
  spaces
  let assigned := assignment value <* spaces
  let assignments ← optional? do
    let first ← assigned
    let rest ← repeated (character ',' *> assigned)
    return first :: rest
  character '\x7d'
  match Entries.insertAll .braces [] (assignments.getD []) with
  | some entries => return .table .braces entries
  | none => failure

/-- A value that holds no other. -/
def plainValue : Reader Value :=
  (Value.text <$> quotedText)
    <|> (literal ['t', 'r', 'u', 'e'] *> pure (.boolean true))
    <|> (literal ['f', 'a', 'l', 's', 'e'] *> pure (.boolean false))
    <|> (moment *> pure .moment) <|> number

/-- A value whose brackets and braces nest up to a depth. -/
def valueUpTo : Nat → Reader Value
  | 0 => plainValue
  | depth + 1 => plainValue <|> bracketed (valueUpTo depth) <|> braced (valueUpTo depth)

/-- A value within the limit for nesting. -/
def value : Reader Value :=
  valueUpTo (nestingLimit - 1)

/-- A header with the assignments below it. -/
structure Section where
  /-- Whether the header starts a further table of a sequence. -/
  byHeaders : Bool
  path : List String
  last : String
  assignments : List Assignment

/-- Lines that say nothing. -/
def emptyLines : Reader Unit := do
  let _ ← repeated (run1 isSpace *> pure () <|> lineBreak <|> comment *> lineEnd)

/-- The assignments up to the next header, each on a line of its own. -/
def assignments : Reader (List Assignment) := do
  emptyLines
  repeated (assignment value <* restOfLine <* emptyLines)

/-- The path in a header of a table. -/
def tableHeader : Reader (Bool × List String × String) := do
  character '['
  let path ← key
  character ']'
  return (false, path)

/-- The path in a header of a table in a sequence. -/
def sequenceHeader : Reader (Bool × List String × String) := do
  literal ['[', '[']
  let path ← key
  literal [']', ']']
  return (true, path)

/-- A header and what stands below it. -/
def documentSection : Reader Section := do
  let (byHeaders, path, last) ← (sequenceHeader <|> tableHeader)
  restOfLine
  return ⟨byHeaders, path, last, ← assignments⟩

/-- Puts a section in its place; a header names a table once, also one implied before. -/
def Section.place (part : Section) (document : Entries) : Option Entries :=
  Entries.within false
    (fun _ entries =>
      match part.byHeaders, entries.lookup part.last with
      | false, none => do
        let inner ← Entries.insertAll .header [] part.assignments
        some (entries ++ [(part.last, .table .header inner)])
      | false, some (.table .implied start) => do
        -- The table moves to the place of its own header.
        let inner ← Entries.insertAll .header start part.assignments
        some (entries.without part.last ++ [(part.last, .table .header inner)])
      | true, none => do
        let inner ← Entries.insertAll .header [] part.assignments
        some (entries ++ [(part.last, .array true [.table .header inner])])
      | true, some (.array true items) => do
        let inner ← Entries.insertAll .header [] part.assignments
        some (entries.replace part.last (.array true (items ++ [.table .header inner])))
      | _, _ => none)
    part.path .header document

/-- Puts sections in their places, in order. -/
def placeAll (document : Entries) : List Section → Option Entries
  | [] => some document
  | part :: rest => do
    let document ← part.place document
    placeAll document rest

/-- The entries of a document, if it follows the grammar and names each place once. -/
def parse? (text : String) : Option Entries := do
  -- A byte order mark may precede the document.
  let characters := match text.toList with
    | '\ufeff' :: rest => rest
    | characters => characters
  let (top, rest) ← assignments characters
  let (sections, rest) ← repeated documentSection rest
  if rest.isEmpty then
    placeAll (← Entries.insertAll .header [] top) sections
  else
    none

end PeerCluster.Toml
