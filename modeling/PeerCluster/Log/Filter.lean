import PeerCluster.Log
import PeerCluster.Log.Pattern
import PeerCluster.Text.Blank

/-! Filters decide by target, fields and level which log records are shown. -/

namespace PeerCluster

/-- What a directive asks of a record beside its target. -/
inductive LogScope where
  /-- Nothing more. -/
  | any
  /-- A field of this name; the message counts as a field. -/
  | field (name : String)
  /-- A place inside a span, which no record has. -/
  | span
deriving DecidableEq, Repr

/-- How much is shown of the records that a directive fits; zero shows nothing of them. -/
structure LogDirective where
  /-- The start of the targets that are meant; without one, all of them. -/
  target? : Option String
  scope : LogScope
  verbosity : Nat
deriving DecidableEq, Repr

/-- Which records are shown; the directive that fits a record most closely counts. -/
structure LogFilter where
  directives : List LogDirective
deriving DecidableEq, Repr

namespace LogFilter

/-- The verbosity of the levels that show everything. -/
def everything : Nat :=
  LogLevel.trace.verbosity

/-- The number that digits write, behind a plus sign or without one. -/
def number? (word : String) : Option Nat :=
  let digits := match word.toList with
    | '+' :: rest => rest
    | all => all
  if digits.all Char.isDigit then (String.ofList digits).toNat? else none

/-- The verbosity that a number or a word in upper or lower case names. -/
def verbosity? (word : String) : Option Nat :=
  match number? word with
  | some value => if value ≤ everything then some value else none
  | none =>
    match word.toLower with
    | "off" => some 0
    | "error" => some 1
    | "warn" => some 2
    | "info" => some 3
    | "debug" => some 4
    | "trace" => some 5
    | _ => none

/-- The characters that a directive without a bracket in front starts with. -/
def isNameStart (c : Char) : Bool :=
  ['-', ':', '_'].contains c || Text.isAlphabetic c || Text.isNumeric c

/-- The bytes of a text: each character stands at its first byte, and nothing at the others. -/
def bytes (text : List Char) : List (Option Char) :=
  text.flatMap fun c => some c :: List.replicate (c.utf8Size - 1) none

/--
A place in the text of a directive, counted in bytes: what stands there once the blanks around
are left out, by which the parts are told apart, and what stands there in the text as it is
written, out of which the parts are cut.
-/
structure Place where
  mark : Option Char
  written : Option Char
deriving DecidableEq, Repr

/-- The places of a text, and what is written behind the last of them. -/
def places (text : List Char) : List Place × List (Option Char) :=
  let marks := bytes (Text.trimmed text)
  (marks.zipWith Place.mk (bytes text), (bytes text).drop marks.length)

/-- What is written at some places. -/
def written (places : List Place) : String :=
  .ofList (places.filterMap (·.written))

/-- The verbosity behind an equals sign; where no word says less, everything is shown. -/
def levelVerbosity? (word : String) : Option Nat :=
  if word.isEmpty then some everything else verbosity? word

/-- The scope of a field, which may have to have a value, in a span with or without a name. -/
def fieldScope? (span : String) (field : List Char) : Option LogScope :=
  match field.span (· ≠ '=') with
  | ([], []) => none
  -- Only spans have names of their own and fields whose values are known.
  | (name, []) => some (if span.isEmpty then .field (.ofList name) else .span)
  | (_, _ :: value) => if LogPattern.isValue (value.takeWhile (· ≠ '=')) then some .span else none

/-- The scope that an opening bracket starts, and the places behind the closing one. -/
def scope? (inner : List Place) : Option (LogScope × List Place) :=
  let (span, rest) := inner.span fun place => place.mark ≠ some ']' && place.mark ≠ some '\x7b'
  match rest with
  | [] => none
  | ⟨some ']', _⟩ :: rest => some (.span, rest)
  | _ :: inner => do
    let (field, rest) := inner.span (·.mark ≠ some '\x7d')
    let scope ← fieldScope? (written span) (field.filterMap (·.written))
    match rest with
    | _ :: ⟨some ']', _⟩ :: rest => return (scope, rest)
    | _ => none

/-- The verbosity at the end of a directive with a scope. -/
def scopedVerbosity? (behind : String) : List Place → Option Nat
  | [] => some everything
  | ⟨some '=', _⟩ :: word => levelVerbosity? (written word ++ behind)
  | _ => none

/-- The directive that a text writes: a level, or a target with a scope and a level behind it. -/
def directive? (text : String) : Option LogDirective :=
  let (all, rest) := places text.toList
  let behind := String.ofList (rest.filterMap id)
  match all with
  | [] => none
  | ⟨some '[', _⟩ :: inner => do
    let (scope, rest) ← scope? inner
    return ⟨none, scope, ← scopedVerbosity? behind rest⟩
  | first :: _ =>
    if first.mark.any isNameStart then
      let (name, rest) := all.span fun place => place.mark ≠ some '=' && place.mark ≠ some '['
      match rest with
      | [] =>
        -- A target that stands alone shows everything; blanks around it belong to it.
        match verbosity? text with
        | some verbosity => some ⟨none, .any, verbosity⟩
        | none => some ⟨some text, .any, everything⟩
      | ⟨some '[', _⟩ :: inner => do
        let (scope, rest) ← scope? inner
        return ⟨some (written name), scope, ← scopedVerbosity? behind rest⟩
      | _ :: word => do
        return ⟨some (written name), .any, ← levelVerbosity? (written word ++ behind)⟩
    else none

/-- The filter of directives between commas; without any, only errors are shown. -/
def parse? (text : String) : Option LogFilter := do
  let parts := (text.splitOn ",").filter (· ≠ "")
  let directives ← parts.mapM directive?
  return ⟨if directives.isEmpty then [⟨none, .any, LogLevel.error.verbosity⟩] else directives⟩

/-- The filter in use when nothing readable is asked for. -/
def standard : LogFilter :=
  ⟨[⟨none, .any, LogLevel.info.verbosity⟩]⟩

/-- The filter that a text asks for, if it can be read. -/
def ofText (text? : Option String) : LogFilter :=
  (text?.bind parse?).getD standard

/-- How closely a directive fits a record, if it does: first by its target, then by its field. -/
def rank? (entry : LogRecord) (directive : LogDirective) : Option (Nat × Option String) := do
  let byTarget ← match directive.target? with
    | none => some 0
    | some start =>
      if start.toList.isPrefixOf entry.source.target.toList then some (start.length + 1) else none
  match directive.scope with
  | .any => some (byTarget, none)
  | .field name =>
    if name = "message" || entry.fields.any (·.1 = name) then some (byTarget, some name) else none
  | .span => none

/-- Whether a fit is at least as close as another. -/
def atLeast : Nat × Option String → Nat × Option String → Bool
  | (target, field?), (other, otherField?) =>
    other < target || other = target && match otherField?, field? with
      | none, _ => true
      | some _, none => false
      | some otherField, some field => otherField ≤ field

/-- The closer fitting of two directives with their fits, of equals the later one. -/
def closer (entry : LogRecord) (best? : Option ((Nat × Option String) × LogDirective))
    (directive : LogDirective) : Option ((Nat × Option String) × LogDirective) :=
  match best?, rank? entry directive with
  | best?, none => best?
  | none, some rank => some (rank, directive)
  | some (bestRank, best), some rank =>
    if atLeast rank bestRank then some (rank, directive) else some (bestRank, best)

/-- A record is shown when the closest fitting directive asks for its level. -/
def shows (filter : LogFilter) (entry : LogRecord) : Bool :=
  match filter.directives.foldl (closer entry) none with
  | some (_, best) => entry.level.verbosity ≤ best.verbosity
  | none => false

end LogFilter

/-- The text of a value in a printed line. -/
def LogValue.shown : LogValue → String
  | number value => toString value
  | text value => Text.quote value
  | rendered value => value

/-- The printed line of a record. -/
def LogRecord.line (entry : LogRecord) : String :=
  let fields := entry.fields.map fun field => " " ++ field.1 ++ "=" ++ field.2.shown
  entry.level.name ++ " " ++ entry.source.target ++ ": " ++ entry.message ++ String.join fields

end PeerCluster
