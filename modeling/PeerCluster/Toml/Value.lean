import PeerCluster.Decimal.Binary64

/-! The values of a TOML document, and the places at which its tables may still grow. -/

namespace PeerCluster.Toml

/-- How a table came to be, which decides what may still be added to it. -/
inductive Origin where
  /-- It has a header of its own, or is the document itself. -/
  | header
  /-- It is named on the way to a header, and may still get its own. -/
  | implied
  /-- It is named on the way to a dotted key. -/
  | dotted
  /-- It is written in braces and complete. -/
  | braces
deriving DecidableEq, Repr

/-- A value; a table keeps its keys in the order in which the document brings them up. -/
inductive Value where
  | text (value : String)
  | integer (value : Int)
  | float (value : Decimal.Binary64)
  | boolean (value : Bool)
  /-- A date, a time, or both. -/
  | moment
  /-- A sequence, which grows by headers if it was started by one. -/
  | array (byHeaders : Bool) (items : List Value)
  | table (origin : Origin) (entries : List (String × Value))
deriving Inhabited

/-- The entries of a table in order. -/
abbrev Entries := List (String × Value)

namespace Entries

/-- Puts another value under a key that is there. -/
def replace (entries : Entries) (key : String) (value : Value) : Entries :=
  entries.map fun entry => if entry.1 = key then (key, value) else entry

/-- The entries without those under a key. -/
def without (entries : Entries) (key : String) : Entries :=
  entries.filter fun entry => entry.1 ≠ key

/--
Changes the table at the end of a path, making the tables on the way that are not there yet.
A path of a dotted key may not pass through a table with a header of its own.
-/
def within (dotted : Bool) (change : Origin → Entries → Option Entries) :
    List String → Origin → Entries → Option Entries
  | [], origin, entries => change origin entries
  | key :: path, _, entries =>
    match entries.lookup key with
    | none => do
      let origin := if dotted then Origin.dotted else .implied
      let inner ← within dotted change path origin []
      some (entries ++ [(key, .table origin inner)])
    | some (.table origin inner) =>
      if origin = .braces || (dotted && origin = .header) then none
      else do
        let inner ← within dotted change path origin inner
        some (entries.replace key (.table origin inner))
    | some (.array true items) =>
      -- A path goes on in the table that the latest header of the sequence started.
      match items.getLast? with
      | some (.table origin inner) => do
        let inner ← within dotted change path origin inner
        some (entries.replace key (.array true (items.dropLast ++ [.table origin inner])))
      | _ => none
    | some _ => none

/-- Adds a value under a dotted key, which names each place once. -/
def insert (origin : Origin) (entries : Entries) (path : List String) (key : String)
    (value : Value) : Option Entries :=
  within true
    (fun inner entries =>
      -- Only the tables made by dotted keys grow by dotted keys, and no other table does.
      if (inner == .dotted) == path.isEmpty || (entries.lookup key).isSome then none
      else some (entries ++ [(key, value)]))
    path origin entries

/-- Adds values under dotted keys, in order. -/
def insertAll (origin : Origin) (entries : Entries) :
    List (List String × String × Value) → Option Entries
  | [] => some entries
  | (path, key, value) :: rest => do
    let entries ← entries.insert origin path key value
    insertAll origin entries rest

end Entries

end PeerCluster.Toml
