import PeerCluster.Text.Quoted

/-! One-line outlines of values, which show every field under its name. -/

namespace PeerCluster

/-- Values that have a one-line outline. -/
class Outline (α : Type) where
  /-- The outline of a value, from which the value can be read off. -/
  outline : α → String

export Outline (outline)

/-- A text is outlined in quotes. -/
instance : Outline String where
  outline := Text.quote

/-- A count is outlined in decimal. -/
instance : Outline Nat where
  outline := toString

/-- A port number is outlined in decimal. -/
instance : Outline UInt16 where
  outline := toString

/-- A truth value is outlined as a word. -/
instance : Outline Bool where
  outline value := if value then "true" else "false"

namespace Text

/-- The outline of a record, given its name and its fields as written. -/
def recordOutline (name : String) (fields : List (String × String)) : String :=
  let shown := fields.map fun field => field.1 ++ ": " ++ field.2
  name ++ " \x7b " ++ ", ".intercalate shown ++ " \x7d"

/-- The outline of a value wrapped under a name. -/
def wrappedOutline (name : String) (inner : String) : String :=
  name ++ "(" ++ inner ++ ")"

end Text

end PeerCluster
