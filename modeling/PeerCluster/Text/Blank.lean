import PeerCluster.Text.Ranges

/-! White space as a property of characters, and texts made of nothing else. -/

namespace PeerCluster.Text

/-- Inclusive ranges of the white space characters. -/
def blankRanges : List (Nat × Nat) := [
  (0x9, 0xd), (0x20, 0x20), (0x85, 0x85), (0xa0, 0xa0), (0x1680, 0x1680), (0x2000, 0x200a),
  (0x2028, 0x2029), (0x202f, 0x202f), (0x205f, 0x205f), (0x3000, 0x3000)]

/-- A character is blank exactly when one of the ranges covers it. -/
def isBlank (c : Char) : Bool :=
  isWithin blankRanges c

/-- A text is blank when it holds no visible character, so the empty text is blank. -/
def allBlank (s : String) : Bool :=
  s.toList.all isBlank

/-- A text without the blanks around it. -/
def trimmed (text : List Char) : List Char :=
  ((text.dropWhile isBlank).reverse.dropWhile isBlank).reverse

end PeerCluster.Text
