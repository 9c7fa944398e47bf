/-! Sets of characters as inclusive ranges of code points. -/

namespace PeerCluster.Text

/-- Whether one of some ranges covers a character. -/
def isWithin (ranges : List (Nat × Nat)) (c : Char) : Bool :=
  ranges.any fun range => range.1 ≤ c.toNat && c.toNat ≤ range.2

end PeerCluster.Text
