/-! Digits of bases up to sixteen and the numbers that they write. -/

namespace PeerCluster.Text

/-- The digits of hexadecimal numbers. -/
def isHexDigit (c : Char) : Bool :=
  c.isDigit || ('a' ≤ c && c ≤ 'f') || ('A' ≤ c && c ≤ 'F')

/-- The value of a digit, of any base up to sixteen. -/
def digitValue (c : Char) : Nat :=
  if c.isDigit then c.toNat - '0'.toNat
  else if 'a' ≤ c then c.toNat - 'a'.toNat + 10
  else c.toNat - 'A'.toNat + 10

/-- The number that digits of a base write. -/
def numberOf (base : Nat) (digits : List Char) : Nat :=
  digits.foldl (fun number digit => number * base + digitValue digit) 0

/-- The character whose code point a number is, if there is one. -/
def charAt? (point : Nat) : Option Char :=
  if point.isValidChar then some (.ofNat point) else none

end PeerCluster.Text
