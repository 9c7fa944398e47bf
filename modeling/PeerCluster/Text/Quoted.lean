import PeerCluster.Text.Extender
import PeerCluster.Text.Unprintable

/-! Quoted text, in which every character either stands for itself or is written as an escape. -/

namespace PeerCluster.Text

/-- Characters that need no look at the tables: the visible ones of ASCII and the space. -/
def isPlain (c : Char) : Bool :=
  ' ' ≤ c && c ≤ '~'

/-- The escape that names a code point by its lower-case hexadecimal digits. -/
def escapePoint (c : Char) : List Char :=
  ['\\', 'u', '\x7b'] ++ Nat.toDigits 16 c.toNat ++ ['\x7d']

/-- The written form of one character inside quotes. -/
def escape (c : Char) : List Char :=
  -- The short escapes come first, because all of them but two are unprintable as well.
  if c = '\x00' then ['\\', '0']
  else if c = '\t' then ['\\', 't']
  else if c = '\r' then ['\\', 'r']
  else if c = '\n' then ['\\', 'n']
  else if c = '"' then ['\\', '"']
  else if c = '\\' then ['\\', '\\']
  else if isPlain c then [c]
  else if isExtender c || isUnprintable c then escapePoint c
  else [c]

/-- The characters of a text between two quotes. -/
def quoteChars (cs : List Char) : List Char :=
  '"' :: cs.flatMap escape ++ ['"']

/-- A text in quotes. -/
def quote (s : String) : String :=
  String.ofList (quoteChars s.toList)

end PeerCluster.Text
