import PeerCluster.Decimal.Binary64
import PeerCluster.Toml.Key
import PeerCluster.Toml.Value

/-! Numbers of TOML: integers of 64 bits in four bases, and floating point numbers. -/

namespace PeerCluster.Toml

open Reader

/-- Whether every underscore stands between two other characters. -/
def wellSpaced : List Char → Bool
  | [] => true
  | ['_'] => false
  | '_' :: '_' :: _ => false
  | _ :: rest => wellSpaced rest

/-- Digits of a class, which underscores may set apart. -/
def spacedDigits (isDigit : Char → Bool) : Reader (List Char) := do
  let first ← satisfying isDigit
  let rest ← run fun c => isDigit c || c == '_'
  require (wellSpaced rest)
  return (first :: rest).filter (· ≠ '_')

/-- The sign of a number, and whether it is a minus. -/
def sign : Reader Bool :=
  (character '-' *> pure true) <|> (character '+' *> pure false) <|> pure false

/-- An integer within the range of 64 bits. -/
def integerWithin (value : Int) : Reader Value := do
  require (-0x8000000000000000 ≤ value && value < 0x8000000000000000)
  return .integer value

/-- An integer behind a mark for its base. -/
def basedInteger (mark : Char) (base : Nat) (isDigit : Char → Bool) : Reader Value := do
  literal ['0', mark]
  integerWithin (Text.numberOf base (← spacedDigits isDigit))

/-- The digits before the point, which start with a zero only if there is no other. -/
def wholeDigits : Reader (List Char) := do
  let digits ← spacedDigits Char.isDigit
  require (digits.length = 1 || digits.head? ≠ some '0')
  return digits

/-- The digits behind the point. -/
def fraction : Reader (List Char) :=
  character '.' *> spacedDigits Char.isDigit

/-- The exponent of a power of ten. -/
def exponent : Reader Int := do
  let _ ← satisfying fun c => c == 'e' || c == 'E'
  let negative ← sign
  let digits := Text.numberOf 10 (← spacedDigits Char.isDigit)
  return if negative then -digits else digits

/-- A decimal number, which is an integer unless it has a fraction or an exponent. -/
def decimalNumber : Reader Value := do
  let negative ← sign
  let whole ← wholeDigits
  let fraction? ← optional? fraction
  let exponent? ← optional? exponent
  match fraction?, exponent? with
  | none, none =>
    let value := Text.numberOf 10 whole
    integerWithin (if negative then -value else value)
  | _, _ =>
    let behind := fraction?.getD []
    let value := Decimal.Binary64.ofDecimal negative (Text.numberOf 10 (whole ++ behind))
      (exponent?.getD 0 - behind.length)
    -- A number past the largest one is refused, one past the smallest one is not.
    require (value ≠ .infinite false)
    return .float value

/-- The floating point values that are no numbers. -/
def specialNumber : Reader Value := do
  let negative ← sign
  (literal ['i', 'n', 'f'] *> pure (.float (.infinite negative)))
    <|> (literal ['n', 'a', 'n'] *> pure (.float .notANumber))

/-- A number in any of its forms. -/
def number : Reader Value :=
  basedInteger 'x' 16 Text.isHexDigit
    <|> basedInteger 'o' 8 (fun c => '0' ≤ c && c ≤ '7')
    <|> basedInteger 'b' 2 (fun c => c == '0' || c == '1')
    <|> decimalNumber <|> specialNumber

end PeerCluster.Toml
