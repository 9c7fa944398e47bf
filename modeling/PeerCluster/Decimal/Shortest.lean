import PeerCluster.Decimal.Binary64

/-! The shortest decimal text that names a floating point number, without an exponent. -/

namespace PeerCluster.Decimal

/-- Digits times a power of ten. -/
structure Digits where
  digits : Nat
  exponent : Int
deriving DecidableEq, Repr

namespace Binary64

/-- The fractions that round to a positive number, as bounds over one denominator. -/
structure RoundingInterval where
  lower : Nat
  value : Nat
  upper : Nat
  denominator : Nat
  /-- Whether the bounds themselves round to the number. -/
  closed : Bool

/-- The interval around a mantissa times a power of two. -/
def roundingInterval (mantissa : Nat) (exponent : Int) : RoundingInterval :=
  -- The next smaller number is nearer when its exponent is smaller too.
  let below := if mantissa = mantissaBound / 2 && leastExponent < exponent then 1 else 2
  let unit := scaled 2 exponent 1 4
  ⟨(4 * mantissa - below) * unit.1, 4 * mantissa * unit.1, (4 * mantissa + 2) * unit.1,
    unit.2, mantissa % 2 = 0⟩

/-- Whether a fraction over the interval's denominator lies in it. -/
def RoundingInterval.contains (interval : RoundingInterval) (numerator scale : Nat) : Bool :=
  let lower := interval.lower * scale
  let upper := interval.upper * scale
  if interval.closed then lower ≤ numerator && numerator ≤ upper
  else lower < numerator && numerator < upper

/-- The multiple of a power of ten nearest to a number, if one lies in its interval. -/
def onGrid? (interval : RoundingInterval) (exponent : Int) : Option Digits :=
  -- Everything is measured in the least unit that both the interval and the grid are made of.
  let step := scaled 10 exponent interval.denominator 1
  let value := interval.value * step.2
  let below := value / step.1
  let low := interval.contains (below * step.1) step.2
  let high := interval.contains ((below + 1) * step.1) step.2
  let lowIsNearer := 2 * (value % step.1) < step.1
  if low && (lowIsNearer || !high) then some ⟨below, exponent⟩
  else if high then some ⟨below + 1, exponent⟩
  else none

/-- The first hit on grids that get finer by a factor of ten, a number of times. -/
def firstOnGrid (interval : RoundingInterval) : Nat → Int → Digits
  | 0, exponent => (onGrid? interval exponent).getD ⟨0, exponent⟩
  | finer + 1, exponent =>
    match onGrid? interval exponent with
    | some found => found
    | none => firstOnGrid interval finer (exponent - 1)

/-- The fewest digits that read back as a positive number, and of those the nearest to it. -/
def shortest (mantissa : Nat) (exponent : Int) : Digits :=
  let interval := roundingInterval mantissa exponent
  -- No number lies past the first grid, and the last one tells any two numbers apart.
  firstOnGrid interval 700 310

/-- The text of digits times a power of ten, with a point and at least a digit on either side. -/
def positional (number : Digits) : String :=
  let digits := Nat.toDigits 10 number.digits
  if 0 ≤ number.exponent then
    String.ofList (digits ++ List.replicate number.exponent.toNat '0') ++ ".0"
  else
    let places := (-number.exponent).toNat
    let padded := List.replicate (places + 1 - digits.length) '0' ++ digits
    String.ofList (padded.take (padded.length - places)) ++ "."
      ++ String.ofList (padded.drop (padded.length - places))

/-- The text of a number. -/
def text : Binary64 → String
  | finite negative mantissa exponent =>
    let sign := if negative then "-" else ""
    if mantissa = 0 then sign ++ "0.0" else sign ++ positional (shortest mantissa exponent)
  | infinite negative => if negative then "-inf" else "inf"
  | notANumber => "NaN"

end Binary64

end PeerCluster.Decimal
