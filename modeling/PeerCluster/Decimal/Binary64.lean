/-! Floating point numbers of 64 bits, and the nearest one to a decimal number. -/

namespace PeerCluster.Decimal

/-- A floating point number; a finite one is its mantissa times a power of two. -/
inductive Binary64 where
  | finite (negative : Bool) (mantissa : Nat) (exponent : Int)
  | infinite (negative : Bool)
  | notANumber
deriving DecidableEq, Repr

namespace Binary64

/-- Mantissas of numbers that are not too small lie between half this bound and the bound. -/
def mantissaBound : Nat := 0x20000000000000

/-- The exponent of the smallest numbers. -/
def leastExponent : Int := -1074

/-- The exponent of the largest numbers. -/
def greatestExponent : Int := 971

/-- A fraction rounded to the nearest whole number, a half to the even neighbour. -/
def roundedQuotient (numerator denominator : Nat) : Nat :=
  let whole := numerator / denominator
  let twice := 2 * (numerator % denominator)
  if twice < denominator then whole
  else if denominator < twice then whole + 1
  else whole + whole % 2

/-- A fraction times a power, as the fraction of two whole numbers. -/
def scaled (base : Nat) (exponent : Int) (numerator denominator : Nat) : Nat × Nat :=
  if 0 ≤ exponent then (numerator * base.pow exponent.toNat, denominator)
  else (numerator, denominator * base.pow (-exponent).toNat)

/-- The nearest number to a positive fraction, or infinity when that lies past the largest one. -/
def ofFraction (negative : Bool) (numerator denominator : Nat) : Binary64 :=
  -- With this exponent the quotient lies below the bound and at least at a quarter of it.
  let guess := (numerator.log2 : Int) - denominator.log2 - 52
  let atGuess := scaled 2 (-guess) numerator denominator
  let fitted := if atGuess.1 < mantissaBound / 2 * atGuess.2 then guess - 1 else guess
  let exponent := max fitted leastExponent
  let quotient := scaled 2 (-exponent) numerator denominator
  let mantissa := roundedQuotient quotient.1 quotient.2
  -- Rounding up can reach the bound, which is written with the next exponent.
  let (mantissa, exponent) :=
    if mantissa = mantissaBound then (mantissaBound / 2, exponent + 1) else (mantissa, exponent)
  if greatestExponent < exponent then .infinite negative else .finite negative mantissa exponent

/-- The nearest number to digits times a power of ten. -/
def ofDecimal (negative : Bool) (digits : Nat) (exponent : Int) : Binary64 :=
  -- Powers far outside the range are decided without computing them.
  let magnitude := exponent + (Nat.toDigits 10 digits).length
  if digits = 0 || magnitude < -330 then .finite negative 0 leastExponent
  else if 310 < magnitude then .infinite negative
  else
    let value := scaled 10 exponent digits 1
    ofFraction negative value.1 value.2

end Binary64

end PeerCluster.Decimal
