/-!
Floating point numbers of 64 bits without their sign. A number is a significand below
`2 ^ 53` times a power of two, and the significand is at least `2 ^ 52` unless the power is the
least one. An operation gives the nearest of these numbers to its exact result, and of two that
are equally near the one with the even significand.
-/

namespace Minikernel.Number

/-- The number `significand * 2 ^ exponent`. -/
structure Double where
  significand : Nat
  exponent : Int
deriving DecidableEq

namespace Double

def leastExponent : Int := -1074

def greatestExponent : Int := 971

def leastSignificand : Nat := 1 <<< 52

def significandLimit : Nat := 1 <<< 53

def zero : Double := ⟨0, leastExponent⟩

/-- Whether a number fits in 64 bits. What rounds to a larger one is infinite. -/
def isFinite (value : Double) : Bool :=
  value.exponent ≤ greatestExponent

def nearestEven (numerator denominator : Nat) : Nat :=
  let quotient := numerator / denominator
  let twice := 2 * (numerator % denominator)
  if twice < denominator ∨ (twice = denominator ∧ quotient % 2 = 0) then quotient
  else quotient + 1

def inUnits (numerator denominator : Nat) (unit : Int) : Nat × Nat :=
  if unit < 0 then (numerator <<< (-unit).toNat, denominator)
  else (numerator, denominator <<< unit.toNat)

/-- The largest unit in which a quotient above zero is not less than `2 ^ 52`. The first unit
that is tried lies at most one below it, as a number is at least the power of two of its
logarithm and less than the next one. -/
def unitOf (numerator denominator : Nat) : Int :=
  let unit : Int := (Nat.log2 numerator : Int) - (Nat.log2 denominator : Int) - 53
  let (scaled, divisor) := inUnits numerator denominator unit
  if scaled / divisor < significandLimit then unit else unit + 1

def ofQuotient (numerator denominator : Nat) (exponent : Int) : Double :=
  if numerator = 0 then zero
  else
    let wanted := unitOf numerator denominator
    let unit := if wanted + exponent < leastExponent then leastExponent - exponent else wanted
    let (scaled, divisor) := inUnits numerator denominator unit
    let significand := nearestEven scaled divisor
    if significand < significandLimit then ⟨significand, unit + exponent⟩
    else ⟨leastSignificand, unit + exponent + 1⟩

def ofNat (number : Nat) : Double :=
  ofQuotient number 1 0

def product (left right : Double) : Double :=
  ofQuotient (left.significand * right.significand) 1 (left.exponent + right.exponent)

def quotient (left right : Double) : Double :=
  ofQuotient left.significand right.significand (left.exponent - right.exponent)

def tenTo (power : Nat) : Double :=
  ofNat (Nat.pow 10 power)

def greatestTen : Nat := 308

def divideTen (value : Double) (power : Nat) : Double :=
  if power ≤ greatestTen then quotient value (tenTo power)
  else if value.significand = 0 then value
  else divideTen (quotient value (tenTo greatestTen)) (power - greatestTen)
termination_by power
decreasing_by simp only [greatestTen] at *; omega

/-- The number `significand * 10 ^ power`, rounded at each step, if it is finite. -/
def ofDecimal? (significand : Nat) (power : Int) : Option Double :=
  let start := ofNat significand
  if power < 0 then some (divideTen start (-power).toNat)
  else if power.toNat ≤ greatestTen then
    let value := product start (tenTo power.toNat)
    if value.isFinite then some value else none
  else if significand = 0 then some start
  else none

end Double

end Minikernel.Number
