import Minikernel.Number.Double

/-!
The shortest decimal text of a floating point number: as few digits as read back to the same
number, of those the nearest to it, and of two that are equally near the even one.
-/

namespace Minikernel.Number

structure Decimal where
  digits : Nat
  power : Int
deriving DecidableEq

namespace Double

/-- How far, in quarters of the last place, what reads back as a number may lie below it. The
numbers below the least significand lie twice as close together. -/
def gapBelow (value : Double) : Nat :=
  if value.significand = leastSignificand ∧ leastExponent < value.exponent then 1 else 2

/-- A multiple of `10 ^ power` that reads back as the number, if there is one: the nearer of
the two next to it. A bound reads back where the significand is even. -/
def onGrid? (value : Double) (power : Int) : Option Decimal :=
  let quarter := value.exponent - 2
  let multiplier := (1 <<< quarter.toNat) * Nat.pow 10 (-power).toNat
  let divisor := (1 <<< (-quarter).toNat) * Nat.pow 10 power.toNat
  let place := 4 * value.significand * multiplier
  let lowest := place - value.gapBelow * multiplier
  let highest := place + 2 * multiplier
  let readsBack (multiple : Nat) : Bool :=
    let other := multiple * divisor
    if value.significand % 2 = 0 then lowest ≤ other && other ≤ highest
    else lowest < other && other < highest
  let below := place / divisor
  let nearest := nearestEven place divisor
  let farther := if nearest = below then below + 1 else below
  if readsBack nearest then some ⟨nearest, power⟩
  else if readsBack farther then some ⟨farther, power⟩
  else none

/-- The shortest decimal of a finite number above zero. The grids go from the coarsest that has
such a number on it to the finest that is needed: numbers of the least exponent lie more than
`10 ^ (-324)` apart. -/
def shortest (value : Double) : Decimal :=
  ((List.range 633).findSome? fun step : Nat => value.onGrid? (308 - (step : Int))).getD ⟨0, 0⟩

end Double

namespace Decimal

def positional (digits : List Char) (power : Int) : List Char :=
  if power < 0 then
    ['0', '.'] ++ List.replicate (-power - 1).toNat '0' ++ digits
  else
    let places := power.toNat + 1
    let whole := digits.take places
    let fraction := digits.drop places
    whole ++ List.replicate (places - whole.length) '0' ++ ['.'] ++
      (if fraction.isEmpty then ['0'] else fraction)

def scientific (digits : List Char) (power : Int) : List Char :=
  let fraction := digits.drop 1
  digits.take 1 ++ (if fraction.isEmpty then [] else '.' :: fraction) ++
    ['e', if power < 0 then '-' else '+'] ++ Nat.toDigits 10 power.natAbs

def text (decimal : Decimal) : String :=
  let digits := Nat.toDigits 10 decimal.digits
  let power := decimal.power + ((digits.length : Int) - 1)
  String.ofList
    (if -5 ≤ power ∧ power ≤ 15 then positional digits power else scientific digits power)

end Decimal

def Double.text (value : Double) : String :=
  if value.significand = 0 then "0.0" else value.shortest.text

end Minikernel.Number
