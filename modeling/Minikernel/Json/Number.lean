import Minikernel.Json.Token
import Minikernel.Number.Double

/-!
The value of a number that is spelled in decimal digits. Only as many digits count as fit in
64 bits together; those of the whole part that are left over count as zeros, and those of the
fraction not at all.
-/

namespace Minikernel.Json

structure Spelled where
  whole : List Char
  fraction : List Char
  descending : Bool
  exponent : List Char

namespace Spelled

def ofCharacters (characters : List Char) : Spelled :=
  let whole := characters.takeWhile Token.isDigit
  let afterWhole := characters.dropWhile Token.isDigit
  let (fraction, afterFraction) :=
    match afterWhole with
    | '.' :: rest => (rest.takeWhile Token.isDigit, rest.dropWhile Token.isDigit)
    | _ => ([], afterWhole)
  let (sign, exponent) := Token.sign (afterFraction.drop 1)
  ⟨whole, fraction, sign = ['-'], exponent⟩

/-- The nearest floating point number, or how many characters are still unread when the number
turns out to be too large. An exponent is too long from the digit on that takes it to `2 ^ 31`;
the number is zero then if it is a negative exponent or one of zero. -/
def value (spelled : Spelled) : Except Nat Number.Double :=
  let (whole, dropped) := Token.appendDigits UInt64.size 0 spelled.whole
  let (significand, unread) := Token.appendDigits UInt64.size whole spelled.fraction
  let scale : Int := (dropped.length : Int) + unread.length - spelled.fraction.length
  let (exponent, left) := Token.appendDigits (1 <<< 31) 0 spelled.exponent
  if left.isEmpty then
    match Number.Double.ofDecimal? significand
        (if spelled.descending then scale - exponent else scale + exponent) with
    | some value => .ok value
    | none => .error 0
  else if significand = 0 ∨ spelled.descending then .ok .zero
  else .error (left.length - 1)

end Spelled

end Minikernel.Json
