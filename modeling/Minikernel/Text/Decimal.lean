/-!
Whole numbers written in decimal digits.
-/

namespace Minikernel.Text.Decimal

def digit? (character : Char) : Option Nat :=
  if '0' ≤ character ∧ character ≤ '9' then some (character.toNat - 48) else none

def digitsFrom? (limit start : Nat) : List Char → Option Nat
  | [] => some start
  | character :: rest =>
      match digit? character with
      | some digit =>
          if start * 10 + digit < limit then digitsFrom? limit (start * 10 + digit) rest
          else none
      | none => none

def unsigned? (limit : Nat) : List Char → Option Nat
  | [] => none
  | ['+'] => none
  | '+' :: digits => digitsFrom? limit 0 digits
  | digits => digitsFrom? limit 0 digits

end Minikernel.Text.Decimal
