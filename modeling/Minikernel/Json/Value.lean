/-!
JSON documents as values. Two things that a document can spell have no plain value: a number
that is no integer of 64 bits, and a string with an unpaired surrogate. Both are kept as
spelled, so that a reader can skip them and writing loses nothing.
-/

namespace Minikernel.Json

/-- A string of a document: text, or code units of which some surrogate is unpaired. -/
inductive Text where
  | plain (text : String)
  | unpaired (units : List Nat)
deriving DecidableEq

inductive Value where
  | null
  | bool (value : Bool)
  | integer (value : Int)
  | decimal (spelling : String)
  | text (value : Text)
  | array (items : List Value)
  | object (members : List (Text × Value))

namespace Value

def string (content : String) : Value :=
  .text (.plain content)

def natural (number : Nat) : Value :=
  .integer number

def record (members : List (String × Value)) : Value :=
  .object (members.map fun member => (.plain member.1, member.2))

def ofOption (encode : α → Value) : Option α → Value
  | none => .null
  | some value => encode value

def natural? (bound : Nat) : Value → Option Nat
  | .integer (.ofNat number) => if number < bound then some number else none
  | _ => none

def integer? (low high : Int) : Value → Option Int
  | .integer number => if low ≤ number ∧ number ≤ high then some number else none
  | _ => none

def uint8? (value : Value) : Option UInt8 :=
  (value.natural? UInt8.size).map UInt8.ofNat

def uint16? (value : Value) : Option UInt16 :=
  (value.natural? UInt16.size).map UInt16.ofNat

def uint32? (value : Value) : Option UInt32 :=
  (value.natural? UInt32.size).map UInt32.ofNat

def uint64? (value : Value) : Option UInt64 :=
  (value.natural? UInt64.size).map UInt64.ofNat

def int32? (value : Value) : Option Int32 :=
  (value.integer? Int32.minValue.toInt Int32.maxValue.toInt).map Int32.ofInt

def bool? : Value → Option Bool
  | .bool value => some value
  | _ => none

def string? : Value → Option String
  | .text (.plain content) => some content
  | _ => none

def list? (decode : Value → Option α) : Value → Option (List α)
  | .array items => items.mapM decode
  | _ => none

def nullable? (decode : Value → Option α) : Value → Option (Option α)
  | .null => some none
  | value => (decode value).map some

/-- The name of a variant without content: its text, or an object that gives it null. -/
def variant? : Value → Option String
  | .text (.plain name) => some name
  | .object [(.plain name, .null)] => some name
  | _ => none

end Value

end Minikernel.Json
