import Minikernel.Json.Token

/-!
The JSON value that a text spells. The grammar is read off the tokens: an array is its items
with a comma between each two, an object likewise its members, and nothing follows the value.
-/

namespace Minikernel.Json

mutual

/-- The value that tokens start with, and the tokens after it. Every call takes a token, so
the number of tokens bounds the depth of the calls. -/
def value? : Nat → List Token → Option (Value × List Token)
  | 0, _ => none
  | _ + 1, .null :: rest => some (.null, rest)
  | _ + 1, .bool value :: rest => some (.bool value, rest)
  | _ + 1, .integer number :: rest => some (.integer number, rest)
  | _ + 1, .decimal spelling :: rest => some (.decimal spelling, rest)
  | _ + 1, .text text :: rest => some (.text text, rest)
  | _ + 1, .openArray :: .closeArray :: rest => some (.array [], rest)
  | bound + 1, .openArray :: rest => items? bound [] rest
  | _ + 1, .openObject :: .closeObject :: rest => some (.object [], rest)
  | bound + 1, .openObject :: rest => members? bound [] rest
  | _ + 1, _ => none

def items? : Nat → List Value → List Token → Option (Value × List Token)
  | 0, _, _ => none
  | bound + 1, before, tokens =>
      match value? bound tokens with
      | some (item, .comma :: rest) => items? bound (item :: before) rest
      | some (item, .closeArray :: rest) => some (.array (item :: before).reverse, rest)
      | _ => none

def members? : Nat → List (Text × Value) → List Token → Option (Value × List Token)
  | bound + 1, before, .text name :: .colon :: tokens =>
      match value? bound tokens with
      | some (value, .comma :: rest) => members? bound ((name, value) :: before) rest
      | some (value, .closeObject :: rest) =>
          some (.object ((name, value) :: before).reverse, rest)
      | _ => none
  | _, _, _ => none

end

def read? (text : String) : Option Value := do
  let tokens ← tokens? text.toList
  match value? (tokens.length + 1) tokens with
  | some (value, []) => some value
  | _ => none

end Minikernel.Json
