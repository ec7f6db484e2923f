import Minikernel.Json.Value
import Minikernel.Text.Hex

/-!
The compact text of a JSON value: no space between tokens, members in their order, and in a
string an escape only where the format demands one.
-/

namespace Minikernel.Json

def escapedUnit (unit : Nat) : String :=
  "\\u" ++ Text.Hex.padded 4 unit

def escapedCharacter (character : Char) : String :=
  if character = '"' then "\\\""
  else if character = '\\' then "\\\\"
  else if character = '\x08' then "\\b"
  else if character = '\t' then "\\t"
  else if character = '\n' then "\\n"
  else if character = '\x0c' then "\\f"
  else if character = '\r' then "\\r"
  else if character.toNat < 0x20 then escapedUnit character.toNat
  else character.toString

def Text.write : Text → String
  | .plain text => "\"" ++ String.join (text.toList.map escapedCharacter) ++ "\""
  | .unpaired units => "\"" ++ String.join (units.map escapedUnit) ++ "\""

mutual

def Value.pieces : Value → List String
  | .null => ["null"]
  | .bool true => ["true"]
  | .bool false => ["false"]
  | .integer number => [toString number]
  | .decimal spelling => [spelling]
  | .text text => [text.write]
  | .array [] => ["[]"]
  | .array (item :: items) => "[" :: (item.pieces ++ itemPieces items)
  | .object [] => ["\x7b\x7d"]
  | .object ((name, value) :: members) =>
      "\x7b" :: name.write :: ":" :: (value.pieces ++ memberPieces members)

def itemPieces : List Value → List String
  | [] => ["]"]
  | item :: items => "," :: (item.pieces ++ itemPieces items)

def memberPieces : List (Text × Value) → List String
  | [] => ["\x7d"]
  | (name, value) :: members =>
      "," :: name.write :: ":" :: (value.pieces ++ memberPieces members)

end

def Value.write (value : Value) : String :=
  String.join value.pieces

end Minikernel.Json
