import Minikernel.Number.Shortest
import Minikernel.Text.Quoted

/-!
What is wrong with a document, and where. A place is a line, counted from one, and the number
of bytes before it on that line.
-/

namespace Minikernel.Json

structure Place where
  line : Nat
  column : Nat
deriving DecidableEq

namespace Place

def start : Place := ⟨1, 0⟩

def after (place : Place) (byte : Char) : Place :=
  if byte = '\n' then ⟨place.line + 1, 0⟩ else ⟨place.line, place.column + 1⟩

def afterAll (place : Place) (bytes : List Char) : Place :=
  bytes.foldl after place

end Place

inductive Found where
  | null
  | bool (value : Bool)
  | integer (value : Int)
  | float (negative : Bool) (value : Number.Double)
  | text (value : String)
  | list
  | object
deriving DecidableEq

def Found.title : Found → String
  | null => "null"
  | bool true => "boolean `true`"
  | bool false => "boolean `false`"
  | integer value => s!"integer `{value}`"
  | float true value => s!"floating point `-{value.text}`"
  | float false value => s!"floating point `{value.text}`"
  | text value => s!"string {Text.quoted value}"
  | list => "sequence"
  | object => "map"

inductive Cause where
  | endOfList
  | endOfObject
  | endOfString
  | endOfValue
  | noColon
  | noListEnd
  | noObjectEnd
  | noKeyword
  | noValue
  | noKey
  | badEscape
  | badNumber
  | outOfRange
  | controlCharacter
  | unpairedEscape
  | missingEscape
  | trailingComma
  | trailingCharacters
  | repeated (name : String)
  | wrongKind (found : Found) (wanted : String)
  | wrongValue (found : Found) (wanted : String)
deriving DecidableEq

def Cause.message : Cause → String
  | endOfList => "EOF while parsing a list"
  | endOfObject => "EOF while parsing an object"
  | endOfString => "EOF while parsing a string"
  | endOfValue => "EOF while parsing a value"
  | noColon => "expected `:`"
  | noListEnd => "expected `,` or `]`"
  | noObjectEnd => "expected `,` or `\x7d`"
  | noKeyword => "expected ident"
  | noValue => "expected value"
  | noKey => "key must be a string"
  | badEscape => "invalid escape"
  | badNumber => "invalid number"
  | outOfRange => "number out of range"
  | controlCharacter => "control character (\\u0000-\\u001F) found while parsing a string"
  | unpairedEscape => "lone leading surrogate in hex escape"
  | missingEscape => "unexpected end of hex escape"
  | trailingComma => "trailing comma"
  | trailingCharacters => "trailing characters"
  | repeated name => s!"duplicate field `{name}`"
  | wrongKind found wanted => s!"invalid type: {found.title}, expected {wanted}"
  | wrongValue found wanted => s!"invalid value: {found.title}, expected {wanted}"

structure Fault where
  cause : Cause
  place : Place
deriving DecidableEq

def Fault.message (fault : Fault) : String :=
  s!"{fault.cause.message} at line {fault.place.line} column {fault.place.column}"

end Minikernel.Json
