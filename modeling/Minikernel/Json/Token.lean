import Minikernel.Json.Value
import Minikernel.Text.Decimal

/-!
The tokens of a JSON text. Blanks between tokens are a space, a tab, a line feed and a
carriage return; two tokens may also stand side by side.
-/

namespace Minikernel.Json

inductive Token where
  | openArray
  | closeArray
  | openObject
  | closeObject
  | colon
  | comma
  | null
  | bool (value : Bool)
  | integer (value : Int)
  | decimal (spelling : String)
  | text (value : Text)
deriving DecidableEq

namespace Token

def isDigit (character : Char) : Bool :=
  '0' ≤ character && character ≤ '9'

def appendDigits (limit number : Nat) : List Char → Nat × List Char
  | [] => (number, [])
  | digit :: rest =>
      let longer := number * 10 + (digit.toNat - 48)
      if longer < limit then appendDigits limit longer rest else (number, digit :: rest)

/-- The integer of 64 bits that digits spell, with a sign or without one. A negative zero is
no integer. -/
def integer? (negative : Bool) (digits : List Char) : Option Int :=
  match appendDigits UInt64.size 0 digits with
  | (number, []) =>
      if !negative then some number
      else if 0 < number ∧ number ≤ UInt64.size / 2 then some (-(number : Int))
      else none
  | (_, _ :: _) => none

def whole? : List Char → Option (List Char × List Char)
  | '0' :: rest => some (['0'], rest)
  | characters =>
      match characters.takeWhile isDigit with
      | [] => none
      | digits => some (digits, characters.dropWhile isDigit)

def fraction? : List Char → Option (List Char × List Char)
  | '.' :: rest =>
      match rest.takeWhile isDigit with
      | [] => none
      | digits => some ('.' :: digits, rest.dropWhile isDigit)
  | characters => some ([], characters)

def sign : List Char → List Char × List Char
  | '+' :: rest => (['+'], rest)
  | '-' :: rest => (['-'], rest)
  | characters => ([], characters)

def exponent? : List Char → Option (List Char × List Char)
  | mark :: rest =>
      if mark = 'e' ∨ mark = 'E' then
        let (signed, afterSign) := sign rest
        match afterSign.takeWhile isDigit with
        | [] => none
        | digits => some (mark :: signed ++ digits, afterSign.dropWhile isDigit)
      else some ([], mark :: rest)
  | [] => some ([], [])

/-- A number without its sign, and what follows it. An integer of 64 bits has a value; any
other number is kept as spelled. -/
def number? (negative : Bool) (characters : List Char) :
    Option (Token × List Char) := do
  let (whole, afterWhole) ← whole? characters
  let (fraction, afterFraction) ← fraction? afterWhole
  let (exponent, rest) ← exponent? afterFraction
  let spelling := (if negative then ['-'] else []) ++ whole ++ fraction ++ exponent
  match integer? negative whole with
  | some number =>
      if fraction = [] ∧ exponent = [] then return (.integer number, rest)
      else return (.decimal (String.ofList spelling), rest)
  | none => return (.decimal (String.ofList spelling), rest)

def hexDigit? (character : Char) : Option Nat :=
  if isDigit character then some (character.toNat - 48)
  else if 'a' ≤ character ∧ character ≤ 'f' then some (character.toNat - 87)
  else if 'A' ≤ character ∧ character ≤ 'F' then some (character.toNat - 55)
  else none

def unit? (first second third fourth : Char) : Option Nat := do
  let high ← hexDigit? first
  let higher ← hexDigit? second
  let lower ← hexDigit? third
  let low ← hexDigit? fourth
  return ((high * 16 + higher) * 16 + lower) * 16 + low

def escaped? : Char → Option Char
  | '"' => some '"'
  | '\\' => some '\\'
  | '/' => some '/'
  | 'b' => some '\x08'
  | 'f' => some '\x0c'
  | 'n' => some '\n'
  | 'r' => some '\r'
  | 't' => some '\t'
  | _ => none

def units? (before : List Nat) : List Char → Option (List Nat × List Char)
  | [] => none
  | '"' :: rest => some (before.reverse, rest)
  | '\\' :: 'u' :: first :: second :: third :: fourth :: rest =>
      match unit? first second third fourth with
      | some unit => units? (unit :: before) rest
      | none => none
  | '\\' :: letter :: rest =>
      match escaped? letter with
      | some character => units? (character.toNat :: before) rest
      | none => none
  | character :: rest =>
      if character.toNat < 0x20 ∨ character = '\\' then none
      else units? (character.toNat :: before) rest

def isHighSurrogate (unit : Nat) : Bool := 0xd800 ≤ unit && unit ≤ 0xdbff

def isLowSurrogate (unit : Nat) : Bool := 0xdc00 ≤ unit && unit ≤ 0xdfff

def characters? (before : List Char) : List Nat → Option (List Char)
  | [] => some before.reverse
  | unit :: rest =>
      if isHighSurrogate unit then
        match rest with
        | low :: others =>
            if isLowSurrogate low then
              characters?
                (Char.ofNat (0x10000 + (unit - 0xd800) * 0x400 + (low - 0xdc00)) :: before) others
            else none
        | [] => none
      else if isLowSurrogate unit then none
      else characters? (Char.ofNat unit :: before) rest

def textOf (units : List Nat) : Text :=
  match characters? [] units with
  | some characters => .plain (String.ofList characters)
  | none => .unpaired units

def read? : List Char → Option (Token × List Char)
  | '[' :: rest => some (.openArray, rest)
  | ']' :: rest => some (.closeArray, rest)
  | '\x7b' :: rest => some (.openObject, rest)
  | '\x7d' :: rest => some (.closeObject, rest)
  | ':' :: rest => some (.colon, rest)
  | ',' :: rest => some (.comma, rest)
  | '"' :: rest => (units? [] rest).map fun (units, after) => (.text (textOf units), after)
  | 'n' :: 'u' :: 'l' :: 'l' :: rest => some (.null, rest)
  | 't' :: 'r' :: 'u' :: 'e' :: rest => some (.bool true, rest)
  | 'f' :: 'a' :: 'l' :: 's' :: 'e' :: rest => some (.bool false, rest)
  | '-' :: rest => number? true rest
  | characters => number? false characters

def isBlank (character : Char) : Bool :=
  character = ' ' || character = '\t' || character = '\n' || character = '\r'

/-- The tokens of a text; `before` holds those so far, last first. Every token takes a
character, so the length of the text bounds their number. -/
def readAll? (before : List Token) : Nat → List Char → Option (List Token)
  | 0, characters => if characters.dropWhile isBlank = [] then some before.reverse else none
  | bound + 1, characters =>
      match characters.dropWhile isBlank with
      | [] => some before.reverse
      | rest =>
          match read? rest with
          | some (token, after) => readAll? (token :: before) bound after
          | none => none

end Token

def tokens? (text : List Char) : Option (List Token) :=
  Token.readAll? [] text.length text

end Minikernel.Json
