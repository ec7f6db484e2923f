import Minikernel.Json.Fault
import Minikernel.Json.Number
import Minikernel.Json.Token
import Minikernel.Text.Utf8

/-!
The first fault of a document that should be a record. An inspection goes through the bytes
of a text from left to right and stops at the first of them that cannot be right; a byte is
looked at as the character of its number. Values that nobody asked for are only skipped, and
fields may come in any order.
-/

namespace Minikernel.Json

structure Cursor where
  place : Place
  rest : List Char

def Cursor.next (cursor : Cursor) : Cursor :=
  match cursor.rest with
  | [] => cursor
  | byte :: rest => ⟨cursor.place.after byte, rest⟩

def Cursor.dropWhile (cursor : Cursor) (test : Char → Bool) : Cursor :=
  ⟨cursor.place.afterAll (cursor.rest.takeWhile test), cursor.rest.dropWhile test⟩

abbrev Inspection := StateT Cursor (Except Fault)

namespace Inspection

def failAt (place : Place) (cause : Cause) : Inspection α := fun _ =>
  .error ⟨cause, place⟩

def failHere (cause : Cause) : Inspection α := fun cursor =>
  .error ⟨cause, cursor.place⟩

def failNext (cause : Cause) : Inspection α := fun cursor =>
  .error ⟨cause, cursor.next.place⟩

/-- Fails with one cause at the end of the text, and with another at the next byte. -/
def fail (atEnd otherwise : Cause) : Inspection α := fun cursor =>
  if cursor.rest.isEmpty then failHere atEnd cursor else failNext otherwise cursor

def peek : Inspection (Option Char) := fun cursor => .ok (cursor.rest.head?, cursor)

def skip : Inspection Unit := fun cursor => .ok ((), cursor.next)

def blanks : Inspection (Option Char) := do
  modify fun cursor => cursor.dropWhile Token.isBlank
  peek

def spelling (inspection : Inspection Unit) : Inspection (List Char) := do
  let before ← get
  inspection
  let after ← get
  return before.rest.take (before.rest.length - after.rest.length)

def keyword : List Char → Inspection Unit
  | [] => return ()
  | letter :: rest => do
      if (← peek) = some letter then
        skip
        keyword rest
      else fail .endOfValue .noKeyword

def digits (atEnd : Cause) : Inspection Unit := do
  match ← peek with
  | some byte =>
      if Token.isDigit byte then modify fun cursor => cursor.dropWhile Token.isDigit
      else failNext .badNumber
  | none => failHere atEnd

def exponent (atEnd : Cause) : Inspection Unit := do
  if (← peek) = some 'e' ∨ (← peek) = some 'E' then
    skip
    if (← peek) = some '+' ∨ (← peek) = some '-' then skip
    digits atEnd

def number (atEnd : Cause) : Inspection Unit := do
  if (← peek) = some '0' then
    skip
    if (← peek).any Token.isDigit then failNext .badNumber
  else digits atEnd
  if (← peek) = some '.' then
    skip
    digits atEnd
  exponent atEnd

def pushCode (code : Nat) (before : List Char) : List Char :=
  ((String.utf8EncodeChar (Char.ofNat code)).map Char.ofUInt8).reverse ++ before

/-- The bytes of a string after its opening quote; `before` holds those so far, last first.
A surrogate has to be one of a pair if `paired` is set, and `high` is one that waits for
the other. -/
def textFrom (paired : Bool) (high : Option Nat) (before : List Char) (place : Place) :
    List Char → Except Fault (List Char × Cursor)
  | [] => .error ⟨.endOfString, place⟩
  | '\\' :: 'u' :: first :: second :: third :: fourth :: rest =>
      let place := place.afterAll ['\\', 'u', first, second, third, fourth]
      match Token.unit? first second third fourth, high with
      | none, _ => .error ⟨.badEscape, place⟩
      | some unit, some high =>
          if Token.isLowSurrogate unit then
            let code := 0x10000 + (high - 0xd800) * 0x400 + (unit - 0xdc00)
            textFrom paired none (pushCode code before) place rest
          else .error ⟨.unpairedEscape, place⟩
      | some unit, none =>
          if paired && Token.isLowSurrogate unit then .error ⟨.unpairedEscape, place⟩
          else if paired && Token.isHighSurrogate unit then
            textFrom paired (some unit) before place rest
          else textFrom paired none (pushCode unit before) place rest
  | '\\' :: 'u' :: rest => .error ⟨.endOfString, place.afterAll ('\\' :: 'u' :: rest)⟩
  | ['\\'] => .error ⟨.endOfString, place.after '\\'⟩
  | '\\' :: letter :: rest =>
      let place := place.afterAll ['\\', letter]
      if high.isSome then .error ⟨.missingEscape, place⟩
      else
        match Token.escaped? letter with
        | some character => textFrom paired none (character :: before) place rest
        | none => .error ⟨.badEscape, place⟩
  | byte :: rest =>
      if high.isSome then .error ⟨.missingEscape, place.after byte⟩
      else if byte = '"' then .ok (before.reverse, ⟨place.after byte, rest⟩)
      else if byte.toNat < 0x20 then
        .error ⟨.controlCharacter, if paired then place.after byte else place⟩
      else textFrom paired none (byte :: before) (place.after byte) rest

def text : Inspection String := fun cursor => do
  let (bytes, cursor) ← textFrom true none [] cursor.place cursor.rest
  return (Text.Utf8.lossy (bytes.map Char.toUInt8), cursor)

def skipText : Inspection Unit := fun cursor => do
  let (_, cursor) ← textFrom false none [] cursor.place cursor.rest
  return ((), cursor)

def colon : Inspection Unit := do
  if (← blanks) = some ':' then skip else fail .endOfObject .noColon

inductive Container where
  | array
  | object

def skipName : Inspection Unit := do
  if (← blanks) ≠ some '"' then fail .endOfObject .noKey
  skip
  skipText
  colon

def skipStart : Inspection (Option Container) := do
  match ← blanks with
  | some 'n' => skip; keyword ['u', 'l', 'l']; return none
  | some 't' => skip; keyword ['r', 'u', 'e']; return none
  | some 'f' => skip; keyword ['a', 'l', 's', 'e']; return none
  | some '-' => skip; number .badNumber; return none
  | some '"' => skip; skipText; return none
  | some '[' =>
      skip
      match ← blanks with
      | none => failHere .endOfList
      | some ']' => skip; return none
      | some _ => return some .array
  | some '\x7b' =>
      skip
      match ← blanks with
      | none => failHere .endOfObject
      | some '\x7d' => skip; return none
      | some _ => skipName; return some .object
  | some byte =>
      if Token.isDigit byte then number .badNumber; return none
      else failNext .noValue
  | none => failHere .endOfValue

def skipEnds : List Container → Inspection (List Container)
  | [] => return []
  | .array :: outer => do
      match ← blanks with
      | some ',' => skip; return .array :: outer
      | some ']' => skip; skipEnds outer
      | _ => fail .endOfList .noListEnd
  | .object :: outer => do
      match ← blanks with
      | some ',' => skip; skipName; return .object :: outer
      | some '\x7d' => skip; skipEnds outer
      | _ => fail .endOfObject .noObjectEnd

/-- Skips values to the end of all open containers. Every round takes a byte, so the length of
the text bounds their number. -/
def skipValues (opened : List Container) : Nat → Inspection Unit
  | 0 => failHere .noValue
  | bound + 1 => do
      match ← skipStart with
      | some container => skipValues (container :: opened) bound
      | none =>
          match ← skipEnds opened with
          | [] => return ()
          | others => skipValues others bound

/-- The number that comes next: an integer of 64 bits, or any other number as a floating point
number. One that is too large is faulted at the digit that shows it. -/
def numberFound : Inspection Found := do
  let negative := (← peek) = some '-'
  if negative then skip
  let before := (← get).place
  let unsigned ← spelling (number .endOfValue)
  match if unsigned.all Token.isDigit then Token.integer? negative unsigned else none with
  | some value => return .integer value
  | none =>
      match (Spelled.ofCharacters unsigned).value with
      | .ok value => return .float negative value
      | .error unread =>
          failAt (before.afterAll (unsigned.take (unsigned.length - unread))) .outOfRange

def refuse (wanted : String) : Inspection Unit := do
  match ← blanks with
  | some 'n' => skip; keyword ['u', 'l', 'l']; failHere (.wrongKind .null wanted)
  | some 't' => skip; keyword ['r', 'u', 'e']; failHere (.wrongKind (.bool true) wanted)
  | some 'f' => skip; keyword ['a', 'l', 's', 'e']; failHere (.wrongKind (.bool false) wanted)
  | some '"' => skip; failHere (.wrongKind (.text (← text)) wanted)
  | some '[' => failHere (.wrongKind .list wanted)
  | some '\x7b' => failHere (.wrongKind .object wanted)
  | some byte =>
      if byte = '-' ∨ Token.isDigit byte then failHere (.wrongKind (← numberFound) wanted)
      else failNext .noValue
  | none => failHere .endOfValue

def natural (wanted : String) : Inspection Unit := do
  match ← blanks with
  | some byte =>
      if byte = '-' ∨ Token.isDigit byte then
        match ← numberFound with
        | .integer value =>
            if value < 0 then failHere (.wrongValue (.integer value) wanted)
        | found => failHere (.wrongKind found wanted)
      else refuse wanted
  | none => refuse wanted

def bool (wanted : String) : Inspection Unit := do
  match ← blanks with
  | some 't' => skip; keyword ['r', 'u', 'e']
  | some 'f' => skip; keyword ['a', 'l', 's', 'e']
  | _ => refuse wanted

def nullableText (wanted : String) : Inspection Unit := do
  match ← blanks with
  | some 'n' => skip; keyword ['u', 'l', 'l']
  | some '"' => do
      skip
      let _ ← text
  | _ => refuse wanted

def listEnd : Inspection Unit := do
  match ← blanks with
  | some ']' => skip
  | some ',' =>
      skip
      if (← blanks) = some ']' then failNext .trailingComma else failNext .trailingCharacters
  | _ => fail .endOfList .trailingCharacters

def items (first : Bool) : List (Inspection Unit) → Inspection Unit
  | [] => listEnd
  | item :: others => do
      match ← blanks with
      | none => failHere .endOfList
      | some ']' => skip
      | some byte =>
          if !first then
            if byte ≠ ',' then failNext .noListEnd
            skip
            if (← blanks) = some ']' then failNext .trailingComma
            if (← peek) = none then failHere .endOfValue
          item
          items false others

def memberName (first : Bool) : Inspection (Option String) := do
  match ← blanks with
  | none => failHere .endOfObject
  | some '\x7d' =>
      skip
      return none
  | some byte =>
      if !first then
        if byte ≠ ',' then failNext .noObjectEnd
        skip
        if (← blanks) = some '\x7d' then failNext .trailingComma
        if (← peek) = none then failHere .endOfValue
      if (← peek) ≠ some '"' then failNext .noKey
      skip
      return some (← text)

def members (fields : List (String × Inspection Unit)) (first : Bool) (seen : List String) :
    Nat → Inspection Unit
  | 0 => failHere .noValue
  | bound + 1 => do
      match ← memberName first with
      | none => return ()
      | some name =>
          match fields.find? fun field => field.1 = name with
          | none =>
              colon
              skipValues [] (bound + 1)
              members fields false seen bound
          | some field =>
              if name ∈ seen then
                if (← blanks) = some '\x7d' then skip
                failHere (.repeated name)
              colon
              field.2
              members fields false (name :: seen) bound

def record (wanted : String) (fields : List (String × Inspection Unit)) : Inspection Unit := do
  match ← blanks with
  | some '[' =>
      skip
      items true (fields.map Prod.snd)
  | some '\x7b' =>
      skip
      members fields true [] ((← get).rest.length + 1)
  | _ => refuse wanted
  if (← blanks) ≠ none then failNext .trailingCharacters

/-- The fault that an inspection of a text finds. A text that passes is faulted at its start,
so that there is always a place to name. -/
def fault (inspection : Inspection Unit) (bytes : Bytes) : Fault :=
  match inspection ⟨.start, bytes.map Char.ofUInt8⟩ with
  | .error fault => fault
  | .ok _ => ⟨.noValue, .start⟩

end Inspection

end Minikernel.Json
