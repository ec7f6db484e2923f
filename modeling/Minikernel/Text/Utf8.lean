import Minikernel.Bytes

/-!
Text as UTF-8 bytes. `encode` and `decode` are inverse to each other on well-formed input;
where bytes spell no text, `decode` says at which byte and why, and `lossy` puts one
replacement character for each maximal ill-formed piece.
-/

namespace Minikernel.Text.Utf8

def encode (text : String) : Bytes :=
  text.toList.flatMap String.utf8EncodeChar

inductive Piece where
  | character (value : Char)
  | invalid (length : Nat)
  | truncated
deriving DecidableEq

def within (low high byte : UInt8) : Bool :=
  low ≤ byte && byte ≤ high

def lead? (byte : UInt8) : Option (Nat × UInt8 × UInt8) :=
  if within 0xc2 0xdf byte then some (2, 0x80, 0xbf)
  else if byte = 0xe0 then some (3, 0xa0, 0xbf)
  else if byte = 0xed then some (3, 0x80, 0x9f)
  else if within 0xe1 0xef byte then some (3, 0x80, 0xbf)
  else if byte = 0xf0 then some (4, 0x90, 0xbf)
  else if within 0xf1 0xf3 byte then some (4, 0x80, 0xbf)
  else if byte = 0xf4 then some (4, 0x80, 0x8f)
  else none

/-- How far a sequence of `width` bytes is well formed, when `length` of them were and
`rest` follows. -/
def follow (width length : Nat) : Bytes → Piece
  | [] => if length < width then .truncated else .invalid length
  | byte :: rest =>
      if length < width ∧ within 0x80 0xbf byte then follow width (length + 1) rest
      else .invalid length

def fault (byte : UInt8) (rest : Bytes) : Piece :=
  match lead? byte with
  | none => .invalid 1
  | some (width, low, high) =>
      match rest with
      | [] => .truncated
      | second :: others =>
          if within low high second then follow width 2 others else .invalid 1

def piece (byte : UInt8) (rest : Bytes) : Piece :=
  match ((byte :: rest.take 3).toByteArray).utf8DecodeChar? 0 with
  | some value => .character value
  | none => fault byte rest

def Piece.extra (rest : Bytes) : Piece → Nat
  | .character value => value.utf8Size - 1
  | .invalid length => length - 1
  | .truncated => rest.length

/-- Where and how a byte string stops being UTF-8: the index of the first bad byte, and the
length of the ill-formed piece, or nothing when the input ends inside a character. -/
structure Fault where
  index : Nat
  length : Option Nat
deriving DecidableEq

def Fault.message (found : Fault) : String :=
  match found.length with
  | some length => s!"invalid utf-8 sequence of {length} bytes from index {found.index}"
  | none => s!"incomplete utf-8 byte sequence from index {found.index}"

def decodeFrom (index : Nat) (before : List Char) : Bytes → Except Fault String
  | [] => .ok (String.ofList before.reverse)
  | byte :: rest =>
      match piece byte rest with
      | .character value =>
          decodeFrom (index + value.utf8Size) (value :: before) (rest.drop (value.utf8Size - 1))
      | .invalid length => .error ⟨index, some length⟩
      | .truncated => .error ⟨index, none⟩
termination_by bytes => bytes.length
decreasing_by simp only [List.length_cons, List.length_drop]; omega

def decode (bytes : Bytes) : Except Fault String :=
  decodeFrom 0 [] bytes

def decode? (bytes : Bytes) : Option String :=
  (decode bytes).toOption

def replacement : Char := Char.ofNat 0xfffd

def lossyFrom (before : List Char) : Bytes → List Char
  | [] => before.reverse
  | byte :: rest =>
      let found := piece byte rest
      let shown := match found with
        | .character value => value
        | .invalid _ | .truncated => replacement
      lossyFrom (shown :: before) (rest.drop (found.extra rest))
termination_by bytes => bytes.length
decreasing_by simp only [List.length_cons, List.length_drop]; omega

/-- The text of bytes with a replacement character for each maximal ill-formed piece. -/
def lossy (bytes : Bytes) : String :=
  String.ofList (lossyFrom [] bytes)

end Minikernel.Text.Utf8
