import Minikernel.Image.Section
import Minikernel.Image.Varint
import Minikernel.Text.Utf8

/-!
The stored form of an image. Numbers and lengths are varints; a text is its length and its
bytes, a list its length and its items. Writing refuses an image of more than
`Limits.maxImageBytes`; reading has no such bound, and every byte has to be used.
-/

namespace Minikernel

inductive DecodeError where
  | endOfInput
  | shortText
  | wideNumber
  | reservedByte
  | outOfRange (bits value : Nat)
  | badText (fault : Text.Utf8.Fault)
  | trailing
deriving DecidableEq

def DecodeError.message : DecodeError → String
  | endOfInput => "io error: unexpected end of file"
  | shortText => "io error: "
  | wideNumber =>
      "Invalid value (u128 range): you may have a version or configuration disagreement?"
  | reservedByte =>
      "\nByte 255 is treated as an extension point; it should not be encoding anything.\n" ++
        "Do you have a mismatched bincode version or configuration?\n"
  | outOfRange bits value =>
      s!"Invalid u{bits} {value}: you may have a version disagreement?"
  | badText fault => s!"string is not valid utf8: {fault.message}"
  | trailing => "Slice had bytes remaining after deserialization"

inductive EncodeError where
  | sizeLimit
deriving DecidableEq

def EncodeError.message : EncodeError → String
  | sizeLimit => "the size limit has been reached"

abbrev Reader := StateT Bytes (Except DecodeError)

namespace Reader

def number : Reader Nat := fun bytes =>
  match Varint.decode bytes with
  | .ok result => .ok result
  | .error .endOfInput => .error .endOfInput
  | .error .wide => .error .wideNumber
  | .error .reserved => .error .reservedByte

def bounded (bits : Nat) : Reader Nat := do
  let value ← number
  if value < 1 <<< bits then return value else throw (.outOfRange bits value)

def block (length : Nat) (missing : DecodeError) : Reader Bytes := fun bytes =>
  let taken := bytes.take length
  if taken.length = length then .ok (taken, bytes.drop length) else .error missing

def text : Reader String := do
  let length ← number
  let bytes ← block length .shortText
  match Text.Utf8.decode bytes with
  | .ok value => return value
  | .error fault => throw (.badText fault)

def data : Reader Bytes := do
  let length ← number
  block length .endOfInput

def part : Reader Section := do
  let name ← text
  let firstPage ← bounded 32
  let pageCount ← bounded 32
  let contents ← data
  return ⟨name, UInt32.ofNat firstPage, UInt32.ofNat pageCount, contents⟩

def parts : Nat → Reader (List Section)
  | 0 => return []
  | count + 1 => do
      let first ← part
      let others ← parts count
      return first :: others

def image : Reader Image := do
  let magic ← bounded 16
  let entry ← text
  let count ← number
  let sections ← parts count
  return ⟨UInt16.ofNat magic, entry, sections⟩

end Reader

namespace Section

def encode (part : Section) : Bytes :=
  let name := Text.Utf8.encode part.name
  Varint.encode name.length ++ name ++ Varint.encode part.firstPage.toNat ++
    Varint.encode part.pageCount.toNat ++ Varint.encode part.data.length ++ part.data

def encodedSize (part : Section) : Nat :=
  Varint.encodedSize part.name.utf8ByteSize + part.name.utf8ByteSize +
    Varint.encodedSize part.firstPage.toNat + Varint.encodedSize part.pageCount.toNat +
    Varint.encodedSize part.data.length + part.data.length

def totalEncodedSize : List Section → Nat
  | [] => 0
  | part :: rest => part.encodedSize + totalEncodedSize rest

end Section

namespace Image

def bytes (image : Image) : Bytes :=
  let entry := Text.Utf8.encode image.entry
  Varint.encode image.magic.toNat ++ Varint.encode entry.length ++ entry ++
    Varint.encode image.sections.length ++ image.sections.flatMap Section.encode

def encodedSize (image : Image) : Nat :=
  Varint.encodedSize image.magic.toNat + Varint.encodedSize image.entry.utf8ByteSize +
    image.entry.utf8ByteSize + Varint.encodedSize image.sections.length +
    Section.totalEncodedSize image.sections

def storedSize (image : Image) : Except EncodeError Nat :=
  if image.encodedSize ≤ Limits.maxImageBytes then .ok image.encodedSize
  else .error .sizeLimit

def encode (image : Image) : Except EncodeError Bytes := do
  let _ ← image.storedSize
  return image.bytes

def decode (stored : Bytes) : Except DecodeError Image :=
  match Reader.image stored with
  | .ok (image, []) => .ok image
  | .ok (_, _ :: _) => .error .trailing
  | .error error => .error error

end Image

end Minikernel
