import Minikernel.Bytes

/-!
Whole numbers in as few bytes as their size needs: a small number is its own byte, a larger
one follows a mark that gives its width, lowest byte first. Writing takes the shortest form,
reading accepts every form.
-/

namespace Minikernel.Varint

def maxSingle : Nat := 250

def encode (number : Nat) : Bytes :=
  if number ≤ maxSingle then [UInt8.ofNat number]
  else if number < UInt16.size then 251 :: Bytes.littleEndian 2 number
  else if number < UInt32.size then 252 :: Bytes.littleEndian 4 number
  else 253 :: Bytes.littleEndian 8 number

def encodedSize (number : Nat) : Nat :=
  if number ≤ maxSingle then 1
  else if number < UInt16.size then 3
  else if number < UInt32.size then 5
  else 9

inductive Error where
  | endOfInput
  | wide
  | reserved
deriving DecidableEq

def fixed (count : Nat) (bytes : Bytes) : Except Error (Nat × Bytes) :=
  if (bytes.take count).length = count then
    .ok (Bytes.value (bytes.take count), bytes.drop count)
  else .error .endOfInput

def decode : Bytes → Except Error (Nat × Bytes)
  | [] => .error .endOfInput
  | 251 :: rest => fixed 2 rest
  | 252 :: rest => fixed 4 rest
  | 253 :: rest => fixed 8 rest
  | 254 :: _ => .error .wide
  | 255 :: _ => .error .reserved
  | byte :: rest => .ok (byte.toNat, rest)

theorem encode_length (number : Nat) : (encode number).length = encodedSize number := by
  unfold encode encodedSize
  repeat' split
  all_goals simp [Bytes.littleEndian_length]

end Minikernel.Varint
