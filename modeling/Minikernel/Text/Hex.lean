/-!
Numbers in lower-case hexadecimal.
-/

namespace Minikernel.Text.Hex

def digits (number : Nat) : String :=
  String.ofList (Nat.toDigits 16 number)

def padded (width number : Nat) : String :=
  let shortest := Nat.toDigits 16 number
  String.ofList (List.replicate (width - shortest.length) '0' ++ shortest)

end Minikernel.Text.Hex
