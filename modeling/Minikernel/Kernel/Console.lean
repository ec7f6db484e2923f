import Minikernel.Text.Utf8

/-!
The console: a queue of input bytes, and every byte of output that was not taken yet.
-/

namespace Minikernel

structure Console where
  input : Bytes
  output : Bytes
  echoes : Bool
deriving DecidableEq

namespace Console

def fresh (echoes : Bool) : Console := ⟨[], [], echoes⟩

def write (console : Console) (bytes : Bytes) : Console :=
  { console with output := console.output ++ bytes }

def read (console : Console) (limit : Nat) : Bytes × Console :=
  (console.input.take limit, { console with input := console.input.drop limit })

def feed (console : Console) (bytes : Bytes) : Console :=
  { console with input := console.input ++ bytes }

def outputText (console : Console) : String :=
  Text.Utf8.lossy console.output

def takeOutput (console : Console) : Bytes × Console :=
  (console.output, { console with output := [] })

end Console

end Minikernel
