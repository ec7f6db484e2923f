import Minikernel.Memory.Frames
import Minikernel.Text.Quoted

/-!
Why an executable could not be loaded. A missing image has a cause of its own, so that a
caller can try another name.
-/

namespace Minikernel

inductive LoadError where
  | invalidName (name : String)
  | notFound (name : String)
  | malformed (name reason : String)
  | badMagic (name : String) (found : UInt16)
  | fragmented (name part : String) (firstPage expected : UInt32)
  | unknownEntry (name entry : String)
  | memory (name : String) (cause : MemoryError)
deriving DecidableEq

namespace LoadError

def message : LoadError → String
  | invalidName name => s!"Invalid executable name: {Text.quoted name}"
  | notFound name => s!"Executable not found: {name}"
  | malformed name reason => s!"Malformed executable {name}: {reason}"
  | badMagic name found => s!"Bad magic in {name}: 0x{Text.Hex.padded 4 found.toNat}"
  | fragmented name part firstPage expected =>
      s!"Fragmented executable {name}: section {part} starts at page {firstPage}, " ++
        s!"expected {expected}"
  | unknownEntry name entry => s!"Unknown entry point {entry} in {name}"
  | memory name cause => s!"Insufficient memory for {name}: {cause.message}"

def code : LoadError → String
  | invalidName _ => "loader::invalid_name"
  | notFound _ => "loader::not_found"
  | malformed .. => "loader::malformed"
  | badMagic .. => "loader::bad_magic"
  | fragmented .. => "loader::fragmented"
  | unknownEntry .. => "loader::unknown_entry"
  | memory .. => "loader::insufficient_memory"

def help : LoadError → Option String
  | invalidName _ =>
      some "Executable names are non-empty, at most 256 bytes and end in `.coff`."
  | fragmented .. => some "Sections must be contiguous and start at page 0."
  | _ => none

end LoadError

end Minikernel
