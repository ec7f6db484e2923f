import Minikernel.Memory.AddressSpace

/-!
The arguments of a process. They are laid out in the last page of its memory: a pointer for
each, then the bytes of each with a zero after them. `marshal` writes that layout and
`unmarshal` reads it back.
-/

namespace Minikernel

inductive MarshalError where
  | tooManyArgs (count max : Nat)
  | argTooLong (index length max : Nat)
  | argsTooLarge (needed capacity : Nat)
  | embeddedNul (index : Nat)
  | memory (cause : MemoryError)
deriving DecidableEq

namespace MarshalError

def message : MarshalError → String
  | tooManyArgs count max => s!"Too many arguments: {count} (max {max})"
  | argTooLong index length max => s!"Argument {index} too long: {length} bytes (max {max})"
  | argsTooLarge needed capacity =>
      s!"Arguments need {needed} bytes, argument page holds {capacity}"
  | embeddedNul index => s!"Argument {index} contains a NUL byte"
  | memory cause => s!"Argument page write failed: {cause.message}"

def code : MarshalError → String
  | tooManyArgs .. => "marshal::too_many_args"
  | argTooLong .. => "marshal::arg_too_long"
  | argsTooLarge .. => "marshal::args_too_large"
  | embeddedNul _ => "marshal::embedded_nul"
  | memory _ => "marshal::memory"

def help : MarshalError → Option String
  | embeddedNul _ => some "Arguments are passed as C strings and cannot contain NUL."
  | _ => none

end MarshalError

abbrev Arguments := List Bytes

structure ArgumentLayout where
  count : UInt32
  pointers : UInt32
deriving DecidableEq

namespace Arguments

def layoutSize : Arguments → Nat
  | [] => 0
  | argument :: rest => Limits.pointerSize + argument.length + 1 + layoutSize rest

def checkEach (index : Nat) : Arguments → Except MarshalError Unit
  | [] => .ok ()
  | argument :: rest =>
      if argument.length > Limits.maxStringLength then
        .error (.argTooLong index argument.length Limits.maxStringLength)
      else if 0 ∈ argument then .error (.embeddedNul index)
      else checkEach (index + 1) rest

def validate (arguments : Arguments) : Except MarshalError Unit := do
  if arguments.length > Limits.maxArguments then
    throw (.tooManyArgs arguments.length Limits.maxArguments)
  checkEach 0 arguments
  if arguments.layoutSize > Limits.pageSize then
    throw (.argsTooLarge arguments.layoutSize Limits.pageSize)

/-- Writes pointers from `pointer` on and the arguments themselves from `target` on. -/
def writeEach (pointer target : UInt32) :
    Arguments → AddressSpace → Except MemoryError AddressSpace
  | [], space => .ok space
  | argument :: rest, space => do
      let space ← space.writeWord pointer target
      let space ← space.writeExact target argument
      let final := target + UInt32.ofNat argument.length
      let space ← space.writeExact final [0]
      writeEach (pointer + UInt32.ofNat Limits.pointerSize) (final + 1) rest space

def marshal (arguments : Arguments) (space : AddressSpace) :
    Except MarshalError (ArgumentLayout × AddressSpace) := do
  arguments.validate
  let base := space.argumentPage
  let target := base + UInt32.ofNat (arguments.length * Limits.pointerSize)
  let space ← (writeEach base target arguments space).mapError MarshalError.memory
  return (⟨UInt32.ofNat arguments.length, base⟩, space)

def readEach (space : AddressSpace) (pointers : UInt32) : Nat → Nat → Option Arguments
  | _, 0 => some []
  | index, count + 1 => do
      let slot := pointers + UInt32.ofNat (index * Limits.pointerSize)
      let pointer ← (space.readWord slot).toOption
      let argument ← space.stringAt? pointer
      let rest ← readEach space pointers (index + 1) count
      return argument :: rest

def unmarshal (space : AddressSpace) (layout : ArgumentLayout) : Option Arguments :=
  readEach space layout.pointers 0 layout.count.toNat

end Arguments

end Minikernel
