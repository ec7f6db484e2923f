import Minikernel.Process.Arguments
import Minikernel.Text.Quoted
import Minikernel.Text.Utf8
import Minikernel.User.Trap

/-!
What a running process can touch without a system call: its number and name, its memory, its
arguments, its stack, and its table of open descriptors.

The stack holds blocks whose sizes are multiples of four. It grows down from the argument
page and never below the image.
-/

namespace Minikernel

inductive OpenFile where
  | consoleIn
  | consoleOut
deriving DecidableEq

structure Context where
  pid : Pid
  name : String
  space : AddressSpace
  arguments : ArgumentLayout
  files : List (Option OpenFile)
  stackPointer : UInt32
deriving DecidableEq

namespace Context

def initialFiles : List (Option OpenFile) :=
  some .consoleIn :: some .consoleOut :: List.replicate (Limits.maxOpenFiles - 2) none

def fresh (pid : Pid) (name : String) (space : AddressSpace) (arguments : ArgumentLayout) :
    Context :=
  ⟨pid, name, space, arguments, initialFiles, space.initialStack⟩

/-- The context with the memory and the stack pointer of another: those are a program's own,
all else belongs to the kernel. -/
def adopt (context changed : Context) : Context :=
  { context with
    space := { context.space with memory := changed.space.memory }
    stackPointer := changed.stackPointer }

def file? (context : Context) (descriptor : Int32) : Option OpenFile :=
  if descriptor < 0 then none
  else (context.files[descriptor.toInt.toNat]?).join

def rawArguments (context : Context) : Except Trap Arguments :=
  match Arguments.unmarshal context.space context.arguments with
  | some arguments => .ok arguments
  | none =>
      .error (.addressError context.arguments.pointers
        (context.arguments.count.toNat * Limits.pointerSize))

def textArguments (context : Context) : Except Trap (List String) :=
  context.rawArguments.map fun arguments => arguments.map Text.Utf8.lossy

def readBytes (context : Context) (address : UInt32) (length : Nat) : Except Trap Bytes :=
  (context.space.readExact address length).mapError Trap.ofMemoryError

def writeBytes (context : Context) (address : UInt32) (data : Bytes) :
    Except Trap Context := do
  let space ← (context.space.writeExact address data).mapError Trap.ofMemoryError
  return { context with space := space }

def readInt (context : Context) (address : UInt32) : Except Trap Int32 :=
  ((context.space.readWord address).map UInt32.toInt32).mapError Trap.ofMemoryError

def writeInt (context : Context) (address : UInt32) (value : Int32) : Except Trap Context :=
  context.writeBytes address (Bytes.ofWord value.toUInt32)

def readString (context : Context) (address : UInt32) : Except Trap Bytes :=
  match context.space.stringAt? address with
  | some bytes => .ok bytes
  | none => .error (.addressError address (Limits.maxStringLength + 1))

def restoreStack (context : Context) (stackPointer : UInt32) : Context :=
  { context with stackPointer := stackPointer }

/-- The bytes that a block takes on the stack. Its length is counted in 32 bits and then rounded up
to a multiple of four, which may not fit in them any more. -/
def blockSize (length : Nat) : Except Stop UInt32 :=
  let size := (length % UInt32.size + 3) / 4 * 4
  if size < UInt32.size then .ok (UInt32.ofNat size) else .error .overflow

def pushBytes (context : Context) (data : Bytes) : Except Stop (UInt32 × Context) := do
  let size ← blockSize data.length
  let top := context.stackPointer - size
  if size ≤ context.stackPointer ∧ context.space.stackLimit ≤ top then
    let written ← (context.writeBytes top data).mapError Stop.trap
    return (top, { written with stackPointer := top })
  else throw (.trap (.stackOverflow data.length))

def pushString (context : Context) (text : String) : Except Stop (UInt32 × Context) :=
  context.pushBytes (Text.Utf8.encode text ++ [0])

def pushInt (context : Context) (value : Int32) : Except Stop (UInt32 × Context) :=
  context.pushBytes (Bytes.ofWord value.toUInt32)

def pushPointers (context : Context) (pointers : List UInt32) :
    Except Stop (UInt32 × Context) :=
  context.pushBytes (pointers.flatMap Bytes.ofWord)

/-- Puts strings on the stack, one after the other, and gives their addresses. When one of
them finds no room, those before it stay on the stack. -/
def pushStrings (context : Context) : List String → Except Stop (List UInt32) × Context
  | [] => (.ok [], context)
  | text :: rest =>
      match context.pushString text with
      | .error cause => (.error cause, context)
      | .ok (address, context) =>
          let (addresses, context) := context.pushStrings rest
          (addresses.map (address :: ·), context)

def pushArguments (context : Context) (texts : List String) : Except Stop UInt32 × Context :=
  match context.pushStrings texts with
  | (.error cause, context) => (.error cause, context)
  | (.ok addresses, context) =>
      match context.pushPointers addresses with
      | .error cause => (.error cause, context)
      | .ok (address, context) => (.ok address, context)

def describe (context : Context) : String :=
  s!"UserContext \x7b pid: {context.pid}, name: {Text.quoted context.name}, " ++
    s!"argc: {context.arguments.count}, sp: {context.stackPointer} \x7d"

end Context

end Minikernel
