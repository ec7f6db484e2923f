import Minikernel.Kernel.State

/-!
System calls. A call gets its arguments out of the caller's memory, and answers with a value;
whatever goes wrong is the value `Limits.syscallFailure`. Only an exit, a halt and an unknown
number trap. A join of a live child changes nothing and is made again when the child ends.
-/

namespace Minikernel.Kernel

def userText? (context : Context) (address : UInt32) : Option String :=
  (context.space.stringAt? address).bind Text.Utf8.decode?

def userArgument? (space : AddressSpace) (pointers : UInt32) (index : Nat) : Option Bytes := do
  let slot := pointers + UInt32.ofNat (index * Limits.pointerSize)
  let pointer ← (space.readWord slot).toOption
  space.stringAt? pointer

def userArguments? (space : AddressSpace) (pointers : UInt32) (count : Nat) :
    Option Arguments :=
  (List.range count).mapM (userArgument? space pointers)

def execRequest? (context : Context) (name : UInt32) (count : Int32) (pointers : UInt32) :
    Option (String × Arguments) := do
  let text ← userText? context name
  guard (0 ≤ count ∧ count.toInt ≤ Limits.maxArguments)
  let arguments ← userArguments? context.space pointers count.toInt.toNat
  return (text, arguments)

def handleExec (kernel : Kernel) (context : Context) (name : UInt32) (count : Int32)
    (pointers : UInt32) : Int32 × Kernel :=
  match execRequest? context name count pointers with
  | none => (Limits.syscallFailure, kernel)
  | some (text, arguments) =>
      match kernel.exec context.pid text arguments with
      -- An overflow is not among the causes, since the caller itself has a stack.
      | (.error _, kernel) => (Limits.syscallFailure, kernel)
      | (.ok child, kernel) =>
          (if child ≤ ProcessTable.maxPid then child.toInt32 else Limits.syscallFailure, kernel)

/-- Joins a child. The place for its status is checked first, so that no status is lost. -/
def handleJoin (kernel : Kernel) (context : Context) (target : Int32) (status : UInt32) :
    Reply × Kernel × Context :=
  let refused := (Reply.value Limits.syscallFailure, kernel, context)
  if target < 0 then refused
  else if !context.space.covers status 4 then refused
  else
    match kernel.join context.pid target.toUInt32 with
    | .failed _ => refused
    | .blocked => (.blocked target.toUInt32, kernel, context)
    | .status ended kernel =>
        match context.space.writeWord status ended.code.toUInt32 with
        | .ok space => (.value 0, kernel, { context with space := space })
        | .error _ => (.value Limits.syscallFailure, kernel, context)

/-- Moves console input into memory in chunks of at most a page, until `count` bytes have
been moved or no input is left. `total` bytes were moved before; a chunk that does not fit
is lost, and ends the call in failure. -/
def readChunks (console : Console) (space : AddressSpace) (buffer : UInt32)
    (total count : Nat) : Option Nat × Console × AddressSpace :=
  if total < count then
    let wanted := min (count - total) (min count Limits.pageSize)
    let (chunk, console) := console.read wanted
    if chunk.length = 0 then (some total, console, space)
    else
      let (written, space) := space.write (buffer + UInt32.ofNat total) chunk
      if written ≠ chunk.length then (none, console, space)
      else readChunks console space buffer (total + chunk.length) count
  else (some total, console, space)
termination_by count - total
decreasing_by omega

def handleRead (kernel : Kernel) (context : Context) (descriptor : Int32) (buffer : UInt32)
    (count : Int32) : Int32 × Kernel × Context :=
  if context.file? descriptor ≠ some .consoleIn ∨ count < 0 then
    (Limits.syscallFailure, kernel, context)
  else
    let (total, console, space) :=
      readChunks kernel.console context.space buffer 0 count.toInt.toNat
    let kernel := { kernel with console := console }
    let context := { context with space := space }
    match total with
    | some total => (Int32.ofNat total, kernel, context)
    | none => (Limits.syscallFailure, kernel, context)

def writeChunks (console : Console) (space : AddressSpace) (buffer : UInt32)
    (total count : Nat) : Option Nat × Console :=
  if total < count then
    let wanted := min (count - total) (min count Limits.pageSize)
    let chunk := space.read (buffer + UInt32.ofNat total) wanted
    if chunk.length ≠ wanted then (none, console)
    else writeChunks (console.write chunk) space buffer (total + wanted) count
  else (some total, console)
termination_by count - total
decreasing_by
  have page : 0 < Limits.pageSize := by decide
  omega

def handleWrite (kernel : Kernel) (context : Context) (descriptor : Int32) (buffer : UInt32)
    (count : Int32) : Int32 × Kernel :=
  if context.file? descriptor ≠ some .consoleOut ∨ count < 0 then
    (Limits.syscallFailure, kernel)
  else if !context.space.covers buffer count.toInt.toNat then (Limits.syscallFailure, kernel)
  else
    let (total, console) :=
      writeChunks kernel.console context.space buffer 0 count.toInt.toNat
    let kernel := { kernel with console := console }
    match total with
    | some total => (Int32.ofNat total, kernel)
    | none => (Limits.syscallFailure, kernel)

def handleClose (context : Context) (descriptor : Int32) : Int32 × Context :=
  match context.file? descriptor with
  | some _ => (0, { context with files := context.files.set descriptor.toInt.toNat none })
  | none => (Limits.syscallFailure, context)

/-- Makes a system call for a process with a context. There is no file system, so the calls
that open, create and remove files always fail. -/
def syscall (kernel : Kernel) (context : Context) (call : Registers) :
    Reply × Kernel × Context :=
  match Syscall.ofNumber? call.number with
  | none => (.trap (.illegalSyscall call.number), kernel, context)
  | some .halt =>
      match kernel.halt context.pid with
      | (true, kernel) => (.trap .halt, kernel, context)
      | (false, kernel) => (.value Limits.syscallFailure, kernel, context)
  | some .exit => (.trap (.exit call.a0), kernel, context)
  | some .exec =>
      let (value, kernel) :=
        kernel.handleExec context call.a0.toUInt32 call.a1 call.a2.toUInt32
      (.value value, kernel, context)
  | some .join => kernel.handleJoin context call.a0 call.a1.toUInt32
  | some .creat | some .openFile | some .unlink =>
      (.value Limits.syscallFailure, kernel, context)
  | some .read =>
      let (value, kernel, context) :=
        kernel.handleRead context call.a0 call.a1.toUInt32 call.a2
      (.value value, kernel, context)
  | some .write =>
      let (value, kernel) := kernel.handleWrite context call.a0 call.a1.toUInt32 call.a2
      (.value value, kernel, context)
  | some .close =>
      let (value, context) := handleClose context call.a0
      (.value value, kernel, context)

end Minikernel.Kernel
