import Minikernel.User.Context
import Minikernel.User.Syscall

/-!
User programs. A program is a tree of the steps that it takes: it looks at its context,
changes its memory and stack, makes system calls and goes on with their results, until it
returns or stops in another way. A gate is a step that waits until someone opens it, and a
note is a step that only leaves a reading behind.
-/

namespace Minikernel

inductive Reply where
  | value (result : Int32)
  | trap (cause : Trap)
  | blocked (child : Pid)
deriving DecidableEq

inductive Reading where
  | number (value : Int)
  | text (value : String)
  | texts (values : List String)
  | bytes (value : Bytes)
  | byteStrings (values : List Bytes)
  | shape (space : AddressSpace)
  | memory (runs : List (Nat × Bytes))
  | trap (cause : Trap)
  | wouldBlock

def Reading.toInt : Reading → Int
  | number value => value
  | _ => 0

inductive Program (α : Type) where
  | done (value : α)
  | fault (cause : Trap)
  /-- The program fails in a way that it cannot catch. -/
  | crash
  | inspect (next : Context → Program α)
  | update (context : Context) (next : Program α)
  | syscall (call : Registers) (next : Except Trap Int32 → Program α)
  | attempt (call : Registers) (next : Reply → Program α)
  | gate (next : Program α)
  | note (reading : Reading) (next : Program α)

namespace Program

def bind : Program α → (α → Program β) → Program β
  | done value, following => following value
  | fault cause, _ => fault cause
  | crash, _ => crash
  | inspect next, following => inspect fun context => (next context).bind following
  | update context next, following => update context (next.bind following)
  | syscall call next, following => syscall call fun result => (next result).bind following
  | attempt call next, following => attempt call fun reply => (next reply).bind following
  | gate next, following => gate (next.bind following)
  | note reading next, following => note reading (next.bind following)

instance : Monad Program where
  pure := done
  bind := bind

def catchTrap : Program α → Program (Except Trap α)
  | done value => done (.ok value)
  | fault cause => done (.error cause)
  | crash => crash
  | inspect next => inspect fun context => (next context).catchTrap
  | update context next => update context next.catchTrap
  | syscall call next => syscall call fun result => (next result).catchTrap
  | attempt call next => attempt call fun reply => (next reply).catchTrap
  | gate next => gate next.catchTrap
  | note reading next => note reading next.catchTrap

def ofResult : Except Trap α → Program α
  | .ok value => done value
  | .error cause => fault cause

/-- Goes on with a result, or stops. An overflow is not to be caught. -/
def ofOutcome : Except Stop α → Program α
  | .ok value => done value
  | .error (.trap cause) => fault cause
  | .error .overflow => crash

def context : Program Context :=
  inspect done

def observe (read : Context → Except Trap α) : Program α :=
  inspect fun context => ofResult (read context)

def change (act : Context → Except Trap (α × Context)) : Program α :=
  inspect fun context =>
    match act context with
    | .ok (value, changed) => update changed (done value)
    | .error cause => fault cause

def push (act : Context → Except Stop (UInt32 × Context)) : Program UInt32 :=
  inspect fun context =>
    match act context with
    | .ok (address, pushed) => update pushed (done address)
    | .error stop => ofOutcome (.error stop)

def invoke (call : Registers) : Program Int32 :=
  syscall call ofResult

def halt : Program Int32 :=
  invoke (Syscall.halt.registers 0 0 0)

def exit (code : Int32) : Program Unit :=
  (fun _ => ()) <$> invoke (Syscall.exit.registers code 0 0)

def exec (name : UInt32) (count : Int32) (pointers : UInt32) : Program Int32 :=
  invoke (Syscall.exec.registers name.toInt32 count pointers.toInt32)

def join (pid : Int32) (status : UInt32) : Program Int32 :=
  invoke (Syscall.join.registers pid status.toInt32 0)

def read (descriptor buffer count : Int32) : Program Int32 :=
  invoke (Syscall.read.registers descriptor buffer count)

def write (descriptor buffer count : Int32) : Program Int32 :=
  invoke (Syscall.write.registers descriptor buffer count)

def close (descriptor : Int32) : Program Int32 :=
  invoke (Syscall.close.registers descriptor 0 0)

def pushBytes (data : Bytes) : Program UInt32 :=
  push (·.pushBytes data)

def pushString (text : String) : Program UInt32 :=
  push (·.pushString text)

def pushInt (value : Int32) : Program UInt32 :=
  push (·.pushInt value)

def pushPointers (pointers : List UInt32) : Program UInt32 :=
  push (·.pushPointers pointers)

def pushArguments (texts : List String) : Program UInt32 :=
  inspect fun context =>
    let (result, changed) := context.pushArguments texts
    update changed (ofOutcome result)

def stackPointer : Program UInt32 :=
  inspect fun context => done context.stackPointer

def restoreStack (pointer : UInt32) : Program Unit :=
  inspect fun context => update (context.restoreStack pointer) (done ())

def readInt (address : UInt32) : Program Int32 :=
  observe (·.readInt address)

def print (text : String) : Program Int32 := do
  let saved ← stackPointer
  let data := Text.Utf8.encode text
  let buffer ← pushBytes data
  let call := Syscall.write.registers 1 buffer.toInt32 (Int32.ofNat data.length)
  let written ← (invoke call).catchTrap
  restoreStack saved
  ofResult written

def spawn (name : String) (arguments : List String) : Program Int32 := do
  let saved ← stackPointer
  let namePointer ← pushString name
  let pointers ← pushArguments arguments
  let call :=
    Syscall.exec.registers namePointer.toInt32 (Int32.ofNat arguments.length) pointers.toInt32
  let result ← (invoke call).catchTrap
  restoreStack saved
  ofResult result

end Program

end Minikernel
