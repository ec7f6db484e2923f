import Minikernel.Executable.Registry
import Minikernel.Image.Encoding
import Minikernel.User.Program

/-!
The programs that come with the kernel, and the images that name them. `echo`, `halt` and
the two child programs do one thing each; the other three start children and report on the
console what became of them.
-/

namespace Minikernel.Builtin

def printArguments (index : Nat) : List String → Program Unit
  | [] => return ()
  | argument :: rest => do
      let _ ← Program.print s!"arg {index}: {argument}\n"
      printArguments (index + 1) rest

def echo : Program Int32 := do
  let arguments ← Program.observe Context.textArguments
  let _ ← Program.print s!"{arguments.length} arguments\n"
  printArguments 0 arguments
  return 0

def halt : Program Int32 := do
  let _ ← Program.halt
  let _ ← Program.print "Machine halt did not happen\n"
  return 1

def childExit : Program Int32 := do
  Program.exit 0
  return 0

def childDeref : Program Int32 := do
  let arguments ← Program.observe Context.rawArguments
  match arguments with
  | [] =>
      Program.exit (-1)
      return -1
  | first :: _ =>
      let value ← Program.readInt (Bytes.word first)
      Program.exit value
      return value

def execTest : Program Int32 := do
  let arguments := ["first", "second"]
  let legal ← Program.spawn "echo.coff" arguments
  if legal = Limits.syscallFailure then
    let _ ← Program.print "exec failed\n"
    Program.exit 1
  let illegal ← Program.spawn "wagabagabooboo.coff" arguments
  if illegal ≠ Limits.syscallFailure then
    let _ ← Program.print "Failed: Exec with illegal name ran something\n"
    Program.exit 1
  let status ← Program.pushInt 0
  if (← Program.join legal status) = Limits.syscallFailure then
    let _ ← Program.print "Joined failed\n"
    Program.exit 1
  let code ← Program.readInt status
  let _ ← Program.print s!"Exit status: {code}\n"
  return 0

def childCount : Nat := 10

def reportChild (index : Nat) (pid : Int32) : Program Unit := do
  let _ ← Program.print s!"child pid: {pid}\n"
  if pid = Limits.syscallFailure then
    let _ ← Program.print s!"exec #{index} failed\n"
    Program.exit 1

def startChildren (start : Program Int32) (index : Nat) : Nat → Program (List Int32)
  | 0 => return []
  | count + 1 => do
      let pid ← start
      reportChild index pid
      let others ← startChildren start (index + 1) count
      return pid :: others

def joinEach (failure : String) (status : UInt32) (index : Nat) : List Int32 → Program Unit
  | [] => return ()
  | pid :: rest => do
      if (← Program.join pid status) ≠ 0 then
        let _ ← Program.print failure
        Program.exit 1
      let code ← Program.readInt status
      if code = Limits.syscallFailure then
        let _ ← Program.print s!"child #{index} exited with {code} status\n"
      joinEach failure status (index + 1) rest

def joinChildren (failure : String) (pids : List Int32) : Program Int32 := do
  let status ← Program.pushInt 0
  joinEach failure status 0 pids
  return 0

def childExitTest : Program Int32 := do
  let pids ← startChildren (Program.spawn "child_exit.coff" ["first"]) 0 childCount
  joinChildren "Joined failed\n" pids

/-- Hands ten children a pointer into this process's memory. The argument is the bytes of
the pointer up to its first zero, so an address with a zero as its lowest byte is avoided. -/
def childDerefTest : Program Int32 := do
  let first ← Program.pushInt 17
  let pointer ← if first.toUInt8 = 0 then Program.pushInt 17 else pure first
  let argument := (Bytes.ofWord pointer).takeWhile (· != 0) ++ [0]
  let saved ← Program.stackPointer
  let argumentPointer ← Program.pushBytes argument
  let namePointer ← Program.pushString "child_deref.coff"
  let pointers ← Program.pushPointers [argumentPointer]
  let pids ← startChildren (Program.exec namePointer 1 pointers) 0 childCount
  Program.restoreStack saved
  joinChildren "Joined failed in some form\n" pids

def names : List (String × String) := [
  ("echo.coff", "echo"),
  ("halt.coff", "halt"),
  ("child_exit.coff", "child_exit"),
  ("child_deref.coff", "child_deref"),
  ("exec_test.coff", "exec_test"),
  ("child_exit_test.coff", "child_exit_test"),
  ("child_deref_test.coff", "child_deref_test")]

def startedNames : List String :=
  ["echo.coff", "wagabagabooboo.coff", "child_exit.coff", "child_deref.coff"]

def entries : Registry (Program Int32) := ⟨[
  ("echo", echo),
  ("halt", halt),
  ("child_exit", childExit),
  ("child_deref", childDeref),
  ("exec_test", execTest),
  ("child_exit_test", childExitTest),
  ("child_deref_test", childDerefTest)]⟩

def image (entry : String) : Image :=
  Image.build entry [(".text", Text.Utf8.encode entry)]

def images : Registry Bytes :=
  ⟨names.map fun name => (name.1, (image name.2).bytes)⟩

end Minikernel.Builtin
