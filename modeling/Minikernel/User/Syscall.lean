/-!
The system calls and their numbers.
-/

namespace Minikernel

inductive Syscall where
  | halt
  | exit
  | exec
  | join
  | creat
  | openFile
  | read
  | write
  | close
  | unlink
deriving DecidableEq

namespace Syscall

def number : Syscall → UInt32
  | halt => 0
  | exit => 1
  | exec => 2
  | join => 3
  | creat => 4
  | openFile => 5
  | read => 6
  | write => 7
  | close => 8
  | unlink => 9

def all : List Syscall :=
  [halt, exit, exec, join, creat, openFile, read, write, close, unlink]

def ofNumber? (number : UInt32) : Option Syscall :=
  all.find? fun call => call.number = number

def name : Syscall → String
  | halt => "halt"
  | exit => "exit"
  | exec => "exec"
  | join => "join"
  | creat => "creat"
  | openFile => "open"
  | read => "read"
  | write => "write"
  | close => "close"
  | unlink => "unlink"

theorem ofNumber?_number (call : Syscall) : ofNumber? call.number = some call := by
  cases call <;> rfl

end Syscall

structure Registers where
  number : UInt32
  a0 : Int32
  a1 : Int32
  a2 : Int32
  a3 : Int32
deriving DecidableEq

def Syscall.registers (call : Syscall) (a0 a1 a2 : Int32) : Registers :=
  ⟨call.number, a0, a1, a2, 0⟩

end Minikernel
