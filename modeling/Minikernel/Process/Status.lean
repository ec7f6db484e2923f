/-!
What is known of a process: its number, the state of its record, and how it ended.
-/

namespace Minikernel

abbrev Pid := UInt32

/-- The number of the kernel itself, parent of the processes that it starts. -/
def kernelPid : Pid := 0

inductive ProcessState where
  | created
  | running
  | exited
  | reclaimed
deriving DecidableEq

inductive ExitKind where
  | normal
  | abnormal
deriving DecidableEq

structure ExitStatus where
  code : Int32
  kind : ExitKind
deriving DecidableEq

namespace ExitStatus

def failureCode : Int32 := -1

def normal (code : Int32) : ExitStatus := ⟨code, .normal⟩

def abnormal : ExitStatus := ⟨failureCode, .abnormal⟩

def isNormal (status : ExitStatus) : Bool := status.kind = .normal

end ExitStatus

/-- The record of a process. A record without a parent is reclaimed when its process ends;
any other waits for its parent to join it. -/
structure ProcessInfo where
  pid : Pid
  name : String
  state : ProcessState
  parent : Option Pid
  exitStatus : Option ExitStatus
deriving DecidableEq

def ProcessInfo.isLive (info : ProcessInfo) : Bool :=
  info.state = .created || info.state = .running

end Minikernel
