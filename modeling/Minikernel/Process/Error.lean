import Minikernel.Process.Status

/-!
Why an operation on the process table failed, and why a join failed.
-/

namespace Minikernel

inductive ProcessError where
  | notFound (pid : Pid)
  | notChild (pid caller : Pid)
  | notYetExited (pid : Pid)
  | limitReached (current limit : Nat)
  | pidsExhausted
  | invalidStateTransition (pid : Pid) (source target : ProcessState)
deriving DecidableEq

def ProcessState.title : ProcessState → String
  | created => "Created"
  | running => "Running"
  | exited => "Exited"
  | reclaimed => "Reclaimed"

namespace ProcessError

def message : ProcessError → String
  | notFound pid => s!"Process not found: {pid}"
  | notChild pid caller => s!"Process {pid} is not a child of {caller}"
  | notYetExited pid => s!"Process {pid} has not exited yet"
  | limitReached current limit => s!"Process limit reached: {current}/{limit} live processes"
  | pidsExhausted => "Process identifiers exhausted"
  | invalidStateTransition pid source target =>
      s!"Invalid state transition for process {pid}: {source.title} -> {target.title}"

def code : ProcessError → String
  | notFound _ => "process::not_found"
  | notChild .. => "process::not_child"
  | notYetExited _ => "process::not_yet_exited"
  | limitReached .. => "process::limit_reached"
  | pidsExhausted => "process::pids_exhausted"
  | invalidStateTransition .. => "process::invalid_transition"

def help : ProcessError → Option String
  | notFound _ => some "The process never existed or was already joined."
  | limitReached .. => some "Join finished children to release their records."
  | pidsExhausted => some "PIDs are never reused; restart the kernel."
  | invalidStateTransition .. => some "This is a kernel bug: a record changed state twice."
  | notChild .. | notYetExited _ => none

end ProcessError

inductive JoinError where
  | noSuchProcess (pid : Pid)
  | notChild (pid caller : Pid)
deriving DecidableEq

namespace JoinError

def ofProcessError (pid : Pid) : ProcessError → JoinError
  | .notChild pid caller => .notChild pid caller
  | _ => .noSuchProcess pid

def message : JoinError → String
  | noSuchProcess pid => s!"No such process: {pid}"
  | notChild pid caller => s!"Process {pid} is not a child of {caller}"

def code : JoinError → String
  | noSuchProcess _ => "join::no_such_process"
  | notChild .. => "join::not_child"

def help : JoinError → Option String
  | noSuchProcess _ => none
  | notChild .. => some "Only the parent that exec'd a process may join it."

end JoinError

end Minikernel
