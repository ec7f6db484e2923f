import Minikernel.Kernel.Calls

/-!
A machine runs the processes of a kernel one step at a time, and keeps the readings that
their programs note. The process started last runs first; its starter goes on when it has
ended, waits at a gate or waits for a child. A process that waits for a child goes on when
that child has ended.
-/

namespace Minikernel

structure Machine where
  kernel : Kernel
  journal : List (Pid × Reading)

namespace Machine

def awaits (child : Pid) : Program Int32 → Bool
  | .syscall call _ => call.number = Syscall.join.number && call.a0.toUInt32 = child
  | _ => false

def replace (kernel : Kernel) (process : Process) : Kernel :=
  { kernel with
    processes := kernel.processes.map fun other =>
      if other.pid = process.pid then process else other }

def park (kernel : Kernel) (pid : Pid) : Kernel :=
  { kernel with ready := kernel.ready.filter fun other => other ≠ pid }

def wake (kernel : Kernel) (child : Pid) : Kernel :=
  let waiting := kernel.processes.filter fun process =>
    awaits child process.next && process.pid ∉ kernel.ready
  { kernel with ready := waiting.map Process.pid ++ kernel.ready }

def conclude (kernel : Kernel) (pid : Pid) (status : ExitStatus) : Kernel :=
  wake (kernel.finish pid status) pid

def advance (machine : Machine) (process : Process) : Machine :=
  let kernel := machine.kernel
  let pid := process.pid
  let goOn (kernel : Kernel) (context : Context) (next : Program Int32) : Machine :=
    { machine with kernel := replace kernel { process with context := context, next := next } }
  match process.next with
  | .done code => { machine with kernel := conclude kernel pid (.normal code) }
  | .fault cause => { machine with kernel := conclude kernel pid cause.exitStatus }
  | .crash => { machine with kernel := conclude kernel pid .abnormal }
  | .inspect next => goOn kernel process.context (next process.context)
  | .update changed next => goOn kernel (process.context.adopt changed) next
  | .syscall call next =>
      match kernel.syscall process.context call with
      | (.value result, kernel, context) => goOn kernel context (next (.ok result))
      | (.trap cause, kernel, context) => goOn kernel context (next (.error cause))
      | (.blocked _, kernel, _) => { machine with kernel := park kernel pid }
  | .attempt call next =>
      let (reply, kernel, context) := kernel.syscall process.context call
      goOn kernel context (next reply)
  | .gate _ => { machine with kernel := park kernel pid }
  | .note reading next =>
      { goOn kernel process.context next with journal := (pid, reading) :: machine.journal }

/-- One step of the process that is first on the ready list; a machine without one is at
rest. -/
def step (machine : Machine) : Option Machine :=
  match machine.kernel.ready with
  | [] => none
  | pid :: _ =>
      match machine.kernel.process? pid with
      | some process => some (machine.advance process)
      | none => some { machine with kernel := park machine.kernel pid }

def run : Nat → Machine → Machine
  | 0, machine => machine
  | bound + 1, machine =>
      match machine.step with
      | some machine => run bound machine
      | none => machine

def stepBound : Nat := UInt64.size / 4

def settle (machine : Machine) : Machine :=
  machine.run stepBound

def exec (machine : Machine) (parent : Pid) (name : String) (arguments : Arguments) :
    Except ExecError (Pid × Machine) :=
  match machine.kernel.exec parent name arguments with
  | (.ok pid, kernel) => .ok (pid, settle { machine with kernel := kernel })
  | (.error cause, _) => .error cause

def openGate (machine : Machine) (pid : Pid) : Option Machine :=
  match machine.kernel.process? pid with
  | some process =>
      match process.next with
      | .gate next =>
          let kernel := replace machine.kernel { process with next := next }
          some (settle { machine with kernel := { kernel with ready := pid :: kernel.ready } })
      | _ => none
  | none => none

inductive Outcome where
  | stopped (shutdown : Shutdown) (machine : Machine)
  | waiting (machine : Machine)

def boot (machine : Machine) (name : String) (arguments : Arguments) :
    Except ExecError Outcome := do
  let (root, machine) ← machine.exec kernelPid name arguments
  match machine.kernel.shutdown? root with
  | some (shutdown, kernel) => return .stopped shutdown { machine with kernel := kernel }
  | none => return .waiting machine

end Machine

end Minikernel
