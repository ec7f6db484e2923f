import Minikernel.Executable.Loader
import Minikernel.Kernel.Config
import Minikernel.Kernel.Console
import Minikernel.Process.Joining
import Minikernel.User.Program

/-!
The state of a kernel and what it does for its callers: start a process, join one, note that
one has ended, halt. A process that was started is put on the ready list; who runs it, and
when, is not decided here.

Starting a process takes frames, a slot and a number one after the other. When it fails on the
way, what was taken is given back. Last, a process needs a thread of the host to run on. It is
assumed that the host has one: the failure to get it, on which the record is discarded and the
count of processes and the root are put back, is not among the causes here.
-/

namespace Minikernel

inductive ExecError where
  | load (cause : LoadError)
  | marshal (cause : MarshalError)
  | process (cause : ProcessError)
  | halted
deriving DecidableEq

namespace ExecError

def message : ExecError → String
  | load cause => cause.message
  | marshal cause => cause.message
  | process cause => cause.message
  | halted => "Machine is halted"

def code : ExecError → String
  | load cause => cause.code
  | marshal cause => cause.code
  | process cause => cause.code
  | halted => "exec::halted"

def help : ExecError → Option String
  | load cause => cause.help
  | marshal cause => cause.help
  | process cause => cause.help
  | halted => none

def isNotFound : ExecError → Bool
  | load (.notFound _) => true
  | _ => false

end ExecError

structure Process where
  context : Context
  pages : Nat
  next : Program Int32

def Process.pid (process : Process) : Pid := process.context.pid

structure Prepared where
  routine : Program Int32
  space : AddressSpace
  layout : ArgumentLayout

structure Kernel where
  config : Config
  loader : Loader (Program Int32)
  frames : FramePool
  table : ProcessTable
  console : Console
  /-- The processes that have not ended, the latest first. -/
  processes : List Process
  ready : List Pid
  alive : Nat
  halted : Bool
  /-- The root process, or `kernelPid` when there is none. -/
  root : Pid

structure Shutdown where
  root : Pid
  status : Option ExitStatus
  halted : Bool
deriving DecidableEq

structure KernelStats where
  liveRecords : UInt64
  running : UInt64
  registered : UInt64
  reclaimed : UInt64
  frames : FrameStats
  halted : Bool
deriving DecidableEq

namespace Kernel

def boot (config : Config) (loader : Loader (Program Int32)) (console : Console) : Kernel where
  config := config
  loader := loader
  frames := .ofSize config.physicalPages.toNat
  table := .ofLimit config.maxProcesses.toNat
  console := console
  processes := []
  ready := []
  alive := 0
  halted := false
  root := kernelPid

/-- Memory for an executable, with its arguments in place, and the frames left. A space that
cannot be filled is given up, and its frames go back. -/
def prepare (kernel : Kernel) (name : String) (arguments : Arguments) :
    Except ExecError Prepared × FramePool :=
  match kernel.loader.load name with
  | .error cause => (.error (.load cause), kernel.frames)
  | .ok loaded =>
      match arguments.validate with
      | .error cause => (.error (.marshal cause), kernel.frames)
      | .ok () =>
          match loaded.build kernel.frames kernel.config.stackPages with
          | (.error cause, left) => (.error (.load cause), left)
          | (.ok space, left) =>
              match arguments.marshal space with
              | .error cause => (.error (.marshal cause), left.release space.pages.toNat)
              | .ok (layout, filled) => (.ok ⟨loaded.routine, filled, layout⟩, left)

/-- Cuts a child off from its parent if the parent has ended since it was asked about. A
failure is passed over. -/
def unlink (table : ProcessTable) (child parent : Pid) : ProcessTable :=
  if table.admits parent then table
  else
    match table.detach child with
    | .ok detached => detached
    | .error _ => table

/-- Enters a record for a child and marks it as running. A record that cannot be marked is
discarded. -/
def enrol (table : ProcessTable) (name : String) (parent : Pid) :
    Except ProcessError Pid × ProcessTable :=
  match table.register name (some parent) with
  | .error cause => (.error cause, table)
  | .ok (child, entered) =>
      let linked := unlink entered child parent
      match linked.markRunning child with
      | .ok started => (.ok child, started)
      | .error cause =>
          match linked.discard child with
          | .ok discarded => (.error cause, discarded)
          | .error _ => (.error cause, linked)

/-- Starts an executable as a child of the kernel or of a live process. Gives the child, and the
kernel as it is afterwards. -/
def exec (kernel : Kernel) (parent : Pid) (name : String) (arguments : Arguments) :
    Except ExecError Pid × Kernel :=
  if kernel.halted then (.error .halted, kernel)
  else if kernel.table.admits parent then
    match kernel.prepare name arguments with
    | (.error cause, left) => (.error cause, { kernel with frames := left })
    | (.ok prepared, left) =>
        match enrol kernel.table name parent with
        | (.error cause, table) =>
            (.error (.process cause),
              { kernel with frames := left.release prepared.space.pages.toNat, table := table })
        | (.ok child, table) =>
            let started : Process :=
              ⟨Context.fresh child name prepared.space prepared.layout,
                prepared.space.pages.toNat, prepared.routine⟩
            (.ok child,
              { kernel with
                frames := left
                table := table
                processes := started :: kernel.processes
                ready := child :: kernel.ready
                alive := kernel.alive + 1
                root :=
                  if parent = kernelPid ∧ kernel.root = kernelPid then child else kernel.root })
  else (.error (.process (.notFound parent)), kernel)

def process? (kernel : Kernel) (pid : Pid) : Option Process :=
  kernel.processes.find? fun process => process.pid = pid

def dropMemory (kernel : Kernel) (pid : Pid) : Kernel :=
  match kernel.process? pid with
  | some process =>
      { kernel with
        frames := kernel.frames.release process.pages
        processes := kernel.processes.filter fun other => other.pid ≠ pid
        ready := kernel.ready.filter fun other => other ≠ pid }
  | none => kernel

/-- Records the end of a process: its status is kept for its parent, its children are cut
off, and it is no longer the root. -/
def terminate (kernel : Kernel) (pid : Pid) (status : ExitStatus) : Kernel :=
  let table := match kernel.table.markExited pid status with
    | .ok table => table
    | .error _ => kernel.table
  { kernel with
    table := (table.orphanChildren pid).2
    alive := kernel.alive - 1
    root := if kernel.root = pid then kernelPid else kernel.root }

/-- Ends a process. Its memory is given back before anyone can join it. -/
def finish (kernel : Kernel) (pid : Pid) (status : ExitStatus) : Kernel :=
  (kernel.dropMemory pid).terminate pid status

inductive Joined where
  | status (status : ExitStatus) (kernel : Kernel)
  | failed (cause : JoinError)
  | blocked

def join (kernel : Kernel) (caller pid : Pid) : Joined :=
  match kernel.table.join pid caller with
  | .joined status table => .status status { kernel with table := table }
  | .failed cause => .failed (.ofProcessError pid cause)
  | .blocked => .blocked

def tryJoin (kernel : Kernel) (caller pid : Pid) :
    Except JoinError (Option ExitStatus × Kernel) :=
  match kernel.table.take pid caller with
  | .ok (status, table) => .ok (some status, { kernel with table := table })
  | .error (.notYetExited _) => .ok (none, kernel)
  | .error cause => .error (.ofProcessError pid cause)

def halt (kernel : Kernel) (caller : Pid) : Bool × Kernel :=
  if kernel.root = kernelPid ∨ caller ≠ kernel.root then (false, kernel)
  else (true, { kernel with halted := true })

def isIdle (kernel : Kernel) : Bool :=
  kernel.alive = 0 || kernel.halted

/-- How a run ends that was started with the process `root`: its status is collected once
nothing is left to wait for. Nothing while there is, or while the root process is live. -/
def shutdown? (kernel : Kernel) (root : Pid) : Option (Shutdown × Kernel) :=
  if kernel.isIdle then
    match kernel.join kernelPid root with
    | .status status after => some (⟨root, some status, kernel.halted⟩, after)
    | .failed _ => some (⟨root, none, kernel.halted⟩, kernel)
    | .blocked => none
  else none

def stats (kernel : Kernel) : KernelStats where
  liveRecords := UInt64.ofNat kernel.table.size
  running := UInt64.ofNat kernel.alive
  registered := UInt64.ofNat kernel.table.registered
  reclaimed := UInt64.ofNat kernel.table.reclaimed
  frames := kernel.frames.stats
  halted := kernel.halted

def describe (kernel : Kernel) : String :=
  s!"ProcessManager \x7b config: {kernel.config.describe}, " ++
    s!"live_records: {kernel.table.size}, halted: {Config.describeBool kernel.halted} \x7d"

end Kernel

def Loader.describe (loader : Loader Routine) : String :=
  let symbols := loader.entries.names.mergeSort fun first second => !(second < first)
  "Loader \x7b entries: EntryTable \x7b symbols: [" ++
    String.intercalate ", " (symbols.map Text.quoted) ++ "] \x7d \x7d"

def LoadedImage.describe (loaded : LoadedImage Routine) : String :=
  s!"LoadedImage \x7b name: {Text.quoted loaded.name}, " ++
    s!"entry: {Text.quoted loaded.image.entry}, code_pages: {loaded.codePages} \x7d"

end Minikernel
