import Minikernel.Process.Error

/-!
The table of process records. Each record goes from created to running to exited and is then
taken out, by the parent that joins it or because it has no parent left. Numbers are handed
out in ascending order and never again.

An operation that fails gives no table, so whoever calls it goes on with the one it had.
-/

namespace Minikernel

structure ProcessTable where
  /-- The records held, the latest first. -/
  records : List ProcessInfo
  nextPid : Pid
  live : Nat
  maxRecords : Nat
  registered : Nat
  reclaimed : Nat
deriving DecidableEq

namespace ProcessTable

def firstPid : Pid := 1

/-- The last number handed out: a program sees numbers as signed words. -/
def maxPid : Pid := 0x7fffffff

def ofLimit (maxRecords : Nat) : ProcessTable :=
  ⟨[], firstPid, 0, maxRecords, 0, 0⟩

def find? (table : ProcessTable) (pid : Pid) : Option ProcessInfo :=
  table.records.find? fun info => info.pid = pid

def record (table : ProcessTable) (pid : Pid) : Except ProcessError ProcessInfo :=
  match table.find? pid with
  | some info => .ok info
  | none => .error (.notFound pid)

def modify (table : ProcessTable) (pid : Pid) (change : ProcessInfo → ProcessInfo) :
    ProcessTable :=
  { table with
    records := table.records.map fun info => if info.pid = pid then change info else info }

def erase (table : ProcessTable) (pid : Pid) : ProcessTable :=
  { table with
    records := table.records.filter fun info => info.pid ≠ pid
    live := table.live - 1 }

def reclaim (table : ProcessTable) (pid : Pid) : ProcessTable :=
  { table.erase pid with reclaimed := table.reclaimed + 1 }

def register (table : ProcessTable) (name : String) (parent : Option Pid) :
    Except ProcessError (Pid × ProcessTable) :=
  if table.live + 1 > table.maxRecords then
    .error (.limitReached table.live table.maxRecords)
  else if table.nextPid > maxPid then .error .pidsExhausted
  else
    .ok (table.nextPid,
      { table with
        records := ⟨table.nextPid, name, .created, parent, none⟩ :: table.records
        nextPid := table.nextPid + 1
        live := table.live + 1
        registered := table.registered + 1 })

def markRunning (table : ProcessTable) (pid : Pid) : Except ProcessError ProcessTable := do
  let info ← table.record pid
  if info.state = .created then return table.modify pid ({ · with state := .running })
  else throw (.invalidStateTransition pid info.state .running)

def discard (table : ProcessTable) (pid : Pid) : Except ProcessError ProcessTable := do
  let info ← table.record pid
  if info.isLive then return table.erase pid
  else throw (.invalidStateTransition pid info.state .reclaimed)

def detach (table : ProcessTable) (pid : Pid) : Except ProcessError ProcessTable := do
  let _ ← table.record pid
  return table.modify pid ({ · with parent := none })

def isLive (table : ProcessTable) (pid : Pid) : Bool :=
  match table.find? pid with
  | some info => info.isLive
  | none => false

def admits (table : ProcessTable) (parent : Pid) : Bool :=
  parent = kernelPid || table.isLive parent

/-- Marks a running process as ended. Its status waits for the parent; without a parent the
record is taken out at once. -/
def markExited (table : ProcessTable) (pid : Pid) (status : ExitStatus) :
    Except ProcessError ProcessTable := do
  let info ← table.record pid
  if info.state ≠ .running then throw (.invalidStateTransition pid info.state .exited)
  else if info.parent = none then return table.reclaim pid
  else return table.modify pid ({ · with state := .exited, exitStatus := some status })

def checkParent (info : ProcessInfo) (caller : Pid) : Except ProcessError Unit :=
  if info.parent = some caller then .ok ()
  else if info.state = .reclaimed then .error (.notFound info.pid)
  else .error (.notChild info.pid caller)

def collect (table : ProcessTable) (info : ProcessInfo) :
    Except ProcessError (ExitStatus × ProcessTable) :=
  match info.exitStatus with
  | some status => .ok (status, table.reclaim info.pid)
  | none => .error (.invalidStateTransition info.pid info.state .reclaimed)

def take (table : ProcessTable) (pid caller : Pid) :
    Except ProcessError (ExitStatus × ProcessTable) := do
  let info ← table.record pid
  checkParent info caller
  match info.state with
  | .exited => table.collect info
  | .reclaimed => throw (.notFound pid)
  | .created | .running => throw (.notYetExited pid)

/-- Cuts the children of an ending process off: those that have ended are taken out, the
others go on without a parent. Gives the number taken out. -/
def orphanChildren (table : ProcessTable) (parent : Pid) : Nat × ProcessTable :=
  let isChild (info : ProcessInfo) : Bool := info.parent = some parent
  let isUnjoined (info : ProcessInfo) : Bool := isChild info && info.state = .exited
  let count := (table.records.filter isUnjoined).length
  let kept := table.records.filter fun info => !isUnjoined info
  (count,
    { table with
      records := kept.map fun info => if isChild info then { info with parent := none } else info
      live := table.live - count
      reclaimed := table.reclaimed + count })

def list (table : ProcessTable) : List ProcessInfo :=
  table.records.reverse

def contains (table : ProcessTable) (pid : Pid) : Bool :=
  (table.find? pid).isSome

def size (table : ProcessTable) : Nat :=
  table.records.length

end ProcessTable

end Minikernel
