import Minikernel.Process.Table

/-!
Callers that wait in a join. A caller that finds a child still live falls asleep on its
record; it wakes when the record is marked as exited or discarded, and then looks again. A
record that leaves the table without such a wake-up leaves its callers asleep.
-/

namespace Minikernel

structure Waiter where
  pid : Pid
  caller : Pid
  awake : Bool
deriving DecidableEq

inductive JoinOutcome where
  | joined (status : ExitStatus) (table : ProcessTable)
  | failed (cause : ProcessError)
  | blocked
deriving DecidableEq

namespace ProcessTable

def join (table : ProcessTable) (pid caller : Pid) : JoinOutcome :=
  match table.record pid with
  | .error cause => .failed cause
  | .ok info =>
      match checkParent info caller with
      | .error cause => .failed cause
      | .ok () =>
          if info.isLive then .blocked
          else if info.state = .reclaimed then .failed (.notFound pid)
          else
            match table.collect info with
            | .ok (status, table) => .joined status table
            | .error cause => .failed cause

/-- What a caller finds that looks at a record again after it slept on it. The parent is not
checked again, and a record that has left the table counts as reclaimed. -/
def rejoin (table : ProcessTable) (pid : Pid) : JoinOutcome :=
  match table.find? pid with
  | none => .failed (.notFound pid)
  | some info =>
      if info.isLive then .blocked
      else if info.state = .reclaimed then .failed (.notFound pid)
      else
        match table.collect info with
        | .ok (status, table) => .joined status table
        | .error cause => .failed cause

end ProcessTable

structure JoinRoom where
  table : ProcessTable
  waiters : List Waiter
deriving DecidableEq

namespace JoinRoom

def ofTable (table : ProcessTable) : JoinRoom := ⟨table, []⟩

inductive Ending where
  | exited (status : ExitStatus)
  | discarded

def Ending.apply (ending : Ending) (table : ProcessTable) (pid : Pid) :
    Except ProcessError ProcessTable :=
  match ending with
  | .exited status => table.markExited pid status
  | .discarded => table.discard pid

/-- Whether an ending wakes the callers that sleep on a record: a record without a parent is
taken out in silence when its process exits. -/
def Ending.wakes (ending : Ending) (info : ProcessInfo) : Bool :=
  match ending with
  | .exited _ => info.parent ≠ none
  | .discarded => true

def enter (room : JoinRoom) (pid caller : Pid) : Option JoinOutcome × JoinRoom :=
  match room.table.join pid caller with
  | .blocked => (none, { room with waiters := room.waiters ++ [⟨pid, caller, false⟩] })
  | .joined status table => (some (.joined status table), { room with table := table })
  | .failed cause => (some (.failed cause), room)

def wake (room : JoinRoom) (pid : Pid) : JoinRoom :=
  { room with
    waiters := room.waiters.map fun waiter =>
      if waiter.pid = pid then { waiter with awake := true } else waiter }

def finish (room : JoinRoom) (pid : Pid) (ending : Ending) : Except ProcessError JoinRoom := do
  let info ← room.table.record pid
  let table ← ending.apply room.table pid
  let room := { room with table := table }
  return if ending.wakes info then room.wake pid else room

def resume (room : JoinRoom) (index : Nat) : Option JoinOutcome × JoinRoom :=
  match room.waiters[index]? with
  | none => (none, room)
  | some waiter =>
      if waiter.awake then
        match room.table.rejoin waiter.pid with
        | .blocked =>
            (none, { room with waiters := room.waiters.set index { waiter with awake := false } })
        | .joined status table =>
            (some (.joined status table), ⟨table, room.waiters.eraseIdx index⟩)
        | .failed cause =>
            (some (.failed cause), { room with waiters := room.waiters.eraseIdx index })
      else (none, room)

def enterMany (room : JoinRoom) (pid caller : Pid) : Nat → List JoinOutcome × JoinRoom
  | 0 => ([], room)
  | count + 1 =>
      let (outcome, room) := room.enter pid caller
      let (outcomes, room) := room.enterMany pid caller count
      (outcome.toList ++ outcomes, room)

def resumeMany (room : JoinRoom) : Nat → List JoinOutcome × JoinRoom
  | 0 => ([], room)
  | count + 1 =>
      let (outcome, room) := room.resume 0
      let (outcomes, room) := room.resumeMany count
      (outcome.toList ++ outcomes, room)

end JoinRoom

end Minikernel
