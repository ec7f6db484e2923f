import Minikernel.Proofs.Table.Operations

/-!
The operations of a table in place: each looks a record up, checks what has to hold and then writes
one field after the other, so that it could fail with some of the writes done. Each comes to what
the operation as a whole gives, and where it fails, to the table that it started from.
-/

namespace Minikernel

namespace ProcessTable

variable {table : ProcessTable} {pid caller : Pid} {info : ProcessInfo} {status : ExitStatus}

def settle (table : ProcessTable) :
    Except ProcessError (α × ProcessTable) → Except ProcessError α × ProcessTable
  | .ok (given, after) => (.ok given, after)
  | .error cause => (.error cause, table)

def settleDone (table : ProcessTable) (result : Except ProcessError ProcessTable) :
    Except ProcessError Unit × ProcessTable :=
  table.settle (result.map fun after => ((), after))

def settleJoin (table : ProcessTable) :
    JoinOutcome → Except ProcessError (Option ExitStatus) × ProcessTable
  | .joined status after => (.ok (some status), after)
  | .failed cause => (.error cause, table)
  | .blocked => (.ok none, table)

def setState (table : ProcessTable) (pid : Pid) (state : ProcessState) : ProcessTable :=
  table.modify pid ({ · with state := state })

def removeRecord (table : ProcessTable) (pid : Pid) : Bool × ProcessTable :=
  if table.contains pid then (true, table.erase pid) else (false, table)

def removeReclaimed (table : ProcessTable) (pid : Pid) : ProcessTable :=
  match table.removeRecord pid with
  | (true, left) => { left with reclaimed := left.reclaimed + 1 }
  | (false, left) => left

/-- A slot is taken first and given back when no number is left. -/
def registerInPlace (table : ProcessTable) (name : String) (parent : Option Pid) :
    Except ProcessError Pid × ProcessTable :=
  if table.live + 1 > table.maxRecords then
    (.error (.limitReached table.live table.maxRecords), table)
  else
    let held := { table with live := table.live + 1 }
    if held.nextPid > maxPid then (.error .pidsExhausted, { held with live := held.live - 1 })
    else
      let pid := held.nextPid
      let numbered := { held with nextPid := held.nextPid + 1 }
      let entered := { numbered with records := newborn pid name parent :: numbered.records }
      (.ok pid, { entered with registered := entered.registered + 1 })

def withRecord (table : ProcessTable) (pid : Pid)
    (act : ProcessInfo → Except ProcessError α × ProcessTable) :
    Except ProcessError α × ProcessTable :=
  match table.record pid with
  | .error cause => (.error cause, table)
  | .ok info => act info

def markRunningInPlace (table : ProcessTable) (pid : Pid) :
    Except ProcessError Unit × ProcessTable :=
  table.withRecord pid fun info =>
    if info.state ≠ .created then (.error (.invalidStateTransition pid info.state .running), table)
    else (.ok (), table.setState pid .running)

def discardInPlace (table : ProcessTable) (pid : Pid) : Except ProcessError Unit × ProcessTable :=
  table.withRecord pid fun info =>
    if info.isLive then (.ok (), ((table.setState pid .reclaimed).removeRecord pid).2)
    else (.error (.invalidStateTransition pid info.state .reclaimed), table)

def detachInPlace (table : ProcessTable) (pid : Pid) : Except ProcessError Unit × ProcessTable :=
  table.withRecord pid fun _ => (.ok (), table.modify pid ({ · with parent := none }))

/-- The status is written before it is decided whether the record stays. -/
def markExitedInPlace (table : ProcessTable) (pid : Pid) (status : ExitStatus) :
    Except ProcessError Unit × ProcessTable :=
  table.withRecord pid fun info =>
    if info.state ≠ .running then (.error (.invalidStateTransition pid info.state .exited), table)
    else
      let noted := table.modify pid ({ · with exitStatus := some status })
      if info.parent = none then (.ok (), (noted.setState pid .reclaimed).removeReclaimed pid)
      else (.ok (), noted.setState pid .exited)

def collectInPlace (table : ProcessTable) (info : ProcessInfo) :
    Except ProcessError ExitStatus × ProcessTable :=
  match info.exitStatus with
  | none => (.error (.invalidStateTransition info.pid info.state .reclaimed), table)
  | some status =>
      (.ok status, (table.setState info.pid .reclaimed).removeReclaimed info.pid)

def takeInPlace (table : ProcessTable) (pid caller : Pid) :
    Except ProcessError ExitStatus × ProcessTable :=
  table.withRecord pid fun info =>
    match checkParent info caller with
    | .error cause => (.error cause, table)
    | .ok () =>
        match info.state with
        | .exited => table.collectInPlace info
        | .reclaimed => (.error (.notFound pid), table)
        | .created | .running => (.error (.notYetExited pid), table)

def lookInPlace (table : ProcessTable) (pid : Pid) (info : ProcessInfo) :
    Except ProcessError (Option ExitStatus) × ProcessTable :=
  if info.isLive then (.ok none, table)
  else if info.state = .reclaimed then (.error (.notFound pid), table)
  else
    match table.collectInPlace info with
    | (.ok status, left) => (.ok (some status), left)
    | (.error cause, left) => (.error cause, left)

def joinInPlace (table : ProcessTable) (pid caller : Pid) :
    Except ProcessError (Option ExitStatus) × ProcessTable :=
  table.withRecord pid fun info =>
    match checkParent info caller with
    | .error cause => (.error cause, table)
    | .ok () => table.lookInPlace pid info

def rejoinInPlace (table : ProcessTable) (pid : Pid) :
    Except ProcessError (Option ExitStatus) × ProcessTable :=
  table.withRecord pid (table.lookInPlace pid)

/-- One turn of the loop over the children of a process: the record is looked at again, cut off if
it still is that of a child, and taken out if it has exited. -/
def orphanOne (parent : Pid) (progress : Nat × ProcessTable) (child : Pid) : Nat × ProcessTable :=
  match progress.2.find? child with
  | none => progress
  | some info =>
      if info.parent ≠ some parent then progress
      else
        let cut := progress.2.modify child ({ · with parent := none })
        if info.state = .exited then
          (progress.1 + 1, (cut.setState child .reclaimed).removeReclaimed child)
        else (progress.1, cut)

def orphanEach (table : ProcessTable) (parent : Pid) (order : List Pid) : Nat × ProcessTable :=
  order.foldl (orphanOne parent) (0, table)

def children (table : ProcessTable) (parent : Pid) : List Pid :=
  (table.records.filter fun info => info.parent = some parent).map ProcessInfo.pid

theorem contains_of_find? (found : table.find? pid = some info) : table.contains pid = true := by
  simp [contains, found]

theorem find?_setState (state : ProcessState) (found : table.find? pid = some info) :
    (table.setState pid state).find? pid = some { info with state := state } :=
  find?_modify_self _ (fun _ => rfl) found

theorem removeRecord_of_find? (found : table.find? pid = some info) :
    table.removeRecord pid = (true, table.erase pid) := by
  rw [removeRecord, if_pos (contains_of_find? found)]

theorem removeReclaimed_of_find? (found : table.find? pid = some info) :
    table.removeReclaimed pid = table.reclaim pid := by
  rw [removeReclaimed, removeRecord_of_find? found]
  rfl

theorem erase_setState (state : ProcessState) :
    (table.setState pid state).erase pid = table.erase pid :=
  erase_modify ({ · with state := state }) fun _ => rfl

theorem removeRecord_setState (state : ProcessState) (found : table.find? pid = some info) :
    ((table.setState pid state).removeRecord pid).2 = table.erase pid := by
  rw [removeRecord_of_find? (find?_setState state found), erase_setState]

theorem removeReclaimed_setState (state : ProcessState) (found : table.find? pid = some info) :
    (table.setState pid state).removeReclaimed pid = table.reclaim pid := by
  rw [removeReclaimed_of_find? (find?_setState state found)]
  exact reclaim_modify ({ · with state := state }) fun _ => rfl

theorem setState_noted :
    (table.modify pid ({ · with exitStatus := some status })).setState pid .exited =
      table.keep pid status := by
  simp only [setState, keep, modify, List.map_map, ProcessTable.mk.injEq, and_true]
  refine List.map_congr_left fun info _ => ?_
  by_cases own : info.pid = pid <;> simp [own]

theorem registerInPlace_eq (name : String) (parent : Option Pid) :
    table.registerInPlace name parent = table.settle (table.register name parent) := by
  unfold registerInPlace register
  by_cases full : table.live + 1 > table.maxRecords
  · rw [if_pos full, if_pos full]
    rfl
  · rw [if_neg full, if_neg full]
    by_cases exhausted : table.nextPid > maxPid
    · rw [if_pos exhausted]
      dsimp only
      rw [if_pos exhausted]
      rfl
    · rw [if_neg exhausted]
      dsimp only
      rw [if_neg exhausted]
      rfl

theorem withRecord_eq_settle {act : ProcessInfo → Except ProcessError α × ProcessTable}
    {whole : ProcessInfo → Except ProcessError (α × ProcessTable)}
    (each : ∀ info, table.find? pid = some info → act info = table.settle (whole info)) :
    table.withRecord pid act = table.settle (table.record pid >>= whole) := by
  unfold withRecord
  cases recorded : table.record pid with
  | error cause => rfl
  | ok info => exact each info (record_eq_ok_iff.mp recorded)

theorem withRecord_eq_settleDone {act : ProcessInfo → Except ProcessError Unit × ProcessTable}
    {whole : ProcessInfo → Except ProcessError ProcessTable}
    (each : ∀ info, table.find? pid = some info → act info = table.settleDone (whole info)) :
    table.withRecord pid act = table.settleDone (table.record pid >>= whole) := by
  unfold withRecord
  cases recorded : table.record pid with
  | error cause => rfl
  | ok info => exact each info (record_eq_ok_iff.mp recorded)

theorem markRunningInPlace_eq :
    table.markRunningInPlace pid = table.settleDone (table.markRunning pid) := by
  refine withRecord_eq_settleDone fun info found => ?_
  by_cases created : info.state = .created
  · rw [if_neg (not_not.mpr created), if_pos created]
    rfl
  · rw [if_pos created, if_neg created]
    rfl

theorem discardInPlace_eq :
    table.discardInPlace pid = table.settleDone (table.discard pid) := by
  refine withRecord_eq_settleDone fun info found => ?_
  by_cases live : info.isLive = true
  · rw [if_pos live, if_pos live, removeRecord_setState .reclaimed found]
    rfl
  · rw [if_neg live, if_neg live]
    rfl

theorem detachInPlace_eq : table.detachInPlace pid = table.settleDone (table.detach pid) :=
  withRecord_eq_settleDone fun _ _ => rfl

theorem markExitedInPlace_eq :
    table.markExitedInPlace pid status = table.settleDone (table.markExited pid status) := by
  refine withRecord_eq_settleDone fun info found => ?_
  by_cases running : info.state = .running
  · rw [if_neg (not_not.mpr running), if_neg (not_not.mpr running)]
    have noted := find?_modify_self ({ · with exitStatus := some status }) (fun _ => rfl) found
    by_cases orphan : info.parent = none
    · rw [if_pos orphan, if_pos orphan, removeReclaimed_setState .reclaimed noted,
        reclaim_modify ({ · with exitStatus := some status }) fun _ => rfl]
      rfl
    · rw [if_neg orphan, if_neg orphan, setState_noted]
      rfl
  · rw [if_pos running, if_pos running]
    rfl

theorem collectInPlace_eq (found : table.find? info.pid = some info) :
    table.collectInPlace info = table.settle (table.collect info) := by
  unfold collectInPlace collect
  cases info.exitStatus with
  | none => rfl
  | some status =>
      dsimp only
      rw [removeReclaimed_setState .reclaimed found]
      rfl

theorem takeInPlace_eq :
    table.takeInPlace pid caller = table.settle (table.take pid caller) := by
  refine withRecord_eq_settle fun info found => ?_
  cases checkParent info caller with
  | error cause => rfl
  | ok =>
      cases state : info.state with
      | exited =>
          rw [← find?_pid found] at found
          exact collectInPlace_eq found
      | created | running | reclaimed => rfl

theorem lookInPlace_eq (found : table.find? pid = some info) :
    table.lookInPlace pid info = table.settleJoin (table.rejoin pid) := by
  unfold lookInPlace rejoin
  rw [found]
  by_cases live : info.isLive = true
  · simp [live, settleJoin]
  · by_cases gone : info.state = .reclaimed
    · simp [live, gone, settleJoin]
    · have numbered := find?_pid found
      rw [← numbered] at found
      simp only [live, gone, collectInPlace_eq found]
      cases table.collect info <;> rfl

theorem rejoinInPlace_eq :
    table.rejoinInPlace pid = table.settleJoin (table.rejoin pid) := by
  cases found : table.find? pid with
  | none => simp [rejoinInPlace, withRecord, record, found, rejoin, settleJoin]
  | some info => simp [rejoinInPlace, withRecord, record, found, lookInPlace_eq found]

theorem joinInPlace_eq :
    table.joinInPlace pid caller = table.settleJoin (table.join pid caller) := by
  cases found : table.find? pid with
  | none => simp [joinInPlace, withRecord, record, found, join, settleJoin]
  | some info =>
      cases allowed : checkParent info caller with
      | error cause => simp [joinInPlace, withRecord, record, found, allowed, join, settleJoin]
      | ok =>
          rw [join_of_parent found (checkParent_eq_ok_iff.mp allowed), ← lookInPlace_eq found]
          simp [joinInPlace, withRecord, record, found, allowed]

end ProcessTable

end Minikernel
