import Minikernel.Process.Joining
import Minikernel.Proofs.Table.Lookup

/-!
When each operation on a table succeeds, and what table it gives. An operation that succeeds
was allowed by the record that it found, so each statement names that record.
-/

namespace Minikernel

theorem ProcessInfo.isLive_iff {info : ProcessInfo} :
    info.isLive = true ↔ info.state = .created ∨ info.state = .running := by
  simp [ProcessInfo.isLive]

namespace ProcessTable

variable {table changed : ProcessTable} {pid caller parent : Pid} {info : ProcessInfo}
  {name : String} {origin : Option Pid} {status : ExitStatus}

def newborn (pid : Pid) (name : String) (parent : Option Pid) : ProcessInfo :=
  ⟨pid, name, .created, parent, none⟩

def enter (table : ProcessTable) (name : String) (parent : Option Pid) : ProcessTable :=
  { table with
    records := newborn table.nextPid name parent :: table.records
    nextPid := table.nextPid + 1
    live := table.live + 1
    registered := table.registered + 1 }

theorem find?_enter :
    (table.enter name origin).find? pid =
      if pid = table.nextPid then some (newborn pid name origin) else table.find? pid := by
  by_cases fresh : pid = table.nextPid
  · simp [find?, enter, newborn, fresh]
  · simp [find?, enter, newborn, fresh, Ne.symm fresh]

theorem register_eq_ok_iff :
    table.register name origin = .ok (pid, changed) ↔
      table.live < table.maxRecords ∧ table.nextPid ≤ maxPid ∧ table.nextPid = pid ∧
        table.enter name origin = changed := by
  unfold register enter
  split
  · rename_i full
    have noRoom : ¬table.live < table.maxRecords := by omega
    simp [noRoom]
  · rename_i notFull
    have room : table.live < table.maxRecords := by omega
    split
    · rename_i exhausted
      simp [UInt32.not_le.mpr exhausted]
    · rename_i left
      simp [room, UInt32.not_lt.mp left, newborn]

theorem markRunning_eq_ok_iff :
    table.markRunning pid = .ok changed ↔
      ∃ info, table.find? pid = some info ∧ info.state = .created ∧
        table.modify pid ({ · with state := .running }) = changed := by
  unfold markRunning record
  cases found : table.find? pid with
  | none => simp [bind, Except.bind]
  | some info =>
      by_cases fresh : info.state = .created <;>
        simp [bind, Except.bind, pure, Except.pure, throw, throwThe, MonadExceptOf.throw, fresh]

theorem discard_eq_ok_iff :
    table.discard pid = .ok changed ↔
      ∃ info, table.find? pid = some info ∧ info.isLive = true ∧ table.erase pid = changed := by
  unfold discard record
  cases found : table.find? pid with
  | none => simp [bind, Except.bind]
  | some info =>
      by_cases live : info.isLive = true <;>
        simp [bind, Except.bind, pure, Except.pure, throw, throwThe, MonadExceptOf.throw, live]

theorem detach_eq_ok_iff :
    table.detach pid = .ok changed ↔
      ∃ info, table.find? pid = some info ∧
        table.modify pid ({ · with parent := none }) = changed := by
  unfold detach record
  cases found : table.find? pid <;> simp [bind, Except.bind, pure, Except.pure]

def keep (table : ProcessTable) (pid : Pid) (status : ExitStatus) : ProcessTable :=
  table.modify pid ({ · with state := .exited, exitStatus := some status })

theorem find?_keep (found : table.find? pid = some info) :
    (table.keep pid status).find? pid =
      some { info with state := .exited, exitStatus := some status } :=
  find?_modify_self _ (fun _ => rfl) found

theorem reclaim_keep : (table.keep pid status).reclaim pid = table.reclaim pid :=
  reclaim_modify ({ · with state := .exited, exitStatus := some status }) fun _ => rfl

theorem markExited_eq_ok_iff :
    table.markExited pid status = .ok changed ↔
      ∃ info, table.find? pid = some info ∧ info.state = .running ∧
        (if info.parent = none then table.reclaim pid else table.keep pid status) = changed := by
  unfold markExited record
  cases found : table.find? pid with
  | none => simp [bind, Except.bind]
  | some info =>
      by_cases running : info.state = .running <;>
        by_cases orphan : info.parent = none <;>
        simp [bind, Except.bind, pure, Except.pure, throw, throwThe, MonadExceptOf.throw, running,
          orphan, keep]

theorem collect_eq_ok_iff :
    table.collect info = .ok (status, changed) ↔
      info.exitStatus = some status ∧ table.reclaim info.pid = changed := by
  unfold collect
  cases info.exitStatus <;> simp

theorem checkParent_eq_ok_iff : checkParent info caller = .ok () ↔ info.parent = some caller := by
  unfold checkParent
  split
  · simp_all
  · split <;> simp_all

/-- A record under the number `pid` whose status can be collected. -/
def Ripe (table : ProcessTable) (pid : Pid) (info : ProcessInfo) (status : ExitStatus) : Prop :=
  table.find? pid = some info ∧ info.state = .exited ∧ info.exitStatus = some status

theorem take_eq_ok_iff :
    table.take pid caller = .ok (status, changed) ↔
      ∃ info, table.Ripe pid info status ∧ info.parent = some caller ∧
        table.reclaim pid = changed := by
  unfold take record Ripe
  cases found : table.find? pid with
  | none => simp [bind, Except.bind]
  | some info =>
      have numbered := find?_pid found
      by_cases child : info.parent = some caller
      · have allowed := checkParent_eq_ok_iff.mpr child
        cases state : info.state <;>
          simp [bind, Except.bind, throw, throwThe, MonadExceptOf.throw, allowed, state, child,
            collect_eq_ok_iff, numbered]
      · cases refused : checkParent info caller with
        | ok _ => exact absurd (checkParent_eq_ok_iff.mp refused) child
        | error cause => simp [bind, Except.bind, refused, child]

theorem take_of_missing (missing : table.find? pid = none) :
    table.take pid caller = .error (.notFound pid) := by
  simp [take, record_of_missing missing, bind, Except.bind]

theorem take_of_live (found : table.find? pid = some info) (live : info.isLive = true)
    (child : info.parent = some caller) :
    table.take pid caller = .error (.notYetExited pid) := by
  have allowed := checkParent_eq_ok_iff.mpr child
  rcases ProcessInfo.isLive_iff.mp live with created | running
  · simp [take, record, found, bind, Except.bind, allowed, created, throw, throwThe,
      MonadExceptOf.throw]
  · simp [take, record, found, bind, Except.bind, allowed, running, throw, throwThe,
      MonadExceptOf.throw]

theorem rejoin_of_missing (missing : table.find? pid = none) :
    table.rejoin pid = .failed (.notFound pid) := by
  simp [rejoin, missing]

theorem rejoin_eq_joined_iff :
    table.rejoin pid = .joined status changed ↔
      ∃ info, table.Ripe pid info status ∧ table.reclaim pid = changed := by
  unfold rejoin Ripe
  cases found : table.find? pid with
  | none => simp
  | some info =>
      have numbered := find?_pid found
      cases state : info.state
      case exited =>
        cases exit : info.exitStatus <;>
          simp [ProcessInfo.isLive, state, collect, exit, numbered]
      all_goals simp [ProcessInfo.isLive, state]

theorem rejoin_eq_blocked_iff : table.rejoin pid = .blocked ↔ table.isLive pid = true := by
  unfold rejoin isLive
  cases found : table.find? pid with
  | none => simp
  | some info =>
      cases live : info.isLive
      · by_cases gone : info.state = .reclaimed
        · simp [live, gone]
        · cases collected : table.collect info <;> simp [live, gone, collected]
      · simp [live]

theorem join_of_parent (found : table.find? pid = some info)
    (child : info.parent = some caller) : table.join pid caller = table.rejoin pid := by
  simp [join, rejoin, record, found, checkParent, child]

theorem join_of_stranger (found : table.find? pid = some info)
    (stranger : info.parent ≠ some caller) : ∃ cause, table.join pid caller = .failed cause := by
  cases refused : checkParent info caller with
  | ok _ => exact absurd (checkParent_eq_ok_iff.mp refused) stranger
  | error cause => exact ⟨cause, by simp [join, record, found, refused]⟩

theorem join_of_missing (missing : table.find? pid = none) :
    table.join pid caller = .failed (.notFound pid) := by
  simp [join, record, missing]

theorem join_eq_joined_iff :
    table.join pid caller = .joined status changed ↔
      ∃ info, table.Ripe pid info status ∧ info.parent = some caller ∧
        table.reclaim pid = changed := by
  cases found : table.find? pid with
  | none => simp [join_of_missing found, Ripe, found]
  | some info =>
      by_cases child : info.parent = some caller
      · rw [join_of_parent found child, rejoin_eq_joined_iff]
        simp [Ripe, found, child]
      · obtain ⟨cause, failed⟩ := join_of_stranger found child
        simp [failed, Ripe, found, child]

theorem join_eq_blocked_iff :
    table.join pid caller = .blocked ↔
      ∃ info, table.find? pid = some info ∧ info.isLive = true ∧ info.parent = some caller := by
  cases found : table.find? pid with
  | none => simp [join_of_missing found]
  | some info =>
      by_cases child : info.parent = some caller
      · rw [join_of_parent found child, rejoin_eq_blocked_iff, isLive_of_find? found]
        simp [child]
      · obtain ⟨cause, failed⟩ := join_of_stranger found child
        simp [failed, child]

end ProcessTable

end Minikernel
