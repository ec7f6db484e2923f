import Minikernel.Proofs.Table.Balance

/-!
What the end of a process does to a table: its own record is kept for the parent or taken out, and
its children lose it, the exited ones with their records. Every record is treated on its own, so
the ends of two processes can be told apart record by record, and their order does not show.
-/

namespace Minikernel

namespace ProcessTable

variable {table : ProcessTable} {pid other : Pid} {status : ExitStatus} {info later : ProcessInfo}

theorem Sound.step {request : JoinRoom.Request} {reply : JoinRoom.Reply} {after : JoinRoom}
    (sound : table.Sound) (step : (JoinRoom.ofTable table).Step request reply after) :
    after.table.Sound :=
  JoinRoom.step_sound sound step

def depart (table : ProcessTable) (pid : Pid) (status : ExitStatus) : ProcessTable :=
  let marked := match table.markExited pid status with
    | .ok marked => marked
    | .error _ => table
  (marked.orphanChildren pid).2

def exited (pid : Pid) (status : ExitStatus) (info : ProcessInfo) : Option ProcessInfo :=
  if info.pid ≠ pid then some info
  else if info.parent = none then none
  else some { info with state := .exited, exitStatus := some status }

def ended (pid : Pid) (status : ExitStatus) (info : ProcessInfo) : Option ProcessInfo :=
  (exited pid status info).bind (orphaned pid)

inductive Remains (pid : Pid) (status : ExitStatus) (info : ProcessInfo) : ProcessInfo → Prop
  | untouched : info.pid ≠ pid → info.parent ≠ some pid → Remains pid status info info
  | released : info.pid ≠ pid → info.parent = some pid → info.state ≠ .exited →
      Remains pid status info { info with parent := none }
  | kept : info.pid = pid → info.parent ≠ none → info.parent ≠ some pid →
      Remains pid status info { info with state := .exited, exitStatus := some status }

theorem remains_of_ended (left : ended pid status info = some later) :
    Remains pid status info later := by
  unfold ended exited at left
  by_cases own : info.pid = pid
  · by_cases orphan : info.parent = none
    · simp [own, orphan] at left
    · by_cases child : info.parent = some pid
      · simp [own, orphaned, child] at left
      · simp only [own, ne_eq, not_true_eq_false, if_false, orphan, Option.bind_some, orphaned,
          child, not_false_eq_true, if_true, Option.some.injEq] at left
        subst left
        simpa [own] using Remains.kept own orphan child
  · by_cases child : info.parent = some pid
    · by_cases done : info.state = .exited
      · simp [own, orphaned, child, done] at left
      · simp only [own, ne_eq, not_false_eq_true, if_true, Option.bind_some, orphaned, child,
          not_true_eq_false, if_false, done, Option.some.injEq] at left
        subst left
        exact .released own child done
    · simp only [own, ne_eq, not_false_eq_true, if_true, Option.bind_some, orphaned, child,
        Option.some.injEq] at left
      subst left
      exact .untouched own child

theorem Remains.same_pid (remains : Remains pid status info later) : later.pid = info.pid := by
  cases remains <;> rfl

theorem ended_of_child (status : ExitStatus) (own : info.pid = pid) (parented : info.parent ≠ none)
    (selfless : info.parent ≠ some pid) :
    ended pid status info = some { info with state := .exited, exitStatus := some status } := by
  simp [ended, exited, orphaned, own, parented, selfless]

theorem ended_of_stranger (status : ExitStatus) (differs : info.pid ≠ pid)
    (stranger : info.parent ≠ some pid) :
    ended pid status info = some info := by
  simp [ended, exited, orphaned, differs, stranger]

theorem ended_of_running (status : ExitStatus) (differs : info.pid ≠ pid)
    (running : info.state = .running) :
    ∃ later, ended pid status info = some later ∧ later.pid = info.pid ∧
      later.state = .running := by
  by_cases child : info.parent = some pid
  · refine ⟨{ info with parent := none }, ?_, rfl, running⟩
    simp [ended, exited, differs, orphaned, child, running]
  · exact ⟨info, ended_of_stranger status differs child, rfl, running⟩

section Order

variable {first second : Pid}

theorem ended_comm_own (differ : first ≠ second) (status late : ExitStatus)
    (own : info.pid = first) :
    (ended first status info).bind (ended second late) =
      (ended second late info).bind (ended first status) := by
  by_cases orphan : info.parent = none
  · simp [ended, exited, orphaned, own, differ, orphan]
  · by_cases selfish : info.parent = some first
    · simp [ended, exited, orphaned, own, differ, selfish]
    · by_cases child : info.parent = some second
      -- Before its parent it is kept and the parent takes it out; after it, its own exit does.
      · by_cases done : info.state = .exited <;>
          simp [ended, exited, orphaned, own, differ, differ.symm, child, done]
      · simp [ended, exited, orphaned, own, differ, orphan, selfish, child]

theorem ended_comm_child (differ : first ≠ second) (status late : ExitStatus)
    (notFirst : info.pid ≠ first) (notSecond : info.pid ≠ second)
    (child : info.parent = some first) :
    (ended first status info).bind (ended second late) =
      (ended second late info).bind (ended first status) := by
  by_cases done : info.state = .exited <;>
    simp [ended, exited, orphaned, notFirst, notSecond, child, differ, done]

theorem ended_comm (differ : first ≠ second) (status late : ExitStatus) (info : ProcessInfo) :
    (ended first status info).bind (ended second late) =
      (ended second late info).bind (ended first status) := by
  by_cases isFirst : info.pid = first
  · exact ended_comm_own differ status late isFirst
  · by_cases isSecond : info.pid = second
    · exact (ended_comm_own differ.symm late status isSecond).symm
    · by_cases childFirst : info.parent = some first
      · exact ended_comm_child differ status late isFirst isSecond childFirst
      · by_cases childSecond : info.parent = some second
        · exact (ended_comm_child differ.symm late status isSecond isFirst childSecond).symm
        · simp [ended, exited, orphaned, isFirst, isSecond, childFirst, childSecond]

end Order

section Ending

variable (sound : table.Sound) (found : table.find? pid = some info)
  (running : info.state = .running)

include found running in
theorem depart_eq (status : ExitStatus) :
    table.depart pid status =
      ((if info.parent = none then table.reclaim pid else table.keep pid status).orphanChildren
        pid).2 := by
  have marked : table.markExited pid status = .ok _ :=
    markExited_eq_ok_iff.mpr ⟨info, found, running, rfl⟩
  simp only [depart, marked]

include sound found in
theorem exited_records (status : ExitStatus) :
    (if info.parent = none then table.reclaim pid else table.keep pid status).records =
      table.records.filterMap (exited pid status) := by
  by_cases orphan : info.parent = none
  · rw [if_pos orphan]
    show table.records.filter (fun record => record.pid ≠ pid) = _
    rw [← List.filterMap_eq_filter]
    refine List.filterMap_congr fun record member => ?_
    by_cases same : record.pid = pid
    · have isInfo := sound.distinct.eq_of_mem found member same
      subst isInfo
      simp [exited, same, orphan, Option.guard]
    · simp [exited, same, Option.guard]
  · rw [if_neg orphan]
    show table.records.map _ = _
    rw [← List.filterMap_eq_map]
    refine List.filterMap_congr fun record member => ?_
    by_cases same : record.pid = pid
    · have isInfo := sound.distinct.eq_of_mem found member same
      subst isInfo
      simp [exited, same, orphan]
    · simp [exited, same]

include sound found running in
theorem depart_records (status : ExitStatus) :
    (table.depart pid status).records = table.records.filterMap (ended pid status) := by
  rw [depart_eq found running, orphanChildren_records, exited_records sound found,
    List.filterMap_filterMap]
  rfl

include sound found running in
theorem remains_of_mem_depart (member : later ∈ (table.depart pid status).records) :
    ∃ record ∈ table.records, Remains pid status record later := by
  rw [depart_records sound found running] at member
  obtain ⟨record, held, left⟩ := List.mem_filterMap.mp member
  exact ⟨record, held, remains_of_ended left⟩

include found running in
theorem depart_numbers (status : ExitStatus) :
    (table.depart pid status).nextPid = table.nextPid ∧
      (table.depart pid status).maxRecords = table.maxRecords ∧
      (table.depart pid status).registered = table.registered := by
  rw [depart_eq found running]
  by_cases orphan : info.parent = none
  · rw [if_pos orphan]
    exact ⟨rfl, rfl, rfl⟩
  · rw [if_neg orphan]
    exact ⟨rfl, rfl, rfl⟩

include sound found running in
theorem Sound.depart (status : ExitStatus) : (table.depart pid status).Sound := by
  have marked :
      (if info.parent = none then table.reclaim pid else table.keep pid status).Sound := by
    by_cases orphan : info.parent = none
    · rw [if_pos orphan]
      exact sound.step
        (.vanished found running orphan : JoinRoom.Step _ (.markExited pid status) _ _)
    · rw [if_neg orphan]
      exact sound.step (.exited found running orphan)
  rw [depart_eq found running]
  exact marked.step .orphaned

include sound found running in
theorem Balanced.depart (balanced : table.Balanced) (status : ExitStatus) :
    (table.depart pid status).Balanced := by
  rw [depart_eq found running]
  by_cases orphan : info.parent = none
  · rw [if_pos orphan]
    exact (balanced.reclaim sound.distinct found).orphanChildren pid
  · rw [if_neg orphan]
    exact (balanced.modify pid _).orphanChildren pid

include sound found running in
theorem find?_depart {record : ProcessInfo} (held : table.find? other = some record)
    (left : ended pid status record = some later) :
    (table.depart pid status).find? other = some later := by
  rw [find?_eq_some_iff (sound.depart found running status).distinct,
    depart_records sound found running]
  have same := (remains_of_ended left).same_pid
  exact ⟨List.mem_filterMap.mpr ⟨record, mem_of_find? held, left⟩, same.trans (find?_pid held)⟩

include sound found running in
theorem depart_keeps_running {host : ProcessInfo} (status : ExitStatus) (differs : other ≠ pid)
    (held : table.find? other = some host) (runs : host.state = .running) :
    ∃ later, (table.depart pid status).find? other = some later ∧ later.state = .running := by
  have numbered := find?_pid held
  obtain ⟨later, stays, -, still⟩ := ended_of_running status (numbered ▸ differs) runs
  exact ⟨later, find?_depart sound found running held stays, still⟩

end Ending

theorem depart_comm {first second : Pid} {infoFirst infoSecond : ProcessInfo}
    (sound : table.Sound) (balanced : table.Balanced) (differ : first ≠ second)
    (foundFirst : table.find? first = some infoFirst) (runsFirst : infoFirst.state = .running)
    (foundSecond : table.find? second = some infoSecond)
    (runsSecond : infoSecond.state = .running) (status late : ExitStatus) :
    (table.depart first status).depart second late =
      (table.depart second late).depart first status := by
  obtain ⟨laterSecond, heldSecond, stillSecond⟩ :=
    depart_keeps_running sound foundFirst runsFirst status differ.symm foundSecond runsSecond
  obtain ⟨laterFirst, heldFirst, stillFirst⟩ :=
    depart_keeps_running sound foundSecond runsSecond late differ foundFirst runsFirst
  have soundFirst := sound.depart foundFirst runsFirst status
  have soundSecond := sound.depart foundSecond runsSecond late
  have balancedFirst := balanced.depart sound foundFirst runsFirst status
  have balancedSecond := balanced.depart sound foundSecond runsSecond late
  obtain ⟨next, max, entered⟩ := depart_numbers foundFirst runsFirst status
  obtain ⟨nextLate, maxLate, enteredLate⟩ := depart_numbers foundSecond runsSecond late
  obtain ⟨next', max', entered'⟩ := depart_numbers heldSecond stillSecond late
  obtain ⟨nextLate', maxLate', enteredLate'⟩ := depart_numbers heldFirst stillFirst status
  -- The counters of a balanced table follow from its records, so only these are compared.
  refine Balanced.ext (balancedFirst.depart soundFirst heldSecond stillSecond late)
    (balancedSecond.depart soundSecond heldFirst stillFirst status) ?_ ?_ ?_ ?_
  · rw [depart_records soundFirst heldSecond stillSecond,
      depart_records sound foundFirst runsFirst, depart_records soundSecond heldFirst stillFirst,
      depart_records sound foundSecond runsSecond, List.filterMap_filterMap,
      List.filterMap_filterMap]
    exact List.filterMap_congr fun info _ => ended_comm differ status late info
  · rw [next', next, nextLate', nextLate]
  · rw [max', max, maxLate', maxLate]
  · rw [entered', entered, enteredLate', enteredLate]

end ProcessTable

end Minikernel
