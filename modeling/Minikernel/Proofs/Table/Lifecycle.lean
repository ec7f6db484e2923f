import Minikernel.Proofs.Table.Step

/-!
The life of a record through a history: it is entered once, goes from created to running to
exited, and is taken out for good. Its stage is the point it has come to, and never falls.
-/

namespace Minikernel

namespace JoinRoom

open ProcessTable

variable {room after : JoinRoom} {request : Request} {reply : Reply} {pid : Pid}

/-- The parent may have the status of a record, and so may a caller that was the parent when it
fell asleep and has been woken since. -/
def Entitled (room : JoinRoom) (info : ProcessInfo) (caller : Pid) : Prop :=
  info.parent = some caller ∨ ⟨info.pid, caller, true⟩ ∈ room.waiters

inductive Change (room : JoinRoom) (pid : Pid) :
    Request → Reply → Option ProcessInfo → Option ProcessInfo → Prop
  | kept {request reply before} : Change room pid request reply before before
  | registered {name parent before} : pid = room.table.nextPid → pid ≤ maxPid →
      Change room pid (.register name parent) (.registered pid) before
        (some (newborn pid name parent))
  | started {info} : info.state = .created →
      Change room pid (.markRunning pid) .done (some info)
        (some { info with state := .running })
  | exited {info status} : info.state = .running → info.parent ≠ none →
      Change room pid (.markExited pid status) .done (some info)
        (some { info with state := .exited, exitStatus := some status })
  | vanished {info status} : info.state = .running → info.parent = none →
      Change room pid (.markExited pid status) .done (some info) none
  | discarded {info} : info.isLive = true →
      Change room pid (.discard pid) .done (some info) none
  | detached {info} :
      Change room pid (.detach pid) .done (some info) (some { info with parent := none })
  | released {info parent count} : info.parent = some parent → info.state ≠ .exited →
      Change room pid (.orphanChildren parent) (.orphaned count) (some info)
        (some { info with parent := none })
  | reaped {info parent count} : info.parent = some parent → info.state = .exited →
      Change room pid (.orphanChildren parent) (.orphaned count) (some info) none
  | collected {request info caller status} : room.call? request = some (pid, caller) →
      room.Entitled info caller → info.state = .exited → info.exitStatus = some status →
      Change room pid request (.collected status) (some info) none

theorem Change.of_target {table : ProcessTable} (target : Pid)
    (own : room.Change target request reply (room.table.find? target) (table.find? target))
    (others : ∀ other, other ≠ target → table.find? other = room.table.find? other) :
    room.Change pid request reply (room.table.find? pid) (table.find? pid) := by
  by_cases same : pid = target
  · subst same
    exact own
  · rw [others pid same]
    exact .kept

theorem Change.of_modify (target : Pid) {info : ProcessInfo} (change : ProcessInfo → ProcessInfo)
    (keepsPid : ∀ info, (change info).pid = info.pid)
    (found : room.table.find? target = some info)
    (own : room.Change target request reply (some info) (some (change info))) :
    room.Change pid request reply (room.table.find? pid)
      ((room.table.modify target change).find? pid) := by
  refine .of_target target ?_ fun other differs => ?_
  · rwa [find?_modify_self change keepsPid found, found]
  · rw [find?_modify change keepsPid, if_neg differs]

theorem Change.of_erase (target : Pid) {info : ProcessInfo}
    (found : room.table.find? target = some info)
    (own : room.Change target request reply (some info) none) :
    room.Change pid request reply (room.table.find? pid)
      ((room.table.erase target).find? pid) := by
  refine .of_target target ?_ fun other differs => ?_
  · rwa [find?_erase, if_pos rfl, found]
  · rw [find?_erase, if_neg differs]

theorem Change.of_collect {target : Pid} (caller : Pid) {info : ProcessInfo} {status : ExitStatus}
    (ripe : room.table.Ripe target info status)
    (called : room.call? request = some (target, caller))
    (entitled : room.Entitled info caller) :
    room.Change pid request (.collected status) (room.table.find? pid)
      ((room.table.reclaim target).find? pid) :=
  .of_erase target ripe.1 (.collected called entitled ripe.2.1 ripe.2.2)

theorem step_change (distinct : room.table.Distinct) (step : room.Step request reply after)
    (pid : Pid) :
    room.Change pid request reply (room.table.find? pid) (after.table.find? pid) := by
  cases step with
  | refused | slept | lost | dozed | idle => exact .kept
  | registered notFull left =>
      refine .of_target room.table.nextPid ?_ fun other differs => ?_
      · rw [find?_enter, if_pos rfl]
        exact .registered rfl left
      · rw [find?_enter, if_neg differs]
  | started found created => exact .of_modify _ _ (fun _ => rfl) found (.started created)
  | exited found running child =>
      exact .of_modify _ _ (fun _ => rfl) found (.exited running child)
  | vanished found running orphan => exact .of_erase _ found (.vanished running orphan)
  | discarded found live => exact .of_erase _ found (.discarded live)
  | detached found => exact .of_modify _ _ (fun _ => rfl) found .detached
  | taken ripe child | joined ripe child => exact .of_collect _ ripe rfl (.inl child)
  | @won index pid caller info status present ripe =>
      refine .of_collect caller ripe (by simp [call?, present]) (.inr ?_)
      rw [find?_pid ripe.1]
      exact List.mem_of_getElem? present
  | @orphaned parent =>
      show room.Change pid _ _ _ ((room.table.orphanChildren parent).2.find? pid)
      rw [find?_orphanChildren distinct]
      cases found : room.table.find? pid with
      | none => exact .kept
      | some info =>
          by_cases child : info.parent = some parent
          · by_cases ended : info.state = .exited
            · simpa [ProcessTable.orphaned, child, ended] using .reaped child ended
            · simpa [ProcessTable.orphaned, child, ended] using .released child ended
          · simpa [ProcessTable.orphaned, child] using .kept

inductive Origin (room : JoinRoom) (pid : Pid) : Request → Reply → ProcessInfo → Prop
  | kept {request reply info} : room.table.find? pid = some info →
      Origin room pid request reply info
  | registered {name parent} : pid = room.table.nextPid → pid ≤ maxPid →
      Origin room pid (.register name parent) (.registered pid) (newborn pid name parent)
  | started {old} : room.table.find? pid = some old → old.state = .created →
      Origin room pid (.markRunning pid) .done { old with state := .running }
  | exited {old status} : room.table.find? pid = some old → old.state = .running →
      old.parent ≠ none →
      Origin room pid (.markExited pid status) .done
        { old with state := .exited, exitStatus := some status }
  | detached {old} : room.table.find? pid = some old →
      Origin room pid (.detach pid) .done { old with parent := none }
  | released {old parent count} : room.table.find? pid = some old → old.parent = some parent →
      old.state ≠ .exited →
      Origin room pid (.orphanChildren parent) (.orphaned count) { old with parent := none }

theorem step_origin {info : ProcessInfo} (distinct : room.table.Distinct)
    (step : room.Step request reply after) (held : after.table.find? pid = some info) :
    room.Origin pid request reply info := by
  have change := step_change distinct step pid
  rw [held] at change
  generalize found : room.table.find? pid = before at change
  generalize result : some info = later at change
  cases change with
  | kept => exact .kept (found.trans result.symm)
  | registered fresh left => cases result; exact .registered fresh left
  | started created => cases result; exact .started found created
  | exited running child => cases result; exact .exited found running child
  | detached => cases result; exact .detached found
  | released child live => cases result; exact .released found child live
  | vanished | discarded | reaped | collected => cases result

end JoinRoom

def ProcessState.rank : ProcessState → Nat
  | created => 1
  | running => 2
  | exited => 3
  | reclaimed => 4

/-- A record shows a status exactly once its process has exited, and none is seen reclaimed. -/
def ProcessInfo.Coherent (info : ProcessInfo) : Prop :=
  info.state ≠ .reclaimed ∧ (info.exitStatus.isSome = true ↔ info.state = .exited)

namespace ProcessTable

variable {table : ProcessTable} {pid : Pid} {info : ProcessInfo}

structure Sound (table : ProcessTable) : Prop where
  distinct : table.Distinct
  bounded : table.nextPid ≤ maxPid + 1
  numbered : ∀ pid info, table.find? pid = some info → pid < table.nextPid
  coherent : ∀ pid info, table.find? pid = some info → info.Coherent

theorem sound_ofLimit (maxRecords : Nat) : (ofLimit maxRecords).Sound where
  distinct := List.nodup_nil
  bounded := show firstPid ≤ maxPid + 1 by decide
  numbered := by simp [find?, ofLimit]
  coherent := by simp [find?, ofLimit]

theorem lt_succ_of_le_maxPid {next : Pid} (left : next ≤ maxPid) : next < next + 1 := by
  have bound : next.toNat ≤ 0x7fffffff := UInt32.le_iff_toNat_le.mp left
  have one : (1 : UInt32).toNat = 1 := rfl
  rw [UInt32.lt_iff_toNat_lt, UInt32.toNat_add]
  omega

theorem succ_le_of_le_maxPid {next : Pid} (left : next ≤ maxPid) : next + 1 ≤ maxPid + 1 := by
  have bound : next.toNat ≤ 0x7fffffff := UInt32.le_iff_toNat_le.mp left
  have limit : (maxPid + 1).toNat = 0x80000000 := rfl
  have one : (1 : UInt32).toNat = 1 := rfl
  rw [UInt32.le_iff_toNat_le, UInt32.toNat_add]
  omega

theorem Sound.missing_nextPid (sound : table.Sound) : table.find? table.nextPid = none := by
  cases found : table.find? table.nextPid with
  | none => rfl
  | some info => exact absurd (sound.numbered _ _ found) (UInt32.lt_irrefl _)

theorem Sound.distinct_enter (sound : table.Sound) (name : String) (parent : Option Pid) :
    (table.enter name parent).Distinct := by
  refine List.nodup_cons.mpr ⟨?_, sound.distinct⟩
  intro member
  obtain ⟨info, held, numbered⟩ := List.mem_map.mp member
  have found := (find?_eq_some_iff sound.distinct).mpr ⟨held, numbered⟩
  rw [newborn, sound.missing_nextPid] at found
  simp at found

def stage (table : ProcessTable) (pid : Pid) : Nat :=
  match table.find? pid with
  | some info => info.state.rank
  | none => if pid < table.nextPid then 4 else 0

theorem stage_le (table : ProcessTable) (pid : Pid) : table.stage pid ≤ 4 := by
  unfold stage
  split
  · rename_i info _
    cases info.state <;> decide
  · split <;> decide

theorem stage_of_find? (found : table.find? pid = some info) :
    table.stage pid = info.state.rank := by
  simp [stage, found]

theorem isLive_iff_stage :
    table.isLive pid = true ↔ table.stage pid = 1 ∨ table.stage pid = 2 := by
  cases found : table.find? pid with
  | none => by_cases entered : pid < table.nextPid <;> simp [isLive, stage, found, entered]
  | some info =>
      rw [isLive_of_find? found, stage_of_find? found, ProcessInfo.isLive_iff]
      cases info.state <;> simp [ProcessState.rank]

theorem stage_pos (entered : pid < table.nextPid) : table.stage pid ≠ 0 := by
  unfold stage
  split
  · rename_i info _
    cases info.state <;> decide
  · simp [entered]

theorem stage_eq_three_iff :
    table.stage pid = 3 ↔ ∃ info, table.find? pid = some info ∧ info.state = .exited := by
  cases found : table.find? pid with
  | none => by_cases entered : pid < table.nextPid <;> simp [stage, found, entered]
  | some info =>
      rw [stage_of_find? found]
      cases state : info.state <;> simp [ProcessState.rank, state]

theorem stage_of_gone (missing : table.find? pid = none) (entered : pid < table.nextPid) :
    table.stage pid = 4 := by
  simp [stage, missing, entered]

theorem stage_of_unentered (sound : table.Sound) (unentered : ¬pid < table.nextPid) :
    table.stage pid = 0 := by
  cases found : table.find? pid with
  | none => simp [stage, found, unentered]
  | some info => exact absurd (sound.numbered _ _ found) unentered

theorem stage_nextPid (sound : table.Sound) : table.stage table.nextPid = 0 :=
  stage_of_unentered sound (UInt32.lt_irrefl _)

theorem stage_keep {status : ExitStatus} (found : table.find? pid = some info) :
    (table.keep pid status).stage pid = 3 := by
  rw [stage_of_find? (find?_keep found)]
  rfl

theorem Sound.stage_reclaim (sound : table.Sound) (found : table.find? pid = some info) :
    (table.reclaim pid).stage pid = 4 := by
  have missing : (table.reclaim pid).find? pid = none := by rw [find?_reclaim, if_pos rfl]
  exact stage_of_gone missing (sound.numbered _ _ found)

theorem Sound.stage_eq_four_iff (sound : table.Sound) :
    table.stage pid = 4 ↔ table.find? pid = none ∧ pid < table.nextPid := by
  constructor
  · intro last
    cases found : table.find? pid with
    | none => simpa [stage, found] using last
    | some info =>
        have visible := (sound.coherent _ _ found).1
        cases state : info.state <;> simp_all [stage, ProcessState.rank]
  · exact fun gone => stage_of_gone gone.1 gone.2

end ProcessTable

namespace JoinRoom

open ProcessTable

variable {room after : JoinRoom} {request : Request} {reply : Reply} {pid : Pid}
  {before : Option ProcessInfo}

theorem step_distinct (sound : room.table.Sound) (step : room.Step request reply after) :
    after.table.Distinct := by
  cases step with
  | refused | slept | lost | dozed | idle => exact sound.distinct
  | registered => exact sound.distinct_enter _ _
  | started | exited | detached => exact distinct_modify _ (fun _ => rfl) sound.distinct
  | vanished | discarded | taken | joined | won => exact distinct_erase sound.distinct
  | orphaned => exact distinct_orphanChildren sound.distinct

theorem step_nextPid (sound : room.table.Sound) (step : room.Step request reply after) :
    room.table.nextPid ≤ after.table.nextPid ∧ after.table.nextPid ≤ maxPid + 1 := by
  cases step with
  | registered notFull left =>
      exact ⟨UInt32.le_of_lt (lt_succ_of_le_maxPid left), succ_le_of_le_maxPid left⟩
  | _ => exact ⟨UInt32.le_refl _, sound.bounded⟩

theorem step_registered {name : String} {parent : Option Pid}
    (step : room.Step (.register name parent) (.registered pid) after) :
    pid = room.table.nextPid ∧ pid < after.table.nextPid := by
  cases step with
  | registered notFull left => exact ⟨rfl, lt_succ_of_le_maxPid left⟩

theorem Origin.coherent {info : ProcessInfo} (origin : room.Origin pid request reply info)
    (coherent : ∀ info, room.table.find? pid = some info → info.Coherent) : info.Coherent := by
  cases origin with
  | kept found => exact coherent info found
  | registered => simp [ProcessInfo.Coherent, newborn]
  | started found created =>
      have old := coherent _ found
      simp_all [ProcessInfo.Coherent]
  | exited => simp [ProcessInfo.Coherent]
  | detached found | released found =>
      have old := coherent _ found
      exact old

theorem step_sound (sound : room.table.Sound) (step : room.Step request reply after) :
    after.table.Sound := by
  have grows := step_nextPid sound step
  refine ⟨step_distinct sound step, grows.2, ?_, ?_⟩
  · intro pid info held
    cases step_origin sound.distinct step held with
    | registered => exact (step_registered step).2
    | kept found | started found | exited found | detached found | released found =>
        exact UInt32.lt_of_lt_of_le (sound.numbered _ _ found) grows.1
  · intro pid info held
    exact (step_origin sound.distinct step held).coherent (sound.coherent pid)

theorem step_stage (sound : room.table.Sound) (step : room.Step request reply after) (pid : Pid) :
    room.table.stage pid ≤ after.table.stage pid := by
  have grows := (step_nextPid sound step).1
  cases held : after.table.find? pid with
  | none =>
      by_cases entered : pid < after.table.nextPid
      · rw [stage_of_gone held entered]
        exact stage_le _ _
      · have fresh : ¬pid < room.table.nextPid := fun early =>
          entered (UInt32.lt_of_lt_of_le early grows)
        rw [stage_of_unentered sound fresh]
        exact Nat.zero_le _
  | some later =>
      rw [stage_of_find? held]
      cases step_origin sound.distinct step held with
      | registered fresh =>
          rw [fresh, stage_nextPid sound]
          exact Nat.zero_le _
      | kept found | detached found | released found =>
          have same := stage_of_find? found
          exact Nat.le_of_eq same
      | started found created =>
          rw [stage_of_find? found, created]
          exact Nat.le_succ 1
      | exited found running =>
          rw [stage_of_find? found, running]
          exact Nat.le_succ 2

theorem step_ends (sound : room.table.Sound) (step : room.Step request reply after)
    (live : room.table.isLive pid = true) (ended : after.table.isLive pid = false) :
    reply = .done ∧ (request = .discard pid ∨ ∃ status info,
      request = .markExited pid status ∧ room.table.find? pid = some info ∧
        info.state = .running) := by
  have change := step_change sound.distinct step pid
  cases found : room.table.find? pid with
  | none => simp [isLive_of_missing found] at live
  | some info =>
      rw [isLive_of_find? found] at live
      rw [found] at change
      generalize held : after.table.find? pid = later at change
      cases change with
      | kept => simp [isLive_of_find? held, live] at ended
      | registered fresh =>
          rw [fresh, sound.missing_nextPid] at found
          cases found
      | started => simp [isLive_of_find? held, ProcessInfo.isLive] at ended
      | exited running | vanished running => exact ⟨rfl, .inr ⟨_, info, rfl, rfl, running⟩⟩
      | discarded => exact ⟨rfl, .inl rfl⟩
      | detached | released =>
          rw [isLive_of_find? held] at ended
          exact absurd live (by simpa [ProcessInfo.isLive] using ended)
      | reaped _ state | collected _ _ state => simp [ProcessInfo.isLive, state] at live

theorem run_stage (sound : room.table.Sound) (requests : List Request) (pid : Pid) :
    room.table.stage pid ≤ (room.run requests).table.stage pid := by
  induction requests generalizing room with
  | nil => exact Nat.le_refl _
  | cons request rest ih =>
      have step := room.serve_step request
      exact Nat.le_trans (step_stage sound step pid) (ih (step_sound sound step))

end JoinRoom

end Minikernel
