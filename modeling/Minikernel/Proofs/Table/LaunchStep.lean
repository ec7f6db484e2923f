import Minikernel.Proofs.Table.Delivery
import Minikernel.Proofs.Table.Launching

/-!
What one request does to a child that is being started, and to the parent that it is started for.
Up to the moment at which its own start marks it as running, nobody else gets hold of the child:
it waits in the table, with its parent or without.
-/

namespace Minikernel

namespace JoinRoom

def Request.setsUp? : Request → Option Pid
  | markRunning pid | detach pid | discard pid => some pid
  | register _ _ | markExited _ _ | take _ _ | join _ _ | resume _ | orphanChildren _ => none

/-- What others ask of a table while children of a process are started: they end processes other
than this one, cut off children of others, and join. -/
def Request.spares (parent : Pid) : Request → Bool
  | markExited pid _ | orphanChildren pid => pid ≠ parent
  | take _ _ | join _ _ | resume _ => true
  | register _ _ | markRunning _ | discard _ | detach _ => false

theorem serve_markRunning {room : JoinRoom} {pid : Pid} {info : ProcessInfo}
    (found : room.table.find? pid = some info) (created : info.state = .created) :
    room.serve (.markRunning pid) =
      (.done, { room with table := room.table.modify pid ({ · with state := .running }) }) := by
  have marked := ProcessTable.markRunning_eq_ok_iff.mpr ⟨info, found, created, rfl⟩
  simp [serve, marked, answer, Except.map]

end JoinRoom

namespace LaunchRace

open ProcessTable

variable {parent child pid : Pid} {stage : Launch}
  {room after : JoinRoom} {request : JoinRoom.Request} {reply : JoinRoom.Reply}
  {before later : Option ProcessInfo}

/-- What the table holds of a child, by how far its start has come. -/
inductive Fits (parent : Pid) : Launch → Option ProcessInfo → Prop
  | created {launch : Launch} {info : ProcessInfo} :
      launch.pending?.isSome = true → info.state = .created →
      info.parent = some parent ∨ info.parent = none → Fits parent launch (some info)
  | running {child : Pid} {info : ProcessInfo} : info.state = .running →
      info.parent = some parent ∨ info.parent = none → Fits parent (.started child) (some info)
  | exited {child : Pid} {info : ProcessInfo} : info.state = .exited → info.parent = some parent →
      Fits parent (.started child) (some info)
  | gone {child : Pid} : Fits parent (.started child) none

theorem Fits.step (fits : Fits parent stage before)
    (change : room.Change child request reply before later) (old : child ≠ room.table.nextPid)
    (quiet : request.setsUp? ≠ some child) : Fits parent stage later := by
  cases change with
  | kept => exact fits
  | registered fresh => exact absurd fresh old
  | started | detached | discarded => exact absurd rfl quiet
  | exited runs parented =>
      cases fits with
      | created _ state =>
          rw [runs] at state
          cases state
      | running _ kin => exact .exited rfl (kin.resolve_right parented)
      | exited state =>
          rw [runs] at state
          cases state
  | vanished runs =>
      cases fits with
      | created _ state =>
          rw [runs] at state
          cases state
      | running | exited => exact .gone
  | released _ live =>
      cases fits with
      | created pending state => exact .created pending state (.inr rfl)
      | running state => exact .running state (.inr rfl)
      | exited state => exact absurd state live
  | reaped _ exited | collected _ _ exited =>
      cases fits with
      | created _ state =>
          rw [exited] at state
          cases state
      | running | exited => exact .gone

theorem Fits.waiting (fits : Fits parent stage before) (pending : stage.pending?.isSome = true) :
    ∃ info, before = some info ∧ info.state = .created ∧
      (info.parent = some parent ∨ info.parent = none) := by
  cases fits with
  | created _ state kin => exact ⟨_, rfl, state, kin⟩
  | running | exited | gone => cases pending

theorem Fits.settled {info : ProcessInfo} (fits : Fits parent (.started child) (some info)) :
    info.state = .running ∧ (info.parent = some parent ∨ info.parent = none) ∨
      info.state = .exited ∧ info.parent = some parent := by
  cases fits with
  | created pending => cases pending
  | running state kin => exact .inl ⟨state, kin⟩
  | exited state kin => exact .inr ⟨state, kin⟩

def Hosts (table : ProcessTable) (parent : Pid) : Leaving → Prop
  | .staying => ∃ info, table.find? parent = some info ∧ info.state = .running
  | .orphaning | .gone => table.isLive parent = false

theorem runs_after {info : ProcessInfo} (change : room.Change pid request reply (some info) later)
    (runs : info.state = .running) (old : pid ≠ room.table.nextPid)
    (quiet : request.setsUp? ≠ some pid) (stays : ∀ status, request ≠ .markExited pid status) :
    ∃ still, later = some still ∧ still.state = .running := by
  cases change with
  | kept => exact ⟨info, rfl, runs⟩
  | registered fresh => exact absurd fresh old
  | started | detached | discarded => exact absurd rfl quiet
  | exited | vanished => exact absurd rfl (stays _)
  | released => exact ⟨_, rfl, runs⟩
  | reaped _ exited | collected _ _ exited =>
      rw [exited] at runs
      cases runs

theorem dead_after (sound : room.table.Sound) (step : room.Step request reply after)
    (entered : pid < room.table.nextPid) (dead : room.table.isLive pid = false) :
    after.table.isLive pid = false := by
  have grows := JoinRoom.step_stage sound step pid
  have known := stage_pos entered
  rw [Bool.eq_false_iff, ne_eq, isLive_iff_stage] at dead ⊢
  omega

theorem hosts_after (sound : room.table.Sound) (step : room.Step request reply after)
    {leaving : Leaving} (entered : parent < room.table.nextPid)
    (hosts : Hosts room.table parent leaving) (quiet : request.setsUp? ≠ some parent)
    (stays : ∀ status, request ≠ .markExited parent status) :
    Hosts after.table parent leaving := by
  cases leaving with
  | orphaning | gone => exact dead_after sound step entered hosts
  | staying =>
      obtain ⟨info, found, runs⟩ := hosts
      have change := JoinRoom.step_change sound.distinct step parent
      rw [found] at change
      exact runs_after change runs (UInt32.ne_of_lt entered) quiet stays

theorem child_origin (sound : room.table.Sound) (step : room.Step request reply after)
    {info : ProcessInfo} (member : info ∈ after.table.records) (kin : info.parent = some parent) :
    (∃ old ∈ room.table.records, old.pid = info.pid ∧ old.parent = some parent) ∨
      ∃ name, request = .register name (some parent) ∧ info.pid = room.table.nextPid := by
  have held := (find?_eq_some_iff (JoinRoom.step_distinct sound step)).mpr ⟨member, rfl⟩
  generalize numbered : info.pid = pid at held
  cases JoinRoom.step_origin sound.distinct step held with
  | kept found => exact .inl ⟨info, mem_of_find? found, numbered, kin⟩
  | registered fresh =>
      cases kin
      exact .inr ⟨_, rfl, fresh⟩
  | started found | exited found => exact .inl ⟨_, mem_of_find? found, numbered, kin⟩
  | detached | released => cases kin

end LaunchRace

end Minikernel
