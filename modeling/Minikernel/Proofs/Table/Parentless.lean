import Minikernel.Proofs.Table.Delivery

/-!
Exited records without a parent. Nobody may take the status of such a record and no parent
orphans it, so its slot is lost. A record comes to that only when it is detached after its exit:
a process that has no parent yet when it exits is taken out at once.
-/

namespace Minikernel

namespace JoinRoom

open ProcessTable

variable {room after : JoinRoom} {request : Request} {reply : Reply} {pid : Pid}
  {info : ProcessInfo} {past : List Moment}

def Moment.DetachesExited (moment : Moment) (pid : Pid) : Prop :=
  moment.request = .detach pid ∧
    ∃ info, moment.before.table.find? pid = some info ∧ info.state = .exited

def DetachedExited (past : List Moment) (pid : Pid) : Prop :=
  ∃ moment ∈ past, moment.DetachesExited pid

/-- The past says which exited records have no parent: those that were detached as such. -/
structure Abandons (past : List Moment) (room : JoinRoom) (pid : Pid) : Prop where
  ended : DetachedExited past pid → 3 ≤ room.table.stage pid
  parentless : DetachedExited past pid →
    ∀ info, room.table.find? pid = some info → info.parent = none
  detached : ∀ info, room.table.find? pid = some info → info.state = .exited →
    info.parent = none → DetachedExited past pid

theorem abandons_empty (maxRecords : Nat) (pid : Pid) : Abandons [] (empty maxRecords) pid where
  ended := by simp [DetachedExited]
  parentless := by simp [DetachedExited]
  detached := by simp [empty, ofTable, ofLimit, find?]

theorem detachedExited_append :
    DetachedExited (past ++ [⟨room, request⟩]) pid ↔
      DetachedExited past pid ∨ Moment.DetachesExited ⟨room, request⟩ pid := by
  simp [DetachedExited, or_and_right, exists_or]

theorem step_parentless (sound : room.table.Sound) (step : room.Step request reply after)
    (entered : room.table.stage pid ≠ 0)
    (parentless : ∀ info, room.table.find? pid = some info → info.parent = none)
    (held : after.table.find? pid = some info) : info.parent = none := by
  cases step_origin sound.distinct step held with
  | registered fresh => exact absurd (fresh ▸ stage_nextPid sound) entered
  | kept found => exact parentless _ found
  | @started old found | @exited old _ found => exact parentless old found
  | detached | released => rfl

theorem step_detached (sound : room.table.Sound) (step : room.Step request reply after)
    (held : after.table.find? pid = some info) (exited : info.state = .exited)
    (parentless : info.parent = none) :
    room.table.find? pid = some info ∨
      request = .detach pid ∧ ∃ old, room.table.find? pid = some old ∧ old.state = .exited := by
  cases step_origin sound.distinct step held with
  | kept found => exact .inl found
  | registered | started => cases exited
  | exited _ _ child => exact absurd parentless child
  | detached found => exact .inr ⟨rfl, _, found, exited⟩
  | released _ _ live => exact absurd exited live

theorem serve_detach (found : room.table.find? pid = some info) :
    room.serve (.detach pid) =
      (.done, { room with table := room.table.modify pid ({ · with parent := none }) }) := by
  have detached := detach_eq_ok_iff.mpr ⟨info, found, rfl⟩
  simp [serve, detached, answer, Except.map]

theorem find?_serve_detach (found : room.table.find? pid = some info) :
    (room.serve (.detach pid)).2.table.find? pid = some { info with parent := none } := by
  rw [serve_detach found]
  exact find?_modify_self _ (fun _ => rfl) found

theorem Abandons.serve (abandons : Abandons past room pid) (sound : room.table.Sound)
    (request : Request) : Abandons (past ++ [⟨room, request⟩]) (room.serve request).2 pid := by
  have step := room.serve_step request
  have grows := step_stage sound step pid
  refine ⟨?_, ?_, ?_⟩
  · rw [detachedExited_append]
    rintro (before | ⟨rfl, old, found, exited⟩)
    · exact Nat.le_trans (abandons.ended before) grows
    · have reached := stage_eq_three_iff.mpr ⟨old, found, exited⟩
      exact Nat.le_trans (Nat.le_of_eq reached.symm) grows
  · rw [detachedExited_append]
    rintro (before | ⟨rfl, old, found, -⟩) info held
    · have ended := abandons.ended before
      exact step_parentless sound step (by omega) (abandons.parentless before) held
    · rw [find?_serve_detach found] at held
      cases held
      rfl
  · intro info held exited parentless
    rw [detachedExited_append]
    rcases step_detached sound step held exited parentless with found | now
    · exact .inl (abandons.detached info found exited parentless)
    · exact .inr now

theorem run_abandons (maxRecords : Nat) (requests : List Request) (pid : Pid) :
    Abandons ((empty maxRecords).history requests) ((empty maxRecords).run requests) pid :=
  (sound_empty maxRecords).history_induction (motive := fun past room => Abandons past room pid)
    (abandons_empty maxRecords pid)
    (fun _ _ request sound abandons => abandons.serve sound.table request) requests

/-- An exited record that nobody can reach: it has no parent, and nobody waits for it. -/
structure Lost (room : JoinRoom) (pid : Pid) (info : ProcessInfo) : Prop where
  found : room.table.find? pid = some info
  exited : info.state = .exited
  parentless : info.parent = none
  alone : ∀ waiter ∈ room.waiters, waiter.pid ≠ pid

theorem Lost.step (lost : room.Lost pid info) (sound : room.table.Sound)
    (step : room.Step request reply after) : after.Lost pid info := by
  obtain ⟨found, exited, parentless, alone⟩ := lost
  refine ⟨?_, exited, parentless, fun waiter member numbered => ?_⟩
  · -- Whatever could change the record needs it live, with a parent or waited for.
    have change := step_change sound.distinct step pid
    rw [found] at change
    generalize result : after.table.find? pid = later at change
    generalize known : some info = before at change
    cases change with
    | kept => rfl
    | registered fresh =>
        rw [fresh, sound.missing_nextPid] at found
        cases found
    | started created => cases known; simp [exited] at created
    | exited running | vanished running => cases known; simp [exited] at running
    | discarded live => cases known; simp [ProcessInfo.isLive, exited] at live
    | detached => cases known; rw [← parentless]
    | released child | reaped child => cases known; simp [parentless] at child
    | collected called entitled =>
        cases known
        rcases entitled with child | waiting
        · simp [parentless] at child
        · exact absurd (find?_pid found) (alone _ waiting)
  · rcases step_waiters step member with ⟨old, held, same, -⟩ | ⟨other, refound, child⟩
    · exact alone old held (same.trans numbered)
    · rw [numbered, found] at refound
      cases refound
      simp [parentless] at child

theorem Lost.run (lost : room.Lost pid info) (sound : room.table.Sound)
    (requests : List Request) : (room.run requests).Lost pid info := by
  induction requests generalizing room with
  | nil => exact lost
  | cons request rest ih =>
      have step := room.serve_step request
      exact ih (lost.step sound step) (step_sound sound step)

/-- A record whose exit was kept has a parent unless it was detached after the exit. With a
parent it leaves the table when the parent asks for it or ends. Without one, and when nobody
waits for it, it stays for ever. -/
theorem exited_parentless_iff_detached (maxRecords : Nat) (requests : List Request) (pid : Pid)
    (info : ProcessInfo) :
    let room := (empty maxRecords).run requests
    room.table.find? pid = some info → info.state = .exited →
      (info.parent = none ↔
        ∃ moment ∈ (empty maxRecords).history requests, moment.DetachesExited pid) ∧
      (∀ parent, info.parent = some parent →
        (∀ request, room.call? request = some (pid, parent) →
          (∃ status, (room.serve request).1 = .collected status) ∧
          (room.serve request).2.table.find? pid = none) ∧
        (room.serve (.orphanChildren parent)).2.table.find? pid = none) ∧
      (info.parent = none → (∀ waiter ∈ room.waiters, waiter.pid ≠ pid) →
        ∀ later, (room.run later).table.find? pid = some info) := by
  intro room found exited
  have sound : room.Sound := run_sound (sound_empty maxRecords) requests
  have abandons : Abandons _ room pid := run_abandons maxRecords requests pid
  refine ⟨⟨abandons.detached info found exited, fun detached =>
    abandons.parentless detached info found⟩, fun parent child => ⟨?_, ?_⟩, ?_⟩
  · intro request called
    obtain ⟨status, kept⟩ : ∃ status, info.exitStatus = some status :=
      Option.isSome_iff_exists.mp ((sound.table.coherent pid info found).2.mpr exited)
    have roused : ¬room.Sleeps pid := fun sleeps =>
      sound.roused pid sleeps (stage_eq_three_iff.mpr ⟨info, found, exited⟩)
    have served := serve_of_ripe ⟨found, exited, kept⟩ child roused called
    rw [served]
    exact ⟨⟨status, rfl⟩, by rw [find?_reclaim, if_pos rfl]⟩
  · show (room.table.orphanChildren parent).2.find? pid = none
    rw [find?_orphanChildren sound.table.distinct, found]
    simp [ProcessTable.orphaned, child, exited]
  · intro parentless alone later
    exact (Lost.run ⟨found, exited, parentless, alone⟩ sound.table later).found

theorem detached_record_stays :
    let room := (empty 8).run [.register "child.coff" (some 0), .markRunning 1,
      .markExited 1 (.normal 5), .detach 1]
    (room.run [.take 1 0, .join 1 0, .discard 1, .orphanChildren 0]).table.find? 1 =
      some ⟨1, "child.coff", .exited, none, some (.normal 5)⟩ := by
  intro room
  obtain ⟨-, -, stays⟩ := exited_parentless_iff_detached 8 [.register "child.coff" (some 0),
    .markRunning 1, .markExited 1 (.normal 5), .detach 1] 1
    ⟨1, "child.coff", .exited, none, some (.normal 5)⟩ (by decide) rfl
  exact stays rfl (by decide) [.take 1 0, .join 1 0, .discard 1, .orphanChildren 0]

/-- Detaching a child after its exit leaves an exited record without a parent. -/
theorem exited_record_without_parent :
    let room := (empty 8).run [.register "child.coff" (some 0), .markRunning 1,
      .markExited 1 (.normal 0), .detach 1]
    ¬∀ info ∈ room.table.records, info.state = .exited → info.parent ≠ none := by
  decide

end JoinRoom

end Minikernel
