import Minikernel.Proofs.Table.Lifecycle

/-!
Whether callers that sleep in a join are woken when their child ends. They are, unless the
child has lost its parent in the meantime: its record is then taken out in silence, and whoever
slept on it sleeps for ever.
-/

namespace Minikernel

namespace JoinRoom

open ProcessTable

variable {room after : JoinRoom} {request : Request} {reply : Reply} {pid other : Pid}

def Sleeps (room : JoinRoom) (pid : Pid) : Prop :=
  ∃ waiter ∈ room.waiters, waiter.pid = pid ∧ waiter.awake = false

theorem wake_not_sleeps (table : ProcessTable) :
    ¬(wake { room with table := table } pid).Sleeps pid := by
  rintro ⟨waiter, member, numbered, asleep⟩
  obtain ⟨old, -, rfl⟩ := List.mem_map.mp member
  by_cases woken : old.pid = pid <;> simp_all

theorem wake_sleeps_iff {target : Pid} (differs : pid ≠ target) (table : ProcessTable) :
    (wake { room with table := table } target).Sleeps pid ↔ room.Sleeps pid := by
  constructor
  · rintro ⟨waiter, member, numbered, asleep⟩
    obtain ⟨old, held, rfl⟩ := List.mem_map.mp member
    by_cases woken : old.pid = target
    · simp [woken] at asleep
    · rw [if_neg woken] at numbered asleep
      exact ⟨old, held, numbered, asleep⟩
  · rintro ⟨waiter, member, numbered, asleep⟩
    refine ⟨waiter, List.mem_map.mpr ⟨waiter, member, ?_⟩, numbered, asleep⟩
    rw [if_neg (numbered ▸ differs)]

theorem step_waiters (step : room.Step request reply after) {waiter : Waiter}
    (member : waiter ∈ after.waiters) :
    (∃ old ∈ room.waiters, old.pid = waiter.pid ∧ old.caller = waiter.caller) ∨
      ∃ info, room.table.find? waiter.pid = some info ∧ info.parent = some waiter.caller := by
  cases step with
  | refused | registered | started | vanished | detached | taken | joined | idle | orphaned =>
      exact .inl ⟨waiter, member, rfl, rfl⟩
  | @exited target | @discarded target =>
      obtain ⟨old, held, rfl⟩ := List.mem_map.mp member
      refine .inl ⟨old, held, ?_⟩
      by_cases woken : old.pid = target <;> simp [woken]
  | slept found live child =>
      rcases List.mem_append.mp member with old | new
      · exact .inl ⟨waiter, old, rfl, rfl⟩
      · obtain rfl := List.mem_singleton.mp new
        exact .inr ⟨_, found, child⟩
  | won | lost => exact .inl ⟨waiter, List.mem_of_mem_eraseIdx member, rfl, rfl⟩
  | dozed present =>
      rcases List.mem_or_eq_of_mem_set member with old | new
      · exact .inl ⟨waiter, old, rfl, rfl⟩
      · subst new
        exact .inl ⟨_, List.mem_of_getElem? present, rfl, rfl⟩

theorem step_sleeps (step : room.Step request reply after) (sleeps : after.Sleeps pid) :
    room.Sleeps pid ∨ after.table.isLive pid = true := by
  cases step with
  | refused | registered | started | vanished | detached | taken | joined | idle | orphaned =>
      exact .inl sleeps
  | @exited target | @discarded target =>
      by_cases same : pid = target
      · exact absurd (same ▸ sleeps) (wake_not_sleeps _)
      · exact .inl ((wake_sleeps_iff same _).mp sleeps)
  | slept found live =>
      obtain ⟨waiter, member, numbered, asleep⟩ := sleeps
      rcases List.mem_append.mp member with old | new
      · exact .inl ⟨waiter, old, numbered, asleep⟩
      · obtain rfl := List.mem_singleton.mp new
        exact .inr (by rw [← numbered, isLive_of_find? found, live])
  | won | lost =>
      obtain ⟨waiter, member, numbered, asleep⟩ := sleeps
      exact .inl ⟨waiter, List.mem_of_mem_eraseIdx member, numbered, asleep⟩
  | dozed present live =>
      obtain ⟨waiter, member, numbered, asleep⟩ := sleeps
      rcases List.mem_or_eq_of_mem_set member with old | new
      · exact .inl ⟨waiter, old, numbered, asleep⟩
      · exact .inr (by rw [← numbered, new, live])

theorem sleeps_elsewhere {index : Nat} {caller : Pid} (sleeps : room.Sleeps pid)
    (present : room.waiters[index]? = some ⟨other, caller, true⟩) :
    ∃ position waiter, position ≠ index ∧ room.waiters[position]? = some waiter ∧
      waiter.pid = pid ∧ waiter.awake = false := by
  obtain ⟨waiter, member, numbered, asleep⟩ := sleeps
  obtain ⟨position, held⟩ := List.getElem?_of_mem member
  refine ⟨position, waiter, ?_, held, numbered, asleep⟩
  rintro rfl
  rw [held] at present
  cases present
  cases asleep

theorem step_keeps_sleeper (step : room.Step request reply after) (sleeps : room.Sleeps pid)
    (ended : room.table.isLive pid = false) : after.Sleeps pid := by
  cases step with
  | refused | registered | started | vanished | detached | taken | joined | idle | orphaned =>
      exact sleeps
  | exited found running =>
      refine (wake_sleeps_iff ?_ _).mpr sleeps
      rintro rfl
      simp [isLive_of_find? found, ProcessInfo.isLive, running] at ended
  | discarded found live =>
      refine (wake_sleeps_iff ?_ _).mpr sleeps
      rintro rfl
      simp [isLive_of_find? found, live] at ended
  | slept =>
      obtain ⟨waiter, member, numbered, asleep⟩ := sleeps
      exact ⟨waiter, List.mem_append_left _ member, numbered, asleep⟩
  | won present | lost present =>
      obtain ⟨position, waiter, differs, held, numbered, asleep⟩ := sleeps_elsewhere sleeps present
      exact ⟨waiter, List.mem_eraseIdx_iff_getElem?.mpr ⟨position, differs, held⟩, numbered, asleep⟩
  | @dozed index _ _ present =>
      obtain ⟨position, waiter, differs, held, numbered, asleep⟩ := sleeps_elsewhere sleeps present
      refine ⟨waiter, List.mem_of_getElem? (i := position) ?_, numbered, asleep⟩
      rw [List.getElem?_set_ne differs.symm, held]

structure Sound (room : JoinRoom) : Prop where
  table : room.table.Sound
  entered : ∀ waiter ∈ room.waiters, waiter.pid < room.table.nextPid
  roused : ∀ pid, room.Sleeps pid → room.table.stage pid ≠ 3

theorem sound_empty (maxRecords : Nat) : (empty maxRecords).Sound where
  table := sound_ofLimit maxRecords
  entered := by simp [empty, ofTable]
  roused := by simp [empty, ofTable, Sleeps]

theorem Sound.sleeps_entered (sound : room.Sound) (sleeps : room.Sleeps pid) :
    pid < room.table.nextPid := by
  obtain ⟨waiter, member, rfl, -⟩ := sleeps
  exact sound.entered waiter member

theorem step_wakes {status : ExitStatus} {info : ProcessInfo}
    (step : room.Step (.markExited pid status) .done after)
    (found : room.table.find? pid = some info) (child : info.parent ≠ none) :
    ¬after.Sleeps pid := by
  cases step with
  | exited => exact wake_not_sleeps _
  | vanished refound running orphan =>
      rw [found] at refound
      cases refound
      exact absurd orphan child

theorem step_discard_wakes (step : room.Step (.discard pid) .done after) : ¬after.Sleeps pid := by
  cases step
  exact wake_not_sleeps _

theorem step_roused (sound : room.Sound) (step : room.Step request reply after)
    (sleeps : after.Sleeps pid) : after.table.stage pid ≠ 3 := by
  intro ended
  rcases step_sleeps step sleeps with slept | live
  · have notEnded := sound.roused pid slept
    obtain ⟨info, held, state⟩ := stage_eq_three_iff.mp ended
    -- Nobody slept on an exited record before, and the exit itself wakes everybody.
    cases step_origin sound.table.distinct step held with
    | kept found | detached found => exact notEnded (stage_eq_three_iff.mpr ⟨_, found, state⟩)
    | exited found running child => exact step_wakes step found child sleeps
    | released found child notExited => exact notExited state
    | registered | started => cases state
  · rw [isLive_iff_stage] at live
    omega

theorem serve_sound (sound : room.Sound) (request : Request) : (room.serve request).2.Sound := by
  have step := room.serve_step request
  have grows := (step_nextPid sound.table step).1
  refine ⟨step_sound sound.table step, ?_, fun pid => step_roused sound step⟩
  intro waiter member
  rcases step_waiters step member with ⟨old, held, same, -⟩ | ⟨info, found, -⟩
  · exact same ▸ UInt32.lt_of_lt_of_le (sound.entered old held) grows
  · exact UInt32.lt_of_lt_of_le (sound.table.numbered _ _ found) grows

theorem run_sound (sound : room.Sound) (requests : List Request) :
    (room.run requests).Sound := by
  induction requests generalizing room with
  | nil => exact sound
  | cons request rest ih => exact ih (serve_sound sound request)

theorem Sound.history_induction {motive : List Moment → JoinRoom → Prop} (sound : room.Sound)
    (start : motive [] room)
    (step : ∀ past room request, room.Sound → motive past room →
      motive (past ++ [⟨room, request⟩]) (room.serve request).2) (requests : List Request) :
    motive (room.history requests) (room.run requests) := by
  have both := JoinRoom.history_induction (motive := fun past room => room.Sound ∧ motive past room)
    ⟨sound, start⟩ (fun past room request held =>
      ⟨serve_sound held.1 request, step past room request held.1 held.2⟩) requests
  exact both.2

def Strands (room : JoinRoom) (pid : Pid) : Prop :=
  room.Sleeps pid ∧ room.table.isLive pid = false

/-- In this moment a process without a parent exits while a caller sleeps on its record. -/
def Moment.ExitsInSilence (moment : Moment) (pid : Pid) : Prop :=
  (∃ status, moment.request = .markExited pid status) ∧ moment.before.Sleeps pid ∧
    ∃ info, moment.before.table.find? pid = some info ∧ info.state = .running ∧
      info.parent = none

theorem strands_of_silence (silent : Moment.ExitsInSilence ⟨room, request⟩ pid) :
    (room.serve request).2.Strands pid := by
  obtain ⟨⟨status, asked⟩, sleeps, info, found, running, orphan⟩ := silent
  dsimp only at asked found sleeps
  rw [asked, serve_markExited found running, if_pos orphan]
  refine ⟨sleeps, isLive_of_missing ?_⟩
  rw [find?_reclaim, if_pos rfl]

theorem Strands.serve (sound : room.Sound) (strands : room.Strands pid) (request : Request) :
    (room.serve request).2.Strands pid := by
  have step := room.serve_step request
  refine ⟨step_keeps_sleeper step strands.1 strands.2, ?_⟩
  have entered := sound.sleeps_entered strands.1
  have later := step_stage sound.table step pid
  have ended : ¬room.table.isLive pid = true := by simp [strands.2]
  rw [isLive_iff_stage] at ended
  have started := stage_pos entered
  rw [Bool.eq_false_iff, ne_eq, isLive_iff_stage]
  omega

theorem silence_of_strands (sound : room.Sound) (strands : (room.serve request).2.Strands pid) :
    room.Strands pid ∨ Moment.ExitsInSilence ⟨room, request⟩ pid := by
  obtain ⟨sleeps, ended⟩ := strands
  have step := room.serve_step request
  have slept : room.Sleeps pid := (step_sleeps step sleeps).resolve_right (by simp [ended])
  cases live : room.table.isLive pid with
  | false => exact .inl ⟨slept, live⟩
  | true =>
      obtain ⟨done, discarded | ⟨status, info, exits, found, running⟩⟩ :=
        step_ends sound.table step live ended
      · rw [done] at step
        subst discarded
        exact absurd sleeps (step_discard_wakes step)
      · rw [done] at step
        subst exits
        by_cases orphan : info.parent = none
        · exact .inr ⟨⟨status, rfl⟩, slept, info, found, running, orphan⟩
        · exact absurd sleeps (step_wakes step found orphan)

theorem serve_strands_iff (sound : room.Sound) :
    (room.serve request).2.Strands pid ↔
      room.Strands pid ∨ Moment.ExitsInSilence ⟨room, request⟩ pid := by
  constructor
  · exact silence_of_strands sound
  · rintro (strands | silent)
    · exact strands.serve sound request
    · exact strands_of_silence silent

theorem run_strands_iff (sound : room.Sound) (requests : List Request) :
    (room.run requests).Strands pid ↔
      room.Strands pid ∨ ∃ moment ∈ room.history requests, moment.ExitsInSilence pid := by
  induction requests generalizing room with
  | nil => simp [run, history]
  | cons request rest ih =>
      simp only [run, history, List.mem_cons, exists_eq_or_imp]
      rw [ih (serve_sound sound request), serve_strands_iff sound, or_assoc]

/-- The callers that sleep on a child sleep on a live record, exactly as long as the child did
not exit without a parent while one of them slept. -/
theorem sleepers_live_iff (maxRecords : Nat) (requests : List Request) (pid : Pid) :
    let room := (empty maxRecords).run requests
    (∀ waiter ∈ room.waiters, waiter.pid = pid → waiter.awake = false →
        room.table.isLive pid = true) ↔
      ∀ moment ∈ (empty maxRecords).history requests, ¬moment.ExitsInSilence pid := by
  have strands : _ ↔ (empty maxRecords).Strands pid ∨ _ :=
    run_strands_iff (sound_empty maxRecords) requests
  have start : ¬(empty maxRecords).Strands pid := by simp [Strands, Sleeps, empty, ofTable]
  constructor
  · intro live moment member silent
    obtain ⟨⟨waiter, held, numbered, asleep⟩, ended⟩ := strands.mpr (.inr ⟨moment, member, silent⟩)
    rw [live waiter held numbered asleep] at ended
    cases ended
  · intro loud waiter held numbered asleep
    cases ended : ((empty maxRecords).run requests).table.isLive pid with
    | true => rfl
    | false =>
        rcases strands.mp ⟨⟨waiter, held, numbered, asleep⟩, ended⟩ with early | silent
        · exact absurd early start
        · obtain ⟨moment, member, silent⟩ := silent
          exact absurd silent (loud moment member)

/-- A parent that sleeps in a join is not woken when its child exits after it was detached. -/
theorem sleeper_lost_after_detach :
    let room := (empty 8).run [.register "child.coff" (some 0), .markRunning 1, .join 1 0,
      .detach 1, .markExited 1 (.normal 5)]
    ¬∀ waiter ∈ room.waiters, waiter.awake = false → room.table.isLive waiter.pid = true := by
  decide

end JoinRoom

end Minikernel
