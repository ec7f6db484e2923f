import Minikernel.Proofs.Table.Waking

/-!
The way of an exit status to the parent. Over any history a process exits once, its status is
handed out at most once, unchanged and to the parent that it was registered with, and from then
on nobody finds a record under its number.
-/

namespace Minikernel

namespace JoinRoom

open ProcessTable

variable {room after : JoinRoom} {request : Request} {reply : Reply} {pid caller : Pid}
  {status : ExitStatus}

def remaining (room : JoinRoom) : Request → List Waiter
  | .resume index => room.waiters.eraseIdx index
  | _ => room.waiters

theorem awake_of_roused {index : Nat} {waiter : Waiter} (roused : ¬room.Sleeps waiter.pid)
    (present : room.waiters[index]? = some waiter) : waiter.awake = true := by
  by_contra asleep
  exact roused ⟨waiter, List.mem_of_getElem? present, rfl, by simpa using asleep⟩

theorem serve_of_missing (missing : room.table.find? pid = none) (roused : ¬room.Sleeps pid)
    (called : room.call? request = some (pid, caller)) :
    room.serve request = (.failed (.notFound pid), ⟨room.table, room.remaining request⟩) := by
  cases request with
  | take target child =>
      cases called
      simp [serve, take_of_missing missing, answer, Except.map, remaining]
  | join target child =>
      cases called
      simp [serve, enter, join_of_missing missing, answerJoin, remaining]
  | resume index =>
      simp only [call?, Option.map_eq_some_iff, Prod.mk.injEq] at called
      obtain ⟨waiter, present, rfl, rfl⟩ := called
      have awake := awake_of_roused roused present
      simp [serve, resume, present, awake, rejoin_of_missing missing, answerJoin, remaining]
  | _ => cases called

theorem serve_of_ripe {info : ProcessInfo} (ripe : room.table.Ripe pid info status)
    (child : info.parent = some caller) (roused : ¬room.Sleeps pid)
    (called : room.call? request = some (pid, caller)) :
    room.serve request =
      (.collected status, ⟨room.table.reclaim pid, room.remaining request⟩) := by
  cases request with
  | take target child =>
      cases called
      have taken := take_eq_ok_iff.mpr ⟨info, ripe, child, rfl⟩
      simp [serve, taken, answer, Except.map, remaining]
  | join target child =>
      cases called
      have joined := join_eq_joined_iff.mpr ⟨info, ripe, child, rfl⟩
      simp [serve, enter, joined, answerJoin, remaining]
  | resume index =>
      simp only [call?, Option.map_eq_some_iff, Prod.mk.injEq] at called
      obtain ⟨waiter, present, rfl, rfl⟩ := called
      have awake := awake_of_roused roused present
      have joined := rejoin_eq_joined_iff.mpr ⟨info, ripe, rfl⟩
      simp [serve, resume, present, awake, joined, answerJoin, remaining]
  | _ => cases called

namespace Moment

variable {moment : Moment}

def registers (moment : Moment) (pid : Pid) : Bool :=
  moment.reply = .registered pid

def exits (moment : Moment) (pid : Pid) : Bool :=
  match moment.request with
  | .markExited target _ => target = pid && moment.reply = .done
  | _ => false

def delivers (moment : Moment) (pid : Pid) : Bool :=
  match moment.reply with
  | .collected _ => moment.call?.any fun call => call.1 = pid
  | _ => false

theorem exits_iff :
    moment.exits pid = true ↔
      ∃ status, moment.request = .markExited pid status ∧ moment.reply = .done := by
  unfold exits
  cases asked : moment.request with
  | markExited target status =>
      by_cases same : target = pid <;> simp [same]
  | _ => simp

theorem delivers_iff :
    moment.delivers pid = true ↔
      ∃ caller status, moment.call? = some (pid, caller) ∧ moment.reply = .collected status := by
  unfold delivers
  cases replied : moment.reply with
  | collected status => cases called : moment.call? <;> simp [Prod.ext_iff]
  | _ => simp

theorem step (moment : Moment) : moment.before.Step moment.request moment.reply moment.after :=
  moment.before.serve_step moment.request

end Moment

theorem step_exit (sound : room.table.Sound)
    (step : room.Step (.markExited pid status) .done after) :
    room.table.stage pid = 2 ∧ 3 ≤ after.table.stage pid := by
  cases step with
  | exited found running =>
      refine ⟨by rw [stage_of_find? found, running]; rfl, ?_⟩
      exact Nat.le_of_eq (stage_keep found).symm
  | vanished found running =>
      refine ⟨by rw [stage_of_find? found, running]; rfl, ?_⟩
      have gone : (room.table.reclaim pid).stage pid = 4 := sound.stage_reclaim found
      show 3 ≤ (room.table.reclaim pid).stage pid
      omega

theorem step_delivery (step : room.Step request (.collected status) after)
    (called : room.call? request = some (pid, caller)) :
    ∃ info, room.table.Ripe pid info status ∧
      (info.parent = some caller ∨ ⟨pid, caller, true⟩ ∈ room.waiters) ∧
      after.table = room.table.reclaim pid := by
  cases step with
  | taken ripe child | joined ripe child =>
      cases called
      exact ⟨_, ripe, .inl child, rfl⟩
  | won present ripe =>
      simp only [call?, present, Option.map_some, Option.some.injEq, Prod.mk.injEq] at called
      obtain ⟨rfl, rfl⟩ := called
      exact ⟨_, ripe, .inr (List.mem_of_getElem? present), rfl⟩

theorem step_delivery_stage (sound : room.table.Sound)
    (step : room.Step request (.collected status) after)
    (called : room.call? request = some (pid, caller)) :
    room.table.stage pid = 3 ∧ after.table.stage pid = 4 := by
  obtain ⟨info, ripe, -, taken⟩ := step_delivery step called
  rw [taken]
  exact ⟨stage_eq_three_iff.mpr ⟨info, ripe.1, ripe.2.1⟩, sound.stage_reclaim ripe.1⟩

theorem step_registration (sound : room.table.Sound)
    (step : room.Step request (.registered pid) after) :
    room.table.stage pid = 0 ∧ after.table.stage pid = 1 := by
  cases step with
  | registered =>
      refine ⟨by simp [stage, sound.missing_nextPid], ?_⟩
      rw [stage_of_find? (by rw [find?_enter, if_pos rfl])]
      rfl

theorem countP_le_one {happens : Moment → Bool} (pid : Pid) (mark : Nat)
    (crosses : ∀ moment, moment.before.Sound → happens moment = true →
      moment.before.table.stage pid < mark ∧ mark ≤ moment.after.table.stage pid)
    (sound : room.Sound) (requests : List Request) :
    (room.history requests).countP happens ≤ 1 := by
  suffices counted : (room.history requests).countP happens ≤ 1 ∧
      (mark ≤ room.table.stage pid → (room.history requests).countP happens = 0) from counted.1
  induction requests generalizing room with
  | nil => simp [history]
  | cons request rest ih =>
      -- Past the mark it cannot happen again, because a stage never falls.
      obtain ⟨once, never⟩ := ih (serve_sound sound request)
      have later := step_stage sound.table (room.serve_step request) pid
      simp only [history, List.countP_cons]
      by_cases now : happens ⟨room, request⟩ = true
      · have crossed := crosses ⟨room, request⟩ sound now
        have rest := never crossed.2
        simp only [now, if_true]
        have below : room.table.stage pid < mark := crossed.1
        omega
      · simp only [now]
        refine ⟨by simpa using once, fun passed => ?_⟩
        simpa using never (Nat.le_trans passed later)

theorem countP_registers_le_one (sound : room.Sound) (requests : List Request) (pid : Pid) :
    (room.history requests).countP (·.registers pid) ≤ 1 := by
  refine countP_le_one pid 1 (fun moment sound registers => ?_) sound requests
  have step := moment.step
  rw [of_decide_eq_true registers] at step
  have crossed := step_registration sound.table step
  omega

theorem countP_exits_le_one (sound : room.Sound) (requests : List Request) (pid : Pid) :
    (room.history requests).countP (·.exits pid) ≤ 1 := by
  refine countP_le_one pid 3 (fun moment sound exits => ?_) sound requests
  obtain ⟨status, asked, done⟩ := Moment.exits_iff.mp exits
  have step := moment.step
  rw [asked, done] at step
  have crossed := step_exit sound.table step
  omega

theorem countP_delivers_le_one (sound : room.Sound) (requests : List Request) (pid : Pid) :
    (room.history requests).countP (·.delivers pid) ≤ 1 := by
  refine countP_le_one pid 4 (fun moment sound delivers => ?_) sound requests
  obtain ⟨caller, status, called, collected⟩ := Moment.delivers_iff.mp delivers
  have step := moment.step
  rw [collected] at step
  have crossed := step_delivery_stage sound.table step called
  omega

def RegisteredTo (past : List Moment) (pid parent : Pid) : Prop :=
  ∃ entry ∈ past, ∃ name,
    entry.request = .register name (some parent) ∧ entry.reply = .registered pid

def ExitedWith (past : List Moment) (pid : Pid) (status : ExitStatus) : Prop :=
  ∃ exit ∈ past, exit.request = .markExited pid status ∧ exit.reply = .done

theorem RegisteredTo.append {past : List Moment} {parent : Pid}
    (registered : RegisteredTo past pid parent) (more : List Moment) :
    RegisteredTo (past ++ more) pid parent := by
  obtain ⟨entry, member, entered⟩ := registered
  exact ⟨entry, List.mem_append_left more member, entered⟩

theorem ExitedWith.append {past : List Moment} (exited : ExitedWith past pid status)
    (more : List Moment) : ExitedWith (past ++ more) pid status := by
  obtain ⟨exit, member, accepted⟩ := exited
  exact ⟨exit, List.mem_append_left more member, accepted⟩

/-- All that a room knows of its records and callers comes from what was asked before. -/
structure Recorded (past : List Moment) (room : JoinRoom) : Prop where
  statuses : ∀ pid info status, room.table.find? pid = some info →
    info.exitStatus = some status → ExitedWith past pid status
  parents : ∀ pid info parent, room.table.find? pid = some info →
    info.parent = some parent → RegisteredTo past pid parent
  callers : ∀ waiter ∈ room.waiters, RegisteredTo past waiter.pid waiter.caller

theorem recorded_empty (maxRecords : Nat) : Recorded [] (empty maxRecords) where
  statuses := by simp [empty, ofTable, ofLimit, find?]
  parents := by simp [empty, ofTable, ofLimit, find?]
  callers := by simp [empty, ofTable]

section Step

variable {past : List Moment} {info : ProcessInfo}

theorem Recorded.status_after (recorded : Recorded past room) (sound : room.table.Sound)
    (request : Request) (held : (room.serve request).2.table.find? pid = some info)
    (known : info.exitStatus = some status) :
    ExitedWith (past ++ [⟨room, request⟩]) pid status := by
  generalize replied : (room.serve request).1 = reply
  cases step_origin sound.distinct (replied ▸ room.serve_step request) held with
  | kept found | started found | detached found | released found =>
      exact (recorded.statuses _ _ _ found known).append _
  | registered => cases known
  | exited =>
      cases known
      exact ⟨_, List.mem_append_right past (List.mem_singleton_self _), rfl, replied⟩

theorem Recorded.parent_after (recorded : Recorded past room) (sound : room.table.Sound)
    (request : Request) {parent : Pid}
    (held : (room.serve request).2.table.find? pid = some info)
    (child : info.parent = some parent) :
    RegisteredTo (past ++ [⟨room, request⟩]) pid parent := by
  generalize replied : (room.serve request).1 = reply
  cases step_origin sound.distinct (replied ▸ room.serve_step request) held with
  | kept found | started found | exited found =>
      exact (recorded.parents _ _ _ found child).append _
  | @registered name =>
      cases child
      exact ⟨_, List.mem_append_right past (List.mem_singleton_self _), name, rfl, replied⟩
  | detached | released => cases child

theorem Recorded.serve (recorded : Recorded past room) (sound : room.table.Sound)
    (request : Request) : Recorded (past ++ [⟨room, request⟩]) (room.serve request).2 where
  statuses _ _ _ := recorded.status_after sound request
  parents _ _ _ := recorded.parent_after sound request
  callers waiter member := by
    rcases step_waiters (room.serve_step request) member with
      ⟨old, held, samePid, sameCaller⟩ | ⟨info, found, child⟩
    · have registered := recorded.callers old held
      rw [samePid, sameCaller] at registered
      exact registered.append _
    · exact (recorded.parents _ _ _ found child).append _

end Step

theorem run_recorded (maxRecords : Nat) (requests : List Request) :
    Recorded ((empty maxRecords).history requests) ((empty maxRecords).run requests) :=
  (sound_empty maxRecords).history_induction (motive := Recorded) (recorded_empty maxRecords)
    (fun _ _ request sound recorded => recorded.serve sound.table request) requests

def Closed (room : JoinRoom) (pid : Pid) : Prop :=
  room.table.stage pid = 4 ∧ ¬room.Sleeps pid

theorem closed_of_delivery (sound : room.Sound)
    (step : room.Step request (.collected status) after)
    (called : room.call? request = some (pid, caller)) : after.Closed pid := by
  have crossed := step_delivery_stage sound.table step called
  refine ⟨crossed.2, fun sleeps => ?_⟩
  rcases step_sleeps step sleeps with slept | live
  · exact sound.roused pid slept crossed.1
  · rw [isLive_iff_stage] at live
    omega

theorem Closed.serve (closed : room.Closed pid) (sound : room.table.Sound) (request : Request) :
    (room.serve request).2.Closed pid := by
  have step := room.serve_step request
  have grows := step_stage sound step pid
  have last := stage_le (room.serve request).2.table pid
  have out : (room.serve request).2.table.stage pid = 4 := by
    have start := closed.1
    omega
  refine ⟨out, fun sleeps => ?_⟩
  rcases step_sleeps step sleeps with slept | live
  · exact closed.2 slept
  · rw [isLive_iff_stage] at live
    omega

theorem Closed.missing (closed : room.Closed pid) (sound : room.table.Sound) :
    room.table.find? pid = none :=
  (sound.stage_eq_four_iff.mp closed.1).1

theorem Closed.history (closed : room.Closed pid) (sound : room.Sound) (requests : List Request) :
    ∀ moment ∈ room.history requests, moment.after.table.find? pid = none ∧
      ∀ caller, moment.call? = some (pid, caller) → moment.reply = .failed (.notFound pid) := by
  induction requests generalizing room with
  | nil => simp [JoinRoom.history]
  | cons request rest ih =>
      intro moment member
      have closedAfter := closed.serve sound.table request
      have soundAfter := serve_sound sound request
      rcases List.mem_cons.mp member with rfl | later
      · refine ⟨closedAfter.missing soundAfter.table, fun caller called => ?_⟩
        have served := serve_of_missing (closed.missing sound.table) closed.2 called
        exact congrArg Prod.fst served
      · exact ih closedAfter soundAfter moment later

/-- Over any history a process is registered once and exits once, and its status is handed out
at most once. Whoever gets it is the parent that the process was registered with, gets what the
process exited with, and leaves nothing behind for later callers. -/
theorem status_delivered_once (maxRecords : Nat) (requests : List Request) (pid : Pid) :
    let history := (empty maxRecords).history requests
    history.countP (·.registers pid) ≤ 1 ∧ history.countP (·.exits pid) ≤ 1 ∧
      history.countP (·.delivers pid) ≤ 1 ∧
      ∀ past moment future, history = past ++ moment :: future → ∀ caller status,
        moment.call? = some (pid, caller) → moment.reply = .collected status →
          ExitedWith past pid status ∧ RegisteredTo past pid caller ∧
          moment.after.table.find? pid = none ∧
          ∀ next ∈ future, next.after.table.find? pid = none ∧
            ∀ other, next.call? = some (pid, other) → next.reply = .failed (.notFound pid) := by
  have start := sound_empty maxRecords
  refine ⟨countP_registers_le_one start requests pid, countP_exits_le_one start requests pid,
    countP_delivers_le_one start requests pid, ?_⟩
  intro past moment future split caller status called collected
  obtain ⟨earlier, later, -, rfl, met, rfl⟩ := history_split split
  have recorded := run_recorded maxRecords earlier
  have sound := run_sound start earlier
  rw [← met] at recorded sound
  have step := moment.step
  rw [collected] at step
  obtain ⟨info, ripe, entitled, -⟩ := step_delivery step called
  have closed := closed_of_delivery sound step called
  have soundAfter : moment.after.Sound := serve_sound sound moment.request
  refine ⟨recorded.statuses _ _ _ ripe.1 ripe.2.2, ?_, closed.missing soundAfter.table,
    closed.history soundAfter later⟩
  rcases entitled with child | waiting
  · exact recorded.parents _ _ _ ripe.1 child
  · exact recorded.callers _ waiting

theorem status_delivered_to_sleeper :
    let requests : List Request := [.register "child.coff" (some 0), .markRunning 1, .join 1 0,
      .markExited 1 (.normal 5), .resume 0, .take 1 0]
    let past := (empty 8).history (requests.take 4)
    let sleeper := (empty 8).run (requests.take 4)
    ExitedWith past 1 (.normal 5) ∧ RegisteredTo past 1 0 ∧
      ∀ next ∈ (sleeper.serve (.resume 0)).2.history [.take 1 0],
        next.reply = .failed (.notFound 1) := by
  intro requests past sleeper
  obtain ⟨-, -, -, delivered⟩ := status_delivered_once 8 requests 1
  obtain ⟨exited, registered, -, closed⟩ :=
    delivered past ⟨sleeper, .resume 0⟩ _ rfl 0 (.normal 5) rfl rfl
  refine ⟨exited, registered, fun next member => ?_⟩
  obtain rfl := List.mem_singleton.mp member
  exact (closed _ member).2 0 rfl

end JoinRoom

end Minikernel
