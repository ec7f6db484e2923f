import Minikernel.Kernel.State
import Minikernel.Proofs.Table.Delivery

/-!
Joins that wait and joins that do not. Both look at a record in the same way and differ only in what
they do about a live child: one sleeps, the other is sent away. Whoever slept finds on waking what
the other finds by asking again, as long as nobody else has touched the record.
-/

namespace Minikernel

def JoinOutcome.ofTake : Except ProcessError (ExitStatus × ProcessTable) → JoinOutcome
  | .ok (status, table) => .joined status table
  | .error (.notYetExited _) => .blocked
  | .error cause => .failed cause

namespace ProcessTable

variable {table : ProcessTable} {pid caller : Pid} {info : ProcessInfo}

theorem ofTake_checkParent {cause : ProcessError}
    (refused : checkParent info caller = .error cause) :
    JoinOutcome.ofTake (.error cause) = .failed cause := by
  unfold checkParent at refused
  split at refused
  · cases refused
  · split at refused <;> cases refused <;> rfl

theorem ofTake_collect {cause : ProcessError} (failed : table.collect info = .error cause) :
    JoinOutcome.ofTake (.error cause) = .failed cause := by
  unfold collect at failed
  split at failed <;> cases failed
  rfl

theorem join_eq_ofTake (table : ProcessTable) (pid caller : Pid) :
    table.join pid caller = .ofTake (table.take pid caller) := by
  cases found : table.find? pid with
  | none =>
      rw [join_of_missing found, take_of_missing found]
      rfl
  | some info =>
      cases allowed : checkParent info caller with
      | error cause =>
          have refused : table.take pid caller = .error cause := by
            simp [take, record, found, allowed, bind, Except.bind]
          rw [refused, ofTake_checkParent allowed]
          simp [join, record, found, allowed]
      | ok =>
          -- Past the parent check both go by the state of the record alone.
          cases state : info.state with
          | created | running | reclaimed =>
              simp [join, take, record, found, allowed, bind, Except.bind, ProcessInfo.isLive,
                state, throw, throwThe, MonadExceptOf.throw, JoinOutcome.ofTake]
          | exited =>
              have taken : table.take pid caller = table.collect info := by
                simp [take, record, found, allowed, bind, Except.bind, state]
              rw [taken]
              cases collected : table.collect info with
              | error cause =>
                  rw [ofTake_collect collected]
                  simp [join, record, found, allowed, ProcessInfo.isLive, state, collected]
              | ok given =>
                  simp [join, record, found, allowed, ProcessInfo.isLive, state, collected,
                    JoinOutcome.ofTake]

theorem live_of_notYetExited {other : Pid}
    (refused : table.take pid caller = .error (.notYetExited other)) :
    other = pid ∧
      ∃ info, table.find? pid = some info ∧ info.isLive = true ∧ info.parent = some caller := by
  have blocked : table.join pid caller = .blocked := by
    rw [join_eq_ofTake, refused]
    rfl
  obtain ⟨info, found, live, child⟩ := join_eq_blocked_iff.mp blocked
  rw [take_of_live found live child] at refused
  cases refused
  exact ⟨rfl, info, found, live, child⟩

end ProcessTable

namespace Kernel

theorem tryJoin_eq_join (kernel : Kernel) (caller pid : Pid) :
    kernel.tryJoin caller pid =
      match kernel.join caller pid with
      | .status status after => .ok (some status, after)
      | .failed cause => .error cause
      | .blocked => .ok (none, kernel) := by
  unfold tryJoin join
  rw [ProcessTable.join_eq_ofTake]
  cases kernel.table.take pid caller with
  | ok given => rfl
  | error cause => cases cause <;> rfl

end Kernel

namespace JoinRoom

open ProcessTable

variable {room after : JoinRoom} {request : Request} {reply : Reply} {pid caller : Pid}
  {info : ProcessInfo} {awake : Bool} {status : ExitStatus}

/-- Whether a request acts on the record of a process or on callers that wait for it, when the
process is a child of `parent`. -/
def concerns (room : JoinRoom) (pid parent : Pid) : Request → Bool
  | .register .. => false
  | .markRunning target | .markExited target _ | .discard target | .detach target
  | .take target _ | .join target _ => target = pid
  | .resume index => room.waiters[index]?.any fun waiter => waiter.pid = pid
  | .orphanChildren other => other = parent

def Moment.concerns (moment : Moment) (pid parent : Pid) : Bool :=
  moment.before.concerns pid parent moment.request

theorem concerns_of_call (called : room.call? request = some (pid, caller)) (parent : Pid) :
    room.concerns pid parent request = true := by
  cases request with
  | take target child | join target child =>
      cases called
      simp [concerns]
  | resume index =>
      obtain ⟨waiter, present, asked⟩ := Option.map_eq_some_iff.mp called
      cases asked
      simp [concerns, present]
  | _ => cases called

structure Awaits (room : JoinRoom) (pid caller : Pid) (info : ProcessInfo) (awake : Bool) :
    Prop where
  found : room.table.find? pid = some info
  child : info.parent = some caller
  waits : ⟨pid, caller, awake⟩ ∈ room.waiters

theorem step_find?_of_elsewhere (sound : room.table.Sound) (step : room.Step request reply after)
    (found : room.table.find? pid = some info) (child : info.parent = some caller)
    (elsewhere : room.concerns pid caller request = false) :
    after.table.find? pid = some info := by
  have change := step_change sound.distinct step pid
  rw [found] at change
  generalize result : after.table.find? pid = later at change
  generalize known : some info = before at change
  cases change with
  | kept => rfl
  | registered fresh =>
      rw [fresh, sound.missing_nextPid] at found
      cases found
  | started | exited | vanished | discarded | detached => simp [concerns] at elsewhere
  | released parented | reaped parented =>
      cases known
      rw [child, Option.some.injEq] at parented
      simp [concerns, parented] at elsewhere
  | collected called => rw [concerns_of_call called] at elsewhere; cases elsewhere

theorem waits_at_other {index : Nat} {waiter : Waiter} {parent : Pid}
    (waits : ⟨pid, caller, awake⟩ ∈ room.waiters) (present : room.waiters[index]? = some waiter)
    (elsewhere : room.concerns pid parent (.resume index) = false) :
    ∃ position, position ≠ index ∧ room.waiters[position]? = some ⟨pid, caller, awake⟩ := by
  have differs : waiter.pid ≠ pid := by simpa [concerns, present] using elsewhere
  obtain ⟨position, held⟩ := List.getElem?_of_mem waits
  refine ⟨position, ?_, held⟩
  rintro rfl
  rw [held] at present
  cases present
  exact differs rfl

theorem step_waits_of_elsewhere {parent : Pid} (step : room.Step request reply after)
    (elsewhere : room.concerns pid parent request = false)
    (waits : ⟨pid, caller, awake⟩ ∈ room.waiters) : ⟨pid, caller, awake⟩ ∈ after.waiters := by
  cases step with
  | refused | registered | started | vanished | detached | taken | joined | idle | orphaned =>
      exact waits
  | exited | discarded =>
      refine List.mem_map.mpr ⟨_, waits, if_neg ?_⟩
      simpa [concerns, eq_comm] using elsewhere
  | slept => exact List.mem_append_left _ waits
  | won present | lost present =>
      obtain ⟨position, apart, held⟩ := waits_at_other waits present elsewhere
      exact List.mem_eraseIdx_iff_getElem?.mpr ⟨position, apart, held⟩
  | dozed present =>
      obtain ⟨position, apart, held⟩ := waits_at_other waits present elsewhere
      refine List.mem_iff_getElem?.mpr ⟨position, ?_⟩
      rw [List.getElem?_set_ne apart.symm, held]

theorem Awaits.serve (awaits : room.Awaits pid caller info awake) (sound : room.table.Sound)
    (elsewhere : room.concerns pid caller request = false) :
    (room.serve request).2.Awaits pid caller info awake := by
  have step := room.serve_step request
  exact ⟨step_find?_of_elsewhere sound step awaits.found awaits.child elsewhere, awaits.child,
    step_waits_of_elsewhere step elsewhere awaits.waits⟩

theorem Awaits.run (awaits : room.Awaits pid caller info awake) (sound : room.table.Sound)
    (requests : List Request)
    (elsewhere : ∀ moment ∈ room.history requests, moment.concerns pid caller = false) :
    (room.run requests).Awaits pid caller info awake := by
  induction requests generalizing room with
  | nil => exact awaits
  | cons request rest ih =>
      have first : room.concerns pid caller request = false :=
        elsewhere ⟨room, request⟩ (List.mem_cons_self ..)
      exact ih (awaits.serve sound first) (step_sound sound (room.serve_step request))
        fun moment member => elsewhere moment (List.mem_cons_of_mem _ member)

theorem Awaits.markRunning (awaits : room.Awaits pid caller info awake) :
    ∃ later, (room.serve (.markRunning pid)).2.Awaits pid caller later awake := by
  obtain ⟨found, child, waits⟩ := awaits
  have step := room.serve_step (.markRunning pid)
  generalize (room.serve (.markRunning pid)).1 = reply at step
  generalize (room.serve (.markRunning pid)).2 = after at step ⊢
  cases step with
  | refused => exact ⟨info, found, child, waits⟩
  | started => exact ⟨_, find?_modify_self _ (fun _ => rfl) found, child, waits⟩

theorem Awaits.run_to_exit (awaits : room.Awaits pid caller info awake) (sound : room.table.Sound)
    (requests : List Request)
    (elsewhere : ∀ moment ∈ room.history requests,
      moment.request = .markRunning pid ∨ moment.concerns pid caller = false) :
    ∃ later, (room.run requests).Awaits pid caller later awake := by
  induction requests generalizing room info with
  | nil => exact ⟨info, awaits⟩
  | cons request rest ih =>
      have others : ∀ moment ∈ (room.serve request).2.history rest,
          moment.request = .markRunning pid ∨ moment.concerns pid caller = false :=
        fun moment member => elsewhere moment (List.mem_cons_of_mem _ member)
      have soundAfter := step_sound sound (room.serve_step request)
      rcases elsewhere ⟨room, request⟩ (List.mem_cons_self ..) with started | first
      · obtain rfl : request = .markRunning pid := started
        obtain ⟨later, waiting⟩ := awaits.markRunning
        exact ih waiting soundAfter others
      · exact ih (awaits.serve sound first) soundAfter others

theorem Awaits.exit (awaits : room.Awaits pid caller info awake)
    (step : room.Step (.markExited pid status) .done after) :
    after.Awaits pid caller { info with state := .exited, exitStatus := some status } true := by
  obtain ⟨found, child, waits⟩ := awaits
  cases step with
  | exited => exact ⟨find?_keep found, child, List.mem_map.mpr ⟨_, waits, if_pos rfl⟩⟩
  | vanished refound _ orphan =>
      rw [found] at refound
      cases refound
      rw [child] at orphan
      cases orphan

theorem Awaits.wake (awaits : room.Awaits pid caller info true) (sound : room.Sound)
    (exited : info.state = .exited) (kept : info.exitStatus = some status) :
    (room.serve (.take pid caller)).1 = .collected status ∧
      ∀ index, room.waiters[index]? = some ⟨pid, caller, true⟩ →
        (room.serve (.resume index)).1 = .collected status ∧
        (room.serve (.resume index)).2.table = (room.serve (.take pid caller)).2.table := by
  have ripe : room.table.Ripe pid info status := ⟨awaits.found, exited, kept⟩
  have roused : ¬room.Sleeps pid := fun sleeps =>
    sound.roused pid sleeps (stage_eq_three_iff.mpr ⟨info, awaits.found, exited⟩)
  have asked : room.call? (.take pid caller) = some (pid, caller) := rfl
  have taken := serve_of_ripe ripe awaits.child roused asked
  refine ⟨by rw [taken], fun index present => ?_⟩
  have woken : room.call? (.resume index) = some (pid, caller) := by simp [call?, present]
  have resumed := serve_of_ripe ripe awaits.child roused woken
  rw [taken, resumed]
  exact ⟨rfl, rfl⟩

theorem serve_join_eq_take
    (answered : (room.serve (.take pid caller)).1 ≠ .failed (.notYetExited pid)) :
    room.serve (.join pid caller) = room.serve (.take pid caller) := by
  simp only [serve, enter, join_eq_ofTake] at answered ⊢
  cases taken : room.table.take pid caller with
  | ok given => rfl
  | error cause =>
      cases cause with
      | notYetExited other =>
          rw [taken, (live_of_notYetExited taken).1] at answered
          exact absurd rfl answered
      | _ => rfl

theorem serve_join_of_notYetExited
    (refused : (room.serve (.take pid caller)).1 = .failed (.notYetExited pid)) :
    (∃ info, room.table.find? pid = some info ∧ info.parent = some caller) ∧
      (room.serve (.take pid caller)).2 = room ∧
      room.serve (.join pid caller) =
        (.asleep, { room with waiters := room.waiters ++ [⟨pid, caller, false⟩] }) := by
  simp only [serve, enter, join_eq_ofTake] at refused ⊢
  cases taken : room.table.take pid caller with
  | ok given =>
      rw [taken] at refused
      cases refused
  | error cause =>
      rw [taken] at refused
      cases refused
      obtain ⟨-, info, found, -, child⟩ := live_of_notYetExited taken
      exact ⟨⟨info, found, child⟩, rfl, rfl⟩

/-- A join answers at once as trying to join does, except that it waits for a live child where
trying is refused. If the next that happens to the child is that it is started and exits, the caller
wakes to the answer and the table that trying then gives, and this is so for a kernel as well. -/
theorem waiting_agrees_with_trying (maxRecords : Nat) (requests : List Request)
    (pid caller : Pid) :
    let room := (empty maxRecords).run requests
    let tried := room.serve (.take pid caller)
    let waited := room.serve (.join pid caller)
    (tried.1 ≠ .failed (.notYetExited pid) → waited = tried) ∧
    (tried.1 = .failed (.notYetExited pid) →
      tried.2 = room ∧
      waited = (.asleep, { room with waiters := room.waiters ++ [⟨pid, caller, false⟩] }) ∧
      ∀ between status,
        (∀ moment ∈ waited.2.history between,
          moment.request = .markRunning pid ∨ moment.concerns pid caller = false) →
        let ended := (waited.2.run between).serve (.markExited pid status)
        ended.1 = .done → ∀ later,
          (∀ moment ∈ ended.2.history later, moment.concerns pid caller = false) →
          let woken := ended.2.run later
          let retried := woken.serve (.take pid caller)
          retried.1 = .collected status ∧ ⟨pid, caller, true⟩ ∈ woken.waiters ∧
          ∀ index, woken.waiters[index]? = some ⟨pid, caller, true⟩ →
            (woken.serve (.resume index)).1 = retried.1 ∧
            (woken.serve (.resume index)).2.table = retried.2.table) ∧
    ∀ kernel : Kernel, kernel.tryJoin caller pid =
      match kernel.join caller pid with
      | .status status after => .ok (some status, after)
      | .failed cause => .error cause
      | .blocked => .ok (none, kernel) := by
  intro room tried waited
  refine ⟨serve_join_eq_take, fun refused => ?_, fun kernel => kernel.tryJoin_eq_join caller pid⟩
  have sound : room.Sound := run_sound (sound_empty maxRecords) requests
  obtain ⟨⟨info, found, child⟩, unchanged, slept⟩ := serve_join_of_notYetExited refused
  refine ⟨unchanged, slept, ?_⟩
  intro between status meanwhile ended done later elsewhere woken retried
  have awaits : waited.2.Awaits pid caller info false := by
    show (room.serve (.join pid caller)).2.Awaits pid caller info false
    rw [slept]
    exact ⟨found, child, List.mem_append_right _ (List.mem_singleton_self _)⟩
  have soundAsleep : waited.2.Sound := serve_sound sound _
  obtain ⟨atExit, stillAwaits⟩ := awaits.run_to_exit soundAsleep.table between meanwhile
  have soundAtExit := run_sound soundAsleep between
  have step := (waited.2.run between).serve_step (.markExited pid status)
  have roused := (stillAwaits.exit (done ▸ step)).run (step_sound soundAtExit.table step) later
    elsewhere
  have soundWoken : woken.Sound := run_sound (serve_sound soundAtExit _) later
  obtain ⟨answered, woke⟩ := roused.wake soundWoken rfl rfl
  refine ⟨answered, roused.waits, fun index present => ?_⟩
  obtain ⟨same, sameTable⟩ := woke index present
  exact ⟨same.trans answered.symm, sameTable⟩

theorem sleeper_agrees_after_late_start :
    let room := (empty 8).run [.register "child.coff" (some 0)]
    let waited := room.serve (.join 1 0)
    let between : List Request := [.register "other.coff" (some 7), .markRunning 1,
      .orphanChildren 7]
    let woken := ((waited.2.run between).serve (.markExited 1 (.normal 5))).2.run [.detach 2]
    (room.serve (.take 1 0)).1 = .failed (.notYetExited 1) ∧
      (woken.serve (.resume 0)).1 = .collected (.normal 5) ∧
      (woken.serve (.resume 0)).2.table = (woken.serve (.take 1 0)).2.table := by
  dsimp only
  obtain ⟨-, waits, -⟩ := waiting_agrees_with_trying 8 [.register "child.coff" (some 0)] 1 0
  obtain ⟨-, -, agrees⟩ := waits (by decide)
  obtain ⟨answered, -, woke⟩ := agrees [.register "other.coff" (some 7), .markRunning 1,
    .orphanChildren 7] (.normal 5) (by decide) (by decide) [.detach 2] (by decide)
  obtain ⟨same, sameTable⟩ := woke 0 (by decide)
  exact ⟨by decide, same.trans answered, sameTable⟩

end JoinRoom

end Minikernel
