import Minikernel.Proofs.Table.Orphaning

/-!
How a record ages. Over any history it goes forward through its states, keeps the status that it
once has, may lose its parent but never gets one, and once it is out of the table it does not come
back. An operation that fails leaves the table as it was, also when it is carried out in place.
-/

namespace Minikernel

/-- What a record can be later: further on, with the same status if it had one, and with the same
parent or none. -/
structure ProcessInfo.Becomes (info later : ProcessInfo) : Prop where
  pid : later.pid = info.pid
  name : later.name = info.name
  forward : info.state.rank ≤ later.state.rank
  status : ∀ status, info.exitStatus = some status → later.exitStatus = some status
  parent : later.parent = info.parent ∨ later.parent = none

namespace ProcessInfo

variable {info middle later : ProcessInfo}

theorem Becomes.refl (info : ProcessInfo) : info.Becomes info :=
  ⟨rfl, rfl, Nat.le_refl _, fun _ known => known, .inl rfl⟩

theorem Becomes.trans (first : info.Becomes middle) (second : middle.Becomes later) :
    info.Becomes later where
  pid := second.pid.trans first.pid
  name := second.name.trans first.name
  forward := Nat.le_trans first.forward second.forward
  status status known := second.status status (first.status status known)
  parent := by
    rcases second.parent with same | lost
    · rw [same]
      exact first.parent
    · exact .inr lost

end ProcessInfo

namespace JoinRoom

open ProcessTable

variable {room after : JoinRoom} {request : Request} {reply : Reply} {pid : Pid}
  {info : ProcessInfo}

theorem step_becomes (sound : room.table.Sound) (step : room.Step request reply after)
    (entered : pid < room.table.nextPid) (held : after.table.find? pid = some info) :
    ∃ old, room.table.find? pid = some old ∧ old.Becomes info := by
  cases step_origin sound.distinct step held with
  | registered fresh => exact absurd (fresh ▸ entered) (UInt32.lt_irrefl _)
  | kept found => exact ⟨info, found, .refl info⟩
  | started found created =>
      refine ⟨_, found, rfl, rfl, ?_, fun _ known => known, .inl rfl⟩
      rw [created]
      exact Nat.le_succ 1
  | exited found running =>
      refine ⟨_, found, rfl, rfl, ?_, fun status known => ?_, .inl rfl⟩
      · rw [running]
        exact Nat.le_succ 2
      · -- A running process has no status yet that could be written over.
        have ended := (sound.coherent _ _ found).2.mp (by rw [known]; rfl)
        rw [running] at ended
        cases ended
  | detached found | released found =>
      exact ⟨_, found, rfl, rfl, Nat.le_refl _, fun _ known => known, .inr rfl⟩

theorem run_becomes (sound : room.table.Sound) (requests : List Request)
    (entered : pid < room.table.nextPid) (held : (room.run requests).table.find? pid = some info) :
    ∃ old, room.table.find? pid = some old ∧ old.Becomes info := by
  induction requests generalizing room with
  | nil => exact ⟨info, held, .refl info⟩
  | cons request rest ih =>
      have step := room.serve_step request
      have stillEntered := UInt32.lt_of_lt_of_le entered (step_nextPid sound step).1
      obtain ⟨middle, found, later⟩ := ih (step_sound sound step) stillEntered held
      obtain ⟨old, first, sooner⟩ := step_becomes sound step entered found
      exact ⟨old, first, sooner.trans later⟩

theorem run_entered (maxRecords : Nat) (requests : List Request) :
    ∀ moment ∈ (empty maxRecords).history requests, moment.reply = .registered pid →
      pid < ((empty maxRecords).run requests).table.nextPid := by
  refine (sound_empty maxRecords).history_induction
    (motive := fun past room => ∀ moment ∈ past, moment.reply = .registered pid →
      pid < room.table.nextPid) (by simp) (fun past room request sound entered => ?_) requests
  intro moment member replied
  have step := room.serve_step request
  rcases List.mem_append.mp member with old | new
  · exact UInt32.lt_of_lt_of_le (entered moment old replied) (step_nextPid sound.table step).1
  · obtain rfl := List.mem_singleton.mp new
    have answered : (room.serve request).1 = .registered pid := replied
    rw [answered] at step
    generalize (room.serve request).2 = after at step ⊢
    cases step with
    | registered notFull left => exact lt_succ_of_le_maxPid left

theorem step_failed {cause : ProcessError} (step : room.Step request (.failed cause) after) :
    after.table = room.table := by
  cases step with
  | refused | lost => rfl

def report (give : α → Reply) : Except ProcessError α × ProcessTable → Reply × ProcessTable
  | (.ok given, table) => (give given, table)
  | (.error cause, table) => (.failed cause, table)

def Reply.ofStatus : Option ExitStatus → Reply
  | some status => .collected status
  | none => .asleep

def carryOut (room : JoinRoom) : Request → Reply × ProcessTable
  | .register name parent => report .registered (room.table.registerInPlace name parent)
  | .markRunning pid => report (fun _ => .done) (room.table.markRunningInPlace pid)
  | .markExited pid status => report (fun _ => .done) (room.table.markExitedInPlace pid status)
  | .discard pid => report (fun _ => .done) (room.table.discardInPlace pid)
  | .detach pid => report (fun _ => .done) (room.table.detachInPlace pid)
  | .take pid caller => report .collected (room.table.takeInPlace pid caller)
  | .join pid caller => report .ofStatus (room.table.joinInPlace pid caller)
  | .resume index =>
      match room.waiters[index]? with
      | some ⟨pid, _, true⟩ => report .ofStatus (room.table.rejoinInPlace pid)
      | _ => (.asleep, room.table)
  | .orphanChildren parent =>
      let (count, table) := room.table.orphanEach parent (room.table.children parent)
      (.orphaned count, table)

theorem report_settle (give : α → Reply) (result : Except ProcessError (α × ProcessTable)) :
    report give (room.table.settle result) =
      Prod.map id JoinRoom.table
        (room.answer (result.map fun given => (give given.1, { room with table := given.2 }))) := by
  cases result <;> rfl

theorem report_settleDone (result : Except ProcessError ProcessTable) :
    report (fun _ => .done) (room.table.settleDone result) =
      Prod.map id JoinRoom.table
        (room.answer (result.map fun table => (.done, { room with table := table }))) := by
  cases result <;> rfl

theorem finish_table {ending : Ending} :
    (room.finish pid ending).map JoinRoom.table = ending.apply room.table pid := by
  unfold finish
  cases recorded : room.table.record pid with
  | error cause =>
      cases ending with
      | exited status => simp [Ending.apply, markExited, recorded, bind, Except.bind, Except.map]
      | discarded =>
          simp [Ending.apply, ProcessTable.discard, recorded, bind, Except.bind, Except.map]
  | ok info =>
      cases ending.apply room.table pid with
      | error cause => rfl
      | ok table =>
          by_cases wakes : ending.wakes info = true <;>
            simp [bind, Except.bind, pure, Except.pure, Except.map, wakes, wake]

theorem report_finish (ending : Ending) :
    report (fun _ => .done) (room.table.settleDone (ending.apply room.table pid)) =
      Prod.map id JoinRoom.table
        (room.answer ((room.finish pid ending).map fun room => (.done, room))) := by
  rw [← finish_table]
  cases room.finish pid ending <;> rfl

theorem carryOut_join (pid caller : Pid) :
    room.carryOut (.join pid caller) =
      Prod.map id JoinRoom.table (room.serve (.join pid caller)) := by
  simp only [carryOut, joinInPlace_eq, serve, enter]
  cases room.table.join pid caller <;> rfl

theorem carryOut_resume (index : Nat) :
    room.carryOut (.resume index) =
      Prod.map id JoinRoom.table (room.serve (.resume index)) := by
  simp only [carryOut, rejoinInPlace_eq, serve, resume]
  cases room.waiters[index]? with
  | none => rfl
  | some waiter =>
      obtain ⟨pid, caller, awake⟩ := waiter
      cases awake with
      | false => rfl
      | true =>
          dsimp only
          rw [if_pos rfl]
          cases room.table.rejoin pid <;> rfl

theorem carryOut_orphanChildren (distinct : room.table.Distinct) (parent : Pid) :
    room.carryOut (.orphanChildren parent) =
      Prod.map id JoinRoom.table (room.serve (.orphanChildren parent)) := by
  have all : ∀ info ∈ room.table.records, info.parent = some parent →
      info.pid ∈ room.table.children parent := fun info member own =>
    List.mem_map_of_mem (List.mem_filter.mpr ⟨member, decide_eq_true own⟩)
  simp only [carryOut, orphanEach_eq distinct all]
  rfl

theorem carryOut_eq_serve (distinct : room.table.Distinct) (request : Request) :
    room.carryOut request = Prod.map id JoinRoom.table (room.serve request) := by
  cases request with
  | register name parent =>
      rw [carryOut, registerInPlace_eq, report_settle]
      rfl
  | markRunning pid =>
      rw [carryOut, markRunningInPlace_eq, report_settleDone]
      rfl
  | markExited pid status =>
      rw [carryOut, markExitedInPlace_eq]
      exact report_finish (.exited status)
  | discard pid =>
      rw [carryOut, discardInPlace_eq]
      exact report_finish .discarded
  | detach pid =>
      rw [carryOut, detachInPlace_eq, report_settleDone]
      rfl
  | take pid caller =>
      rw [carryOut, takeInPlace_eq, report_settle]
      rfl
  | join pid caller => exact carryOut_join pid caller
  | resume index => exact carryOut_resume index
  | orphanChildren parent => exact carryOut_orphanChildren distinct parent

/-- Over any history a record goes forward only: its state never goes back, its status never
changes once it is there, its parent is at most lost, and when it is out of the table it stays out.
It has a status exactly when it has exited, and is never seen reclaimed. An operation that fails,
carried out in place with its writes one by one, leaves the whole table as it was. -/
theorem records_age_and_failures_are_inert (maxRecords : Nat) (earlier later : List Request)
    (pid : Pid) :
    let room := (empty maxRecords).run earlier
    let after := room.run later
    (∀ info aged, room.table.find? pid = some info → after.table.find? pid = some aged →
      info.Becomes aged) ∧
    ((∃ moment ∈ (empty maxRecords).history earlier, moment.reply = .registered pid) →
      room.table.find? pid = none → after.table.find? pid = none) ∧
    (∀ info, room.table.find? pid = some info →
      info.state ≠ .reclaimed ∧ (info.exitStatus.isSome = true ↔ info.state = .exited)) ∧
    ∀ request, room.carryOut request = ((room.serve request).1, (room.serve request).2.table) ∧
      ∀ cause, (room.carryOut request).1 = .failed cause →
        (room.carryOut request).2 = room.table := by
  intro room after
  have sound : room.Sound := run_sound (sound_empty maxRecords) earlier
  refine ⟨fun info aged found held => ?_, fun registered missing => ?_, sound.table.coherent pid,
    fun request => ⟨carryOut_eq_serve sound.table.distinct request, fun cause failed => ?_⟩⟩
  · have entered := sound.table.numbered pid info found
    obtain ⟨old, before, becomes⟩ := run_becomes sound.table later entered held
    rw [found] at before
    cases before
    exact becomes
  · obtain ⟨moment, member, replied⟩ := registered
    have entered := run_entered maxRecords earlier moment member replied
    cases held : after.table.find? pid with
    | none => rfl
    | some aged =>
        obtain ⟨old, before, -⟩ := run_becomes sound.table later entered held
        rw [missing] at before
        cases before
  · have step := room.serve_step request
    rw [carryOut_eq_serve sound.table.distinct request] at failed ⊢
    exact step_failed ((show (room.serve request).1 = _ from failed) ▸ step)

theorem exited_record_ages :
    let room := (empty 1).run [.register "a.coff" (some 7), .markRunning 1,
      .markExited 1 (.normal 5)]
    let joined := (room.serve (.take 1 7)).2
    (⟨1, "a.coff", .exited, some 7, some (.normal 5)⟩ : ProcessInfo).Becomes
        ⟨1, "a.coff", .exited, none, some (.normal 5)⟩ ∧
      (joined.run [.register "b.coff" none]).table.find? 1 = none ∧
      room.carryOut (.register "b.coff" none) = (.failed (.limitReached 1 1), room.table) := by
  intro room joined
  obtain ⟨ages, -, -, inert⟩ := records_age_and_failures_are_inert 1
    [.register "a.coff" (some 7), .markRunning 1, .markExited 1 (.normal 5)] [.detach 1] 1
  obtain ⟨-, stays, -⟩ := records_age_and_failures_are_inert 1
    [.register "a.coff" (some 7), .markRunning 1, .markExited 1 (.normal 5), .take 1 7]
    [.register "b.coff" none] 1
  obtain ⟨-, unchanged⟩ := inert (.register "b.coff" none)
  have failed : (room.carryOut (.register "b.coff" none)).1 = .failed (.limitReached 1 1) := by
    decide
  exact ⟨ages _ _ (by decide) (by decide), stays (by decide) (by decide),
    Prod.ext failed (unchanged _ failed)⟩

end JoinRoom

end Minikernel
