import Minikernel.Proofs.Table.History
import Minikernel.Proofs.Table.Operations

/-!
What one request can do. Each fact about whole histories follows from the cases of `serve_step`,
without opening `serve` again.
-/

namespace Minikernel

namespace JoinRoom

open ProcessTable

variable {room after : JoinRoom} {request : Request} {pid caller : Pid} {ending : Ending}

inductive Step (room : JoinRoom) : Request → Reply → JoinRoom → Prop
  | refused {request cause} : Step room request (.failed cause) room
  | registered {name parent} : room.table.live < room.table.maxRecords →
      room.table.nextPid ≤ maxPid →
      Step room (.register name parent) (.registered room.table.nextPid)
        { room with table := room.table.enter name parent }
  | started {pid info} : room.table.find? pid = some info → info.state = .created →
      Step room (.markRunning pid) .done
        { room with table := room.table.modify pid ({ · with state := .running }) }
  | exited {pid info status} : room.table.find? pid = some info → info.state = .running →
      info.parent ≠ none →
      Step room (.markExited pid status) .done
        (wake { room with table := room.table.keep pid status } pid)
  | vanished {pid info status} : room.table.find? pid = some info → info.state = .running →
      info.parent = none →
      Step room (.markExited pid status) .done { room with table := room.table.reclaim pid }
  | discarded {pid info} : room.table.find? pid = some info → info.isLive = true →
      Step room (.discard pid) .done (wake { room with table := room.table.erase pid } pid)
  | detached {pid info} : room.table.find? pid = some info →
      Step room (.detach pid) .done
        { room with table := room.table.modify pid ({ · with parent := none }) }
  | taken {pid caller info status} : room.table.Ripe pid info status →
      info.parent = some caller →
      Step room (.take pid caller) (.collected status)
        { room with table := room.table.reclaim pid }
  | joined {pid caller info status} : room.table.Ripe pid info status →
      info.parent = some caller →
      Step room (.join pid caller) (.collected status)
        { room with table := room.table.reclaim pid }
  | slept {pid caller info} : room.table.find? pid = some info → info.isLive = true →
      info.parent = some caller →
      Step room (.join pid caller) .asleep
        { room with waiters := room.waiters ++ [⟨pid, caller, false⟩] }
  | won {index pid caller info status} : room.waiters[index]? = some ⟨pid, caller, true⟩ →
      room.table.Ripe pid info status →
      Step room (.resume index) (.collected status)
        ⟨room.table.reclaim pid, room.waiters.eraseIdx index⟩
  | lost {index pid caller cause} : room.waiters[index]? = some ⟨pid, caller, true⟩ →
      Step room (.resume index) (.failed cause)
        { room with waiters := room.waiters.eraseIdx index }
  | dozed {index pid caller} : room.waiters[index]? = some ⟨pid, caller, true⟩ →
      room.table.isLive pid = true →
      Step room (.resume index) .asleep
        { room with waiters := room.waiters.set index ⟨pid, caller, false⟩ }
  | idle {index} : Step room (.resume index) .asleep room
  | orphaned {parent} :
      Step room (.orphanChildren parent) (.orphaned (room.table.orphanChildren parent).1)
        { room with table := (room.table.orphanChildren parent).2 }

theorem finish_eq_ok_iff :
    room.finish pid ending = .ok after ↔
      ∃ info table, room.table.find? pid = some info ∧ ending.apply room.table pid = .ok table ∧
        (if ending.wakes info then wake { room with table := table } pid
          else { room with table := table }) = after := by
  unfold finish record
  cases found : room.table.find? pid with
  | none => simp [bind, Except.bind]
  | some info =>
      cases applied : ending.apply room.table pid <;>
        simp [bind, Except.bind, pure, Except.pure]

theorem serve_markExited {info : ProcessInfo} {status : ExitStatus}
    (found : room.table.find? pid = some info) (running : info.state = .running) :
    room.serve (.markExited pid status) =
      (.done, if info.parent = none then { room with table := room.table.reclaim pid }
        else wake { room with table := room.table.keep pid status } pid) := by
  have marked : room.table.markExited pid status = .ok _ :=
    markExited_eq_ok_iff.mpr ⟨info, found, running, rfl⟩
  have finished : room.finish pid (.exited status) = .ok _ :=
    finish_eq_ok_iff.mpr ⟨info, _, found, marked, rfl⟩
  by_cases orphan : info.parent = none <;>
    simp [serve, finished, answer, Except.map, Ending.wakes, orphan]

theorem serve_discard {info : ProcessInfo} (found : room.table.find? pid = some info)
    (live : info.isLive = true) :
    room.serve (.discard pid) = (.done, wake { room with table := room.table.erase pid } pid) := by
  have discarded := discard_eq_ok_iff.mpr ⟨info, found, live, rfl⟩
  have finished : room.finish pid .discarded = .ok _ :=
    finish_eq_ok_iff.mpr ⟨info, _, found, discarded, rfl⟩
  simp [serve, finished, answer, Except.map, Ending.wakes]

theorem step_answer {result : Except ProcessError α} {go : α → Reply × JoinRoom}
    (steps : ∀ value, result = .ok value → room.Step request (go value).1 (go value).2) :
    room.Step request (room.answer (result.map go)).1 (room.answer (result.map go)).2 := by
  cases result with
  | error cause => exact .refused
  | ok value => exact steps value rfl

theorem step_markExited (status : ExitStatus)
    (finished : room.finish pid (.exited status) = .ok after) :
    room.Step (.markExited pid status) .done after := by
  obtain ⟨info, table, found, marked, rfl⟩ := finish_eq_ok_iff.mp finished
  obtain ⟨same, refound, running, rfl⟩ := markExited_eq_ok_iff.mp marked
  obtain rfl : same = info := Option.some.inj (refound.symm.trans found)
  by_cases orphan : same.parent = none
  · simpa [Ending.wakes, orphan] using Step.vanished found running orphan
  · simpa [Ending.wakes, orphan] using Step.exited found running orphan

theorem step_discard (finished : room.finish pid .discarded = .ok after) :
    room.Step (.discard pid) .done after := by
  obtain ⟨info, table, found, discarded, rfl⟩ := finish_eq_ok_iff.mp finished
  obtain ⟨same, refound, live, rfl⟩ := discard_eq_ok_iff.mp discarded
  simpa [Ending.wakes] using Step.discarded refound live

theorem step_join : room.Step (.join pid caller) (room.serve (.join pid caller)).1
    (room.serve (.join pid caller)).2 := by
  rw [serve, enter]
  cases result : room.table.join pid caller with
  | failed cause => exact .refused
  | joined status table =>
      obtain ⟨info, ripe, child, rfl⟩ := join_eq_joined_iff.mp result
      exact .joined ripe child
  | blocked =>
      obtain ⟨info, found, live, child⟩ := join_eq_blocked_iff.mp result
      exact .slept found live child

theorem step_resume (index : Nat) : room.Step (.resume index) (room.serve (.resume index)).1
    (room.serve (.resume index)).2 := by
  rw [serve, resume]
  cases present : room.waiters[index]? with
  | none => exact .idle
  | some waiter =>
      obtain ⟨pid, caller, awake⟩ := waiter
      cases awake with
      | false => exact .idle
      | true =>
          cases result : room.table.rejoin pid with
          | failed cause => simpa [result, answerJoin] using .lost present
          | joined status table =>
              obtain ⟨info, ripe, rfl⟩ := rejoin_eq_joined_iff.mp result
              simpa [result, answerJoin] using .won present ripe
          | blocked =>
              simpa [result, answerJoin] using .dozed present (rejoin_eq_blocked_iff.mp result)

theorem serve_step (room : JoinRoom) (request : Request) :
    room.Step request (room.serve request).1 (room.serve request).2 := by
  cases request with
  | register name parent =>
      refine step_answer fun (pid, table) registered => ?_
      obtain ⟨notFull, left, rfl, rfl⟩ := register_eq_ok_iff.mp registered
      exact .registered notFull left
  | markRunning pid =>
      refine step_answer fun table marked => ?_
      obtain ⟨info, found, created, rfl⟩ := markRunning_eq_ok_iff.mp marked
      exact .started found created
  | markExited pid status => exact step_answer fun after finished => step_markExited status finished
  | discard pid => exact step_answer fun after finished => step_discard finished
  | detach pid =>
      refine step_answer fun table detached => ?_
      obtain ⟨info, found, rfl⟩ := detach_eq_ok_iff.mp detached
      exact .detached found
  | take pid caller =>
      refine step_answer fun (status, table) taken => ?_
      obtain ⟨info, ripe, child, rfl⟩ := take_eq_ok_iff.mp taken
      exact .taken ripe child
  | join pid caller => exact step_join
  | resume index => exact step_resume index
  | orphanChildren parent => exact .orphaned

end JoinRoom

end Minikernel
