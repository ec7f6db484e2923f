import Minikernel.Kernel.State
import Minikernel.Proofs.Memory.Reservation
import Minikernel.Proofs.Table.Order

/-!
What comes of starting a process. Either every step of it succeeds, and the kernel has one more
running process, or one of them fails and all that was taken before it is given back. Which one
fails does not matter to the proof: each step comes with what it leaves behind.
-/

namespace Minikernel

namespace Kernel

open ProcessTable

variable {kernel : Kernel} {table : ProcessTable} {parent : Pid} {name : String}
  {arguments : Arguments} {left : FramePool}

theorem enrol_of_room (sound : table.Sound) (admitted : table.admits parent = true)
    (room : table.live < table.maxRecords) (unused : table.nextPid ≤ maxPid) (name : String) :
    enrol table name parent = (.ok table.nextPid, table.spawn name parent) := by
  have registered := register_eq_ok_iff.mpr
    ⟨room, unused, rfl, (rfl : table.enter name (some parent) = _)⟩
  have linked : unlink (table.enter name (some parent)) table.nextPid parent =
      table.enter name (some parent) := if_pos (admits_enter sound admitted)
  unfold enrol
  simp only [registered, linked, markRunning_enter sound]

theorem enrol_cases (sound : table.Sound) (admitted : table.admits parent = true) (name : String) :
    (∃ cause, enrol table name parent = (.error cause, table)) ∨
      table.live < table.maxRecords ∧ table.nextPid ≤ maxPid ∧
        enrol table name parent = (.ok table.nextPid, table.spawn name parent) := by
  cases registered : table.register name (some parent) with
  | error cause =>
      refine .inl ⟨cause, ?_⟩
      rw [enrol, registered]
  | ok result =>
      obtain ⟨child, entered⟩ := result
      obtain ⟨room, unused, -, -⟩ := register_eq_ok_iff.mp registered
      exact .inr ⟨room, unused, enrol_of_room sound admitted room unused name⟩

theorem prepare_error {cause : ExecError}
    (failed : kernel.prepare name arguments = (.error cause, left)) : left = kernel.frames := by
  unfold prepare at failed
  split at failed
  · exact (Prod.mk.inj failed).2.symm
  · rename_i loaded _
    split at failed
    · exact (Prod.mk.inj failed).2.symm
    · split at failed
      · rename_i failure taken built
        obtain ⟨-, rfl⟩ := Prod.mk.inj failed
        exact LoadedImage.build_error built
      · rename_i space taken built
        split at failed
        · obtain ⟨-, rfl⟩ := Prod.mk.inj failed
          exact FramePool.release_of_reserve (LoadedImage.build_ok built)
        · cases (Prod.mk.inj failed).1

theorem prepare_marshalled {prepared : Prepared}
    (done : kernel.prepare name arguments = (.ok prepared, left)) :
    ∃ loaded space, loaded.build kernel.frames kernel.config.stackPages = (.ok space, left) ∧
      arguments.marshal space = .ok (prepared.layout, prepared.space) ∧
      kernel.loader.load name = .ok loaded ∧ loaded.routine = prepared.routine := by
  unfold prepare at done
  split at done
  · cases (Prod.mk.inj done).1
  · rename_i loaded found
    split at done
    · cases (Prod.mk.inj done).1
    · split at done
      · cases (Prod.mk.inj done).1
      · rename_i space taken built
        split at done
        · cases (Prod.mk.inj done).1
        · rename_i layout filled marshalled
          obtain ⟨same, rfl⟩ := Prod.mk.inj done
          cases same
          exact ⟨loaded, space, built, marshalled, found, rfl⟩

theorem prepare_ok {prepared : Prepared}
    (done : kernel.prepare name arguments = (.ok prepared, left)) :
    kernel.frames.reserve prepared.space.pages.toNat = .ok left := by
  obtain ⟨loaded, space, built, marshalled, -, -⟩ := prepare_marshalled done
  rw [(Arguments.marshal_shape marshalled).pages]
  exact LoadedImage.build_ok built

def launch (kernel : Kernel) (name : String) (parent : Pid) (process : Process)
    (left : FramePool) : Kernel :=
  { kernel with
    frames := left
    table := kernel.table.spawn name parent
    processes := process :: kernel.processes
    ready := process.pid :: kernel.ready
    alive := kernel.alive + 1
    root := if parent = kernelPid ∧ kernel.root = kernelPid then process.pid else kernel.root }

def newcomer (pid : Pid) (name : String) (prepared : Prepared) : Process :=
  ⟨Context.fresh pid name prepared.space prepared.layout, prepared.space.pages.toNat,
    prepared.routine⟩

theorem exec_of_prepared (sound : kernel.table.Sound) (running : kernel.halted = false)
    (admitted : kernel.table.admits parent = true)
    (room : kernel.table.live < kernel.table.maxRecords) (unused : kernel.table.nextPid ≤ maxPid)
    {prepared : Prepared} (prepares : kernel.prepare name arguments = (.ok prepared, left)) :
    kernel.exec parent name arguments =
      (.ok kernel.table.nextPid,
        kernel.launch name parent (newcomer kernel.table.nextPid name prepared) left) := by
  rw [exec, if_neg (Bool.eq_false_iff.mp running), if_pos admitted, prepares]
  dsimp only
  rw [enrol_of_room sound admitted room unused name]
  rfl

theorem exec_outcomes (sound : kernel.table.Sound) (parent : Pid) (name : String)
    (arguments : Arguments) :
    (∃ cause, kernel.exec parent name arguments = (.error cause, kernel)) ∨
      ∃ prepared left, kernel.halted = false ∧ kernel.table.admits parent = true ∧
        kernel.table.live < kernel.table.maxRecords ∧ kernel.table.nextPid ≤ maxPid ∧
        kernel.prepare name arguments = (.ok prepared, left) ∧
        kernel.exec parent name arguments =
          (.ok kernel.table.nextPid,
            kernel.launch name parent (newcomer kernel.table.nextPid name prepared) left) := by
  unfold exec
  by_cases halted : kernel.halted = true
  · exact .inl ⟨_, if_pos halted⟩
  rw [if_neg halted]
  by_cases admitted : kernel.table.admits parent = true
  · rw [if_pos admitted]
    generalize prepares : kernel.prepare name arguments = outcome
    obtain ⟨cause | prepared, left⟩ := outcome
    · obtain rfl := prepare_error prepares
      exact .inl ⟨cause, rfl⟩
    · have reserved := prepare_ok prepares
      rcases enrol_cases sound admitted name with ⟨cause, failed⟩ | ⟨room, unused, enrolled⟩
      · refine .inl ⟨.process cause, ?_⟩
        rw [failed]
        dsimp only
        rw [FramePool.release_of_reserve reserved]
      · rw [enrolled]
        exact .inr ⟨prepared, left, by simpa using halted, admitted, room, unused, rfl, rfl⟩
  · exact .inl ⟨_, if_neg admitted⟩

theorem exec_cases (sound : kernel.table.Sound) (parent : Pid) (name : String)
    (arguments : Arguments) :
    (∃ cause, kernel.exec parent name arguments = (.error cause, kernel)) ∨
      ∃ process left, kernel.halted = false ∧ kernel.table.admits parent = true ∧
        kernel.table.live < kernel.table.maxRecords ∧ kernel.table.nextPid ≤ maxPid ∧
        process.pid = kernel.table.nextPid ∧
        process.pages = process.context.space.pages.toNat ∧
        kernel.frames.reserve process.pages = .ok left ∧
        kernel.exec parent name arguments =
          (.ok kernel.table.nextPid, kernel.launch name parent process left) := by
  rcases exec_outcomes sound parent name arguments with
    failed | ⟨prepared, left, running, admitted, room, unused, prepares, launched⟩
  · exact .inl failed
  · exact .inr ⟨newcomer kernel.table.nextPid name prepared, left, running, admitted, room, unused,
      rfl, rfl, prepare_ok prepares, launched⟩

end Kernel

end Minikernel
