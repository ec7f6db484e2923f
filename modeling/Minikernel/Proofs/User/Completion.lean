import Minikernel.Proofs.Kernel.Halting
import Minikernel.Proofs.Kernel.Scheduling
import Minikernel.Proofs.User.Execution

/-!
A process that has the machine to itself, from its start to its join. Whatever its program is, if
the program comes to a value by itself, the machine comes to rest, the kernel can join the process
with that value as its status, and nothing of it is left in memory.
-/

namespace Minikernel

namespace Kernel

/-- A kernel that has no process, is at rest and can start one. -/
structure Vacant (kernel : Kernel) : Prop where
  running : kernel.halted = false
  nobody : kernel.processes = []
  resting : kernel.ready = []
  room : kernel.table.live < kernel.table.maxRecords
  unused : kernel.table.nextPid ≤ ProcessTable.maxPid

theorem boot_vacant {config : Config} (processes : 0 < config.maxProcesses)
    (loader : Loader (Program Int32)) (console : Console) :
    (boot config loader console).Vacant where
  running := rfl
  nobody := rfl
  resting := rfl
  room := UInt64.lt_iff_toNat_lt.mp processes
  unused := (by decide : (1 : Pid) ≤ ProcessTable.maxPid)

end Kernel

namespace Machine

open Kernel Program ProcessTable

variable {kernel : Kernel} {journal : List (Pid × Reading)} {console later : Console}
  {context changed : Context} {pages steps : Nat} {program : Program Int32} {value : Int32}

theorem launch_solo (nobody : kernel.processes = []) (resting : kernel.ready = []) (name : String)
    (parent : Pid) (process : Process) (left : FramePool) :
    Machine.mk (kernel.launch name parent process left) journal =
      solo (kernel.launch name parent process left) journal kernel.console process := by
  simp [solo, launch, nobody, resting]

theorem run_of_resting {machine : Machine} (resting : machine.kernel.ready = []) (bound : Nat) :
    machine.run bound = machine := by
  cases bound with
  | zero => rfl
  | succ bound => rw [run, step, resting]

theorem finish_solo (process : Process) (status : ExitStatus) :
    let ended := (solo kernel journal console process).kernel.finish process.pid status
    ended.processes = [] ∧ ended.ready = [] ∧ ended.console = console := by
  intro ended
  have left : ended = _ := finish_eq (process?_solo process) status
  rw [left]
  simp [solo]

theorem wake_of_nobody (nobody : kernel.processes = []) (child : Pid) :
    wake kernel child = kernel := by
  cases kernel
  cases nobody
  rfl

theorem conclude_solo (process : Process) (status : ExitStatus) :
    conclude (solo kernel journal console process).kernel process.pid status =
      (solo kernel journal console process).kernel.finish process.pid status := by
  obtain ⟨nobody, -, -⟩ := @finish_solo kernel journal console process status
  exact wake_of_nobody nobody process.pid

theorem settle_solo (runs : Runs program console context steps value later changed)
    (soon : steps < stepBound) :
    settle (solo kernel journal console ⟨context, pages, program⟩) =
      ⟨(solo kernel journal later ⟨changed, pages, .done value⟩).kernel.finish changed.pid
        (.normal value), journal⟩ := by
  obtain ⟨bound, enough⟩ := Nat.exists_eq_add_of_lt soon
  have ends : (solo kernel journal later ⟨changed, pages, .done value⟩).step =
      some ⟨(solo kernel journal later ⟨changed, pages, .done value⟩).kernel.finish changed.pid
        (.normal value), journal⟩ := by
    rw [step_solo, advance]
    exact congrArg (fun kernel => some (Machine.mk kernel journal)) (conclude_solo _ _)
  obtain ⟨-, resting, -⟩ :=
    @finish_solo kernel journal later ⟨changed, pages, .done value⟩ (.normal value)
  rw [settle, enough, Nat.add_assoc, run_solo runs, run, ends]
  exact run_of_resting resting bound

theorem sound_solo (runs : Runs program console context steps value later changed)
    (sound : (solo kernel journal console ⟨context, pages, program⟩).kernel.Sound) :
    (solo kernel journal later ⟨changed, pages, .done value⟩).kernel.Sound := by
  have leads := run_leads (solo kernel journal console ⟨context, pages, program⟩) sound (steps + 0)
  rw [run_solo runs] at leads
  exact leads.sound sound

variable {name : String} {arguments : Arguments} {prepared : Prepared} {left : FramePool}

theorem lone_process_completes (sound : kernel.Sound) (vacant : kernel.Vacant)
    (prepares : kernel.prepare name arguments = (.ok prepared, left))
    (runs : Runs prepared.routine kernel.console
      (newcomer kernel.table.nextPid name prepared).context steps value later changed)
    (soon : steps < stepBound) :
    ∃ machine after, (Machine.mk kernel journal).exec kernelPid name arguments =
        .ok (kernel.table.nextPid, machine) ∧
      machine.kernel.console = later ∧
      machine.kernel.join kernelPid kernel.table.nextPid = .status (.normal value) after ∧
      after.frames.used = 0 := by
  obtain ⟨running, nobody, resting, room, unused⟩ := vacant
  let pid := kernel.table.nextPid
  let process := newcomer pid name prepared
  let launched := kernel.launch name kernelPid process left
  let done : Process := ⟨changed, process.pages, .done value⟩
  let last := (solo launched journal later done).kernel
  have own : done.pid = pid := runs.same_pid
  have begun : kernel.exec kernelPid name arguments = (.ok pid, launched) :=
    exec_of_prepared sound.orderly.sound running rfl room unused prepares
  have alone : Machine.mk launched journal = solo launched journal kernel.console process :=
    launch_solo nobody resting name kernelPid process left
  have settled : settle ⟨launched, journal⟩ = ⟨last.finish pid (.normal value), journal⟩ := by
    rw [alone, ← own]
    exact settle_solo runs soon
  have soundLaunched : launched.Sound := by
    have served := sound.run [.exec kernelPid name arguments]
    rwa [Kernel.run, Kernel.run, serve, begun] at served
  have soundLast : last.Sound :=
    sound_solo runs (congrArg Machine.kernel alone ▸ soundLaunched)
  have held : last.process? pid = some done := own ▸ process?_solo done
  have soundEnded : (last.finish pid (.normal value)).Sound :=
    sound_iff_staffed.mpr ((sound_iff_staffed.mp soundLast).finish held (.normal value))
  obtain ⟨gone, -, shown⟩ := @finish_solo launched journal later done (.normal value)
  rw [own] at gone shown
  have found : last.table.find? pid = some ⟨pid, name, .running, some kernelPid, none⟩ :=
    find?_spawn
  have joined := soundLast.join_finish held found rfl (soundLast.pid_ne_kernel held).symm
    (.normal value)
  refine ⟨⟨last.finish pid (.normal value), journal⟩, _, ?_, shown, joined, ?_⟩
  · rw [exec, begun]
    dsimp only
    rw [settled]
  · show (last.finish pid (.normal value)).frames.used = 0
    rw [soundEnded.frames, gone]
    rfl

end Machine

end Minikernel
