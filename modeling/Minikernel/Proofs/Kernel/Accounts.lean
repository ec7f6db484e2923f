import Minikernel.Proofs.Kernel.History

/-!
What a kernel owns and who it belongs to. The table, the processes and the counters of a kernel
describe one and the same set of processes: the running ones, each with its frames. All that the
kernel does keeps them in step, so a kernel without processes holds nothing but statuses that
nobody has asked for.
-/

namespace Minikernel

namespace Kernel

open ProcessTable

variable {kernel after : Kernel} {request : Request} {pid caller : Pid} {process : Process}
  {status : ExitStatus}

structure Sound (kernel : Kernel) : Prop where
  orderly : kernel.table.Orderly
  processes : kernel.processes.map Process.pid = kernel.table.running
  alive : kernel.alive = kernel.processes.length
  frames : kernel.frames.used = (kernel.processes.map Process.pages).sum
  root : kernel.root = kernelPid ∨ kernel.table.IsRunning kernel.root

theorem sound_boot (config : Config) (loader : Loader (Program Int32)) (console : Console) :
    (boot config loader console).Sound where
  orderly := orderly_ofLimit _
  processes := rfl
  alive := rfl
  frames := rfl
  root := .inl rfl

theorem process?_eq_some (held : kernel.process? pid = some process) :
    process ∈ kernel.processes ∧ process.pid = pid :=
  ⟨List.mem_of_find?_eq_some held, by simpa using List.find?_some held⟩

theorem dropMemory_eq (held : kernel.process? pid = some process) :
    kernel.dropMemory pid =
      { kernel with
        frames := kernel.frames.release process.pages
        processes := kernel.processes.filter fun other => other.pid ≠ pid
        ready := kernel.ready.filter fun other => other ≠ pid } := by
  rw [dropMemory, held]

theorem finish_eq (held : kernel.process? pid = some process) (status : ExitStatus) :
    kernel.finish pid status =
      { kernel with
        frames := kernel.frames.release process.pages
        table := kernel.table.depart pid status
        processes := kernel.processes.filter fun other => other.pid ≠ pid
        ready := kernel.ready.filter fun other => other ≠ pid
        alive := kernel.alive - 1
        root := if kernel.root = pid then kernelPid else kernel.root } := by
  rw [finish, dropMemory_eq held]
  rfl

theorem map_filter_pid {α : Type} (view : Process → α) (key : α → Pid)
    (same : ∀ process, key (view process) = process.pid) (processes : List Process) (pid : Pid) :
    (processes.filter fun other => other.pid ≠ pid).map view =
      (processes.map view).filter fun item => key item ≠ pid := by
  rw [List.filter_map]
  simp only [Function.comp_def, same]

def holding (process : Process) : Pid × Nat :=
  (process.pid, process.pages)

theorem map_fst_holding (processes : List Process) :
    (processes.map holding).map Prod.fst = processes.map Process.pid :=
  List.map_map

theorem map_snd_holding (processes : List Process) :
    (processes.map holding).map Prod.snd = processes.map Process.pages :=
  List.map_map

theorem holding_compute (kernel : Kernel) (context : Context) (next : Program Int32)
    (console : Console) :
    (kernel.serve (.compute context next console)).processes.map holding =
      kernel.processes.map holding := by
  rw [serve, List.map_map]
  refine List.map_congr_left fun process _ => ?_
  by_cases own : process.pid = context.pid
  · simp only [Function.comp_apply, if_pos own]
    exact congrArg (·, process.pages) own.symm
  · simp only [Function.comp_apply, if_neg own]

/-- What a kernel owns while some of its processes leave: they have given their memory back, and
their end is still to be recorded. -/
structure Staffed (leaving : List Pid) (kernel : Kernel) : Prop where
  orderly : kernel.table.Orderly
  present : ∀ pid ∈ leaving, pid ∈ kernel.table.running
  processes : kernel.processes.map Process.pid = kernel.table.running.filter (· ∉ leaving)
  alive : kernel.alive = kernel.table.running.length
  frames : kernel.frames.used = (kernel.processes.map Process.pages).sum
  root : kernel.root = kernelPid ∨ kernel.table.IsRunning kernel.root

theorem sound_iff_staffed : kernel.Sound ↔ kernel.Staffed [] := by
  have everyone : kernel.table.running.filter (· ∉ ([] : List Pid)) = kernel.table.running := by
    simp
  constructor
  · rintro ⟨orderly, processes, alive, frames, root⟩
    refine ⟨orderly, nofun, processes.trans everyone.symm, ?_, frames, root⟩
    rw [alive, ← processes, List.length_map]
  · rintro ⟨orderly, -, processes, alive, frames, root⟩
    rw [everyone] at processes
    refine ⟨orderly, processes, ?_, frames, root⟩
    rw [alive, ← processes, List.length_map]

namespace Staffed

variable {leaving : List Pid} (staffed : kernel.Staffed leaving)

include staffed

theorem distinct : (kernel.processes.map Process.pid).Nodup := by
  rw [staffed.processes]
  exact (running_nodup staffed.orderly.sound.distinct).filter _

theorem stays (held : kernel.process? pid = some process) :
    pid ∈ kernel.table.running ∧ pid ∉ leaving := by
  obtain ⟨member, rfl⟩ := process?_eq_some held
  have listed : process.pid ∈ kernel.processes.map Process.pid := List.mem_map_of_mem member
  rw [staffed.processes] at listed
  simpa using List.mem_filter.mp listed

theorem record_of_leaving (leaves : pid ∈ leaving) :
    ∃ info, kernel.table.find? pid = some info ∧ info.state = .running :=
  (isRunning_iff staffed.orderly.sound.distinct).mp (mem_running.mp (staffed.present pid leaves))

theorem launch {name : String} {parent : Pid} {left : FramePool}
    (admitted : kernel.table.admits parent = true)
    (room : kernel.table.live < kernel.table.maxRecords) (unused : kernel.table.nextPid ≤ maxPid)
    (numbered : process.pid = kernel.table.nextPid)
    (reserved : kernel.frames.reserve process.pages = .ok left) :
    (kernel.launch name parent process left).Staffed leaving := by
  have child : (kernel.table.spawn name parent).IsRunning kernel.table.nextPid := by
    rw [← mem_running, running_spawn]
    exact List.mem_cons_self
  have fresh : kernel.table.nextPid ∉ leaving := by
    intro leaves
    obtain ⟨info, found, -⟩ := staffed.record_of_leaving leaves
    rw [staffed.orderly.sound.missing_nextPid] at found
    cases found
  refine ⟨staffed.orderly.spawn room unused admitted name, ?_, ?_, ?_, ?_, ?_⟩
  · intro pid leaves
    show pid ∈ (kernel.table.spawn name parent).running
    rw [running_spawn]
    exact List.mem_cons_of_mem _ (staffed.present pid leaves)
  · show process.pid :: kernel.processes.map Process.pid =
      (kernel.table.spawn name parent).running.filter (· ∉ leaving)
    rw [running_spawn, List.filter_cons_of_pos (by simpa using fresh), staffed.processes, numbered]
  · show kernel.alive + 1 = (kernel.table.spawn name parent).running.length
    rw [running_spawn, staffed.alive, List.length_cons]
  · show left.used = process.pages + (kernel.processes.map Process.pages).sum
    rw [(FramePool.reserve_eq_ok_iff.mp reserved).2, staffed.frames, Nat.add_comm]
  · show (if parent = kernelPid ∧ kernel.root = kernelPid then process.pid else kernel.root) =
        kernelPid ∨ (kernel.table.spawn name parent).IsRunning
          (if parent = kernelPid ∧ kernel.root = kernelPid then process.pid else kernel.root)
    by_cases first : parent = kernelPid ∧ kernel.root = kernelPid
    · rw [if_pos first, numbered]
      exact .inr child
    · rw [if_neg first]
      rcases staffed.root with rootless | ⟨info, held, same, runs⟩
      · exact .inl rootless
      · exact .inr ⟨info, List.mem_cons_of_mem _ held, same, runs⟩

theorem used_dropMemory (held : kernel.process? pid = some process) :
    process.pages + ((kernel.processes.filter fun other => other.pid ≠ pid).map
      Process.pages).sum = kernel.frames.used := by
  obtain ⟨member, rfl⟩ := process?_eq_some held
  rw [staffed.frames]
  exact sum_filter_ne Process.pages staffed.distinct member

theorem drop (held : kernel.process? pid = some process) :
    (kernel.dropMemory pid).Staffed (pid :: leaving) := by
  have lighter := staffed.used_dropMemory held
  rw [dropMemory_eq held]
  refine ⟨staffed.orderly, ?_, ?_, staffed.alive, ?_, staffed.root⟩
  · intro other leaves
    rcases List.mem_cons.mp leaves with rfl | before
    · exact (staffed.stays held).1
    · exact staffed.present other before
  · dsimp only
    rw [map_filter_pid Process.pid id fun _ => rfl, staffed.processes, List.filter_filter]
    refine List.filter_congr fun other _ => ?_
    simp
  · show kernel.frames.used - process.pages =
      ((kernel.processes.filter fun other => other.pid ≠ pid).map Process.pages).sum
    omega

theorem record (leaves : pid ∈ leaving) (status : ExitStatus) :
    (kernel.terminate pid status).Staffed (leaving.filter (· ≠ pid)) := by
  have running := staffed.present pid leaves
  obtain ⟨info, found, runs⟩ := staffed.record_of_leaving leaves
  have left := running_depart staffed.orderly.sound found runs status
  refine ⟨staffed.orderly.depart found runs status, ?_, ?_, ?_, staffed.frames, ?_⟩
  · intro other leaves
    show other ∈ (kernel.table.depart pid status).running
    obtain ⟨before, differs⟩ := List.mem_filter.mp leaves
    rw [left, List.mem_filter]
    exact ⟨staffed.present other before, differs⟩
  · -- The process is off the list already, and now its record is off the running ones.
    show kernel.processes.map Process.pid = (kernel.table.depart pid status).running.filter _
    rw [left, staffed.processes, List.filter_filter]
    refine List.filter_congr fun other _ => ?_
    by_cases own : other = pid
    · simp [own, leaves]
    · simp [own]
  · show kernel.alive - 1 = (kernel.table.depart pid status).running.length
    have distinct := running_nodup staffed.orderly.sound.distinct
    rw [left, staffed.alive, ← List.length_erase_of_mem running, distinct.erase_eq_filter]
    congr 1
    refine List.filter_congr fun other _ => ?_
    by_cases own : other = pid <;> simp [own]
  · show (if kernel.root = pid then kernelPid else kernel.root) = kernelPid ∨
      (kernel.table.depart pid status).IsRunning
        (if kernel.root = pid then kernelPid else kernel.root)
    by_cases rooted : kernel.root = pid
    · rw [if_pos rooted]
      exact .inl rfl
    · rw [if_neg rooted]
      rcases staffed.root with rootless | runsOn
      · exact .inl rootless
      · right
        rw [← mem_running, left, List.mem_filter]
        exact ⟨mem_running.mpr runsOn, by simpa using rooted⟩

theorem leaving_again (held : kernel.process? pid = some process) :
    (pid :: leaving).filter (· ≠ pid) = leaving := by
  rw [List.filter_cons_of_neg (by simp), List.filter_eq_self]
  intro other leaves
  simpa using ne_of_mem_of_not_mem leaves (staffed.stays held).2

theorem finish (held : kernel.process? pid = some process) (status : ExitStatus) :
    (kernel.finish pid status).Staffed leaving := by
  have recorded := (staffed.drop held).record List.mem_cons_self status
  rwa [staffed.leaving_again held] at recorded

theorem reclaim {info : ProcessInfo} (ripe : kernel.table.Ripe pid info status)
    (child : info.parent = some caller) :
    Staffed leaving { kernel with table := kernel.table.reclaim pid } := by
  have same := running_reclaim staffed.orderly.sound.distinct ripe.1 ripe.2.1
  refine ⟨staffed.orderly.reclaim ripe child, ?_, ?_, ?_, staffed.frames, ?_⟩
  · exact same.symm ▸ staffed.present
  · exact same.symm ▸ staffed.processes
  · exact same.symm ▸ staffed.alive
  · rcases staffed.root with rootless | runs
    · exact .inl rootless
    · right
      rw [← mem_running, same]
      exact mem_running.mpr runs

theorem compute {context : Context} {next : Program Int32} {console : Console} :
    (kernel.serve (.compute context next console)).Staffed leaving := by
  have kept := holding_compute kernel context next console
  refine ⟨staffed.orderly, staffed.present, ?_, staffed.alive, ?_, staffed.root⟩
  · rw [← map_fst_holding, kept, map_fst_holding, staffed.processes]
    rfl
  · rw [← map_snd_holding, kept, map_snd_holding, ← staffed.frames]
    rfl

theorem step (step : kernel.Step request after) : after.Staffed leaving := by
  cases step with
  | same => exact staffed
  | launched running admitted room unused numbered reserved =>
      exact staffed.launch admitted room unused numbered reserved
  | finished held => exact staffed.finish held _
  | joined ripe child | taken ripe child => exact staffed.reclaim ripe child
  | halted | scheduled =>
      exact ⟨staffed.orderly, staffed.present, staffed.processes, staffed.alive, staffed.frames,
        staffed.root⟩
  | computed => exact staffed.compute

end Staffed

structure SameMachine (after kernel : Kernel) : Prop where
  config : after.config = kernel.config
  loader : after.loader = kernel.loader
  total : after.frames.total = kernel.frames.total

theorem step_sameMachine {first : Kernel} (same : kernel.SameMachine first)
    (step : kernel.Step request after) : after.SameMachine first := by
  obtain ⟨config, loader, total⟩ := same
  cases step with
  | same | halted | joined | taken | computed | scheduled => exact ⟨config, loader, total⟩
  | launched running admitted room unused numbered reserved =>
      exact ⟨config, loader, (FramePool.reserve_eq_ok_iff.mp reserved).1.trans total⟩
  | finished held =>
      rw [finish_eq held]
      exact ⟨config, loader, total⟩

namespace Sound

variable (sound : kernel.Sound)

include sound

theorem distinct : (kernel.processes.map Process.pid).Nodup :=
  (sound_iff_staffed.mp sound).distinct

theorem isRunning_iff_process : kernel.table.IsRunning pid ↔ ∃ process,
    kernel.process? pid = some process := by
  rw [← mem_running, ← sound.processes, process?, ← Option.isSome_iff_exists, List.find?_isSome]
  simp [List.mem_map]

theorem record_of_process (held : kernel.process? pid = some process) :
    ∃ info, kernel.table.find? pid = some info ∧ info.state = .running :=
  (isRunning_iff sound.orderly.sound.distinct).mp (sound.isRunning_iff_process.mpr ⟨process, held⟩)

theorem pid_ne_kernel (held : kernel.process? pid = some process) : pid ≠ kernelPid := by
  obtain ⟨info, found, -⟩ := sound.record_of_process held
  rw [← find?_pid found]
  exact sound.orderly.unnumbered info (mem_of_find? found)

theorem step (step : kernel.Step request after) : after.Sound :=
  sound_iff_staffed.mpr ((sound_iff_staffed.mp sound).step step)

theorem run_induction {motive : Kernel → Prop} (start : motive kernel)
    (step : ∀ kernel request after, kernel.Sound → motive kernel → kernel.Step request after →
      motive after) (requests : List Request) : motive (kernel.run requests) := by
  induction requests generalizing kernel with
  | nil => exact start
  | cons request rest ih =>
      have served := serve_step sound.orderly.sound request
      exact ih (sound.step served) (step kernel request _ sound start served)

theorem run (requests : List Request) : (kernel.run requests).Sound :=
  sound.run_induction sound (fun _ _ _ sound _ step => sound.step step) requests

theorem run_sameMachine (requests : List Request) : (kernel.run requests).SameMachine kernel :=
  sound.run_induction (motive := (SameMachine · kernel)) ⟨rfl, rfl, rfl⟩
    (fun _ _ _ _ same step => step_sameMachine same step) requests

end Sound

end Kernel

end Minikernel
