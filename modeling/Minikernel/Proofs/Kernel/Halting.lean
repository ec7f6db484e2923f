import Minikernel.Kernel.Machine
import Minikernel.Proofs.Kernel.Ancestry

/-!
Who can stop a kernel, and what is left of it then. The root process is a running child of the
kernel itself, and nobody else can halt. A kernel that has halted starts nothing more, while the
processes that it has go on, end and are joined as ever.
-/

namespace Minikernel

namespace Kernel

open ProcessTable

variable {kernel after : Kernel} {request : Request} {pid caller : Pid} {info : ProcessInfo}
  {status : ExitStatus}

def RootBelow (kernel : Kernel) : Prop :=
  ∀ info ∈ kernel.table.records, info.pid = kernel.root → info.parent = some kernelPid

theorem RootBelow.launch (below : kernel.RootBelow) (sound : kernel.Sound) {process : Process}
    (numbered : process.pid = kernel.table.nextPid) (name : String) (parent : Pid)
    (left : FramePool) : (kernel.launch name parent process left).RootBelow := by
  have fresh : kernel.root ≠ kernel.table.nextPid := by
    rcases sound.root with rootless | runs
    · rw [rootless]
      exact UInt32.ne_of_lt sound.orderly.positive
    · obtain ⟨record, found, -⟩ := (isRunning_iff sound.orderly.sound.distinct).mp runs
      exact UInt32.ne_of_lt (sound.orderly.sound.numbered _ _ found)
  intro info member root
  replace root : info.pid =
    if parent = kernelPid ∧ kernel.root = kernelPid then process.pid else kernel.root := root
  by_cases first : parent = kernelPid ∧ kernel.root = kernelPid
  · rw [if_pos first, numbered] at root
    rcases List.mem_cons.mp member with rfl | old
    · exact congrArg some first.1
    · have found := (find?_eq_some_iff sound.orderly.sound.distinct).mpr ⟨old, root⟩
      rw [sound.orderly.sound.missing_nextPid] at found
      cases found
  · rw [if_neg first] at root
    rcases List.mem_cons.mp member with rfl | old
    · exact absurd root.symm fresh
    · exact below info old root

theorem RootBelow.finish (below : kernel.RootBelow) (sound : kernel.Sound) {process : Process}
    (held : kernel.process? pid = some process) (status : ExitStatus) :
    (kernel.finish pid status).RootBelow := by
  obtain ⟨record, found, runs⟩ := sound.record_of_process held
  have selfless := sound.pid_ne_kernel held
  rw [finish_eq held]
  intro later member root
  replace root : later.pid = if kernel.root = pid then kernelPid else kernel.root := root
  obtain ⟨info, old, remains⟩ := remains_of_mem_depart sound.orderly.sound found runs member
  by_cases ended : kernel.root = pid
  · rw [if_pos ended, remains.same_pid] at root
    exact absurd root (sound.orderly.unnumbered info old)
  · rw [if_neg ended, remains.same_pid] at root
    have parented := below info old root
    cases remains with
    | untouched => exact parented
    -- Only children of the process that ends are cut off, and the root process is none.
    | released _ child =>
        rw [parented] at child
        exact absurd (Option.some.inj child).symm selfless
    | kept own => exact absurd (root.symm.trans own) ended

theorem step_rootBelow (sound : kernel.Sound) (below : kernel.RootBelow)
    (step : kernel.Step request after) : after.RootBelow := by
  cases step with
  | same | halted | computed | scheduled => exact below
  | launched _ _ _ _ numbered => exact below.launch sound numbered _ _ _
  | finished held => exact below.finish sound held _
  | joined | taken => exact fun info member => below info (List.mem_filter.mp member).1

theorem run_rootBelow (sound : kernel.Sound) (below : kernel.RootBelow)
    (requests : List Request) : (kernel.run requests).RootBelow :=
  sound.run_induction (motive := RootBelow) below
    (fun _ _ _ sound below step => step_rootBelow sound below step) requests

theorem halt_of_root (allowed : kernel.root ≠ kernelPid ∧ caller = kernel.root) :
    kernel.halt caller = (true, { kernel with halted := true }) :=
  if_neg (by simp [allowed])

theorem halt_of_other (refused : ¬(kernel.root ≠ kernelPid ∧ caller = kernel.root)) :
    kernel.halt caller = (false, kernel) := by
  rw [not_and_or, not_not] at refused
  exact if_pos refused

theorem halt_eq_true_iff :
    (kernel.halt caller).1 = true ↔ kernel.root ≠ kernelPid ∧ caller = kernel.root := by
  by_cases allowed : kernel.root ≠ kernelPid ∧ caller = kernel.root
  · rw [halt_of_root allowed]
    exact iff_of_true rfl allowed
  · rw [halt_of_other allowed]
    exact iff_of_false Bool.false_ne_true allowed

theorem halt_refused (refused : (kernel.halt caller).1 = false) :
    (kernel.halt caller).2 = kernel := by
  rw [← Bool.not_eq_true, halt_eq_true_iff] at refused
  rw [halt_of_other refused]

structure Stopped (registered : Nat) (kernel : Kernel) : Prop where
  halted : kernel.halted = true
  registered : kernel.table.registered = registered

theorem Stopped.step {registered : Nat} (stopped : kernel.Stopped registered)
    (sound : kernel.Sound) (step : kernel.Step request after) : after.Stopped registered := by
  cases step with
  | same | joined | taken | computed | scheduled => exact ⟨stopped.halted, stopped.registered⟩
  | halted => exact ⟨rfl, stopped.registered⟩
  | launched running =>
      rw [stopped.halted] at running
      cases running
  | @finished pid status process held =>
      obtain ⟨record, found, runs⟩ := sound.record_of_process held
      rw [finish_eq held]
      exact ⟨stopped.halted, (depart_numbers found runs status).2.2.trans stopped.registered⟩

theorem Stopped.run {registered : Nat} (stopped : kernel.Stopped registered)
    (sound : kernel.Sound) (requests : List Request) :
    (kernel.run requests).Stopped registered :=
  sound.run_induction (motive := Stopped registered) stopped
    (fun _ _ _ sound stopped step => stopped.step sound step) requests

theorem exec_of_halted (halted : kernel.halted = true) (parent : Pid) (name : String)
    (arguments : Arguments) : kernel.exec parent name arguments = (.error .halted, kernel) :=
  if_pos halted

theorem boot_of_halted {machine : Machine} (halted : machine.kernel.halted = true) (name : String)
    (arguments : Arguments) : machine.boot name arguments = .error .halted := by
  simp only [Machine.boot, Machine.exec, exec_of_halted halted]
  rfl

theorem syscall_halt (context : Context) (a0 a1 a2 : Int32) :
    kernel.syscall context (Syscall.halt.registers a0 a1 a2) =
      if kernel.root ≠ kernelPid ∧ context.pid = kernel.root then
        (.trap .halt, { kernel with halted := true }, context)
      else (.value Limits.syscallFailure, kernel, context) := by
  simp only [syscall, Syscall.registers, Syscall.ofNumber?_number]
  by_cases allowed : kernel.root ≠ kernelPid ∧ context.pid = kernel.root
  · rw [if_pos allowed, halt_of_root allowed]
  · rw [if_neg allowed, halt_of_other allowed]

theorem Sound.serve_finish (sound : kernel.Sound) (found : kernel.table.find? pid = some info)
    (runs : info.state = .running) (status : ExitStatus) :
    (kernel.serve (.finish pid status)).table = kernel.table.depart pid status := by
  have running := (isRunning_iff sound.orderly.sound.distinct).mpr ⟨info, found, runs⟩
  obtain ⟨process, held⟩ := sound.isRunning_iff_process.mp running
  simp only [serve, held]
  rw [finish_eq held]

theorem Sound.join_finish (sound : kernel.Sound) {process : Process} {parent : Pid}
    (held : kernel.process? pid = some process) (found : kernel.table.find? pid = some info)
    (child : info.parent = some parent) (selfless : parent ≠ pid) (status : ExitStatus) :
    let ended := kernel.finish pid status
    ended.join parent pid = .status status { ended with table := ended.table.reclaim pid } := by
  intro ended
  obtain ⟨own, same, runs⟩ := sound.record_of_process held
  rw [found] at same
  cases same
  have left := ended_of_child status (find?_pid found) (by simp [child]) (by simpa [child])
  have record := find?_depart sound.orderly.sound found runs found left
  have departed : ended.table = kernel.table.depart pid status := by
    rw [show ended = _ from finish_eq held status]
  rw [← departed] at record
  exact join_eq_status_iff.mpr
    ⟨_, join_eq_joined_iff.mpr ⟨_, ⟨record, rfl, rfl⟩, child, rfl⟩, rfl⟩

theorem Sound.finish_then_join (sound : kernel.Sound) (first : kernel.table.ParentsFirst)
    (found : kernel.table.find? pid = some info) (runs : info.state = .running)
    (status : ExitStatus) :
    let ended := kernel.serve (.finish pid status)
    pid ∉ ended.table.running ∧
      match info.parent with
      | none => ended.table.find? pid = none
      | some parent => ∃ joined, ended.join parent pid = .status status joined ∧
          joined.table.find? pid = none := by
  intro ended
  have departed : ended.table = kernel.table.depart pid status :=
    sound.serve_finish found runs status
  have table := sound.orderly.sound
  refine ⟨?_, ?_⟩
  · rw [departed, running_depart table found runs]
    simp
  · cases child : info.parent with
    | none =>
        -- Whatever is left under this number came from the record that ended, which is gone.
        refine Option.eq_none_iff_forall_ne_some.mpr fun later held => ?_
        rw [departed] at held
        obtain ⟨member, numbered⟩ :=
          (find?_eq_some_iff (table.depart found runs status).distinct).mp held
        obtain ⟨record, old, remains⟩ := remains_of_mem_depart table found runs member
        have own : record.pid = pid := remains.same_pid.symm.trans numbered
        have same := (find?_eq_some_iff table.distinct).mpr ⟨old, own⟩
        rw [found] at same
        cases same
        cases remains with
        | untouched differs | released differs => exact differs own
        | kept _ parented => exact parented child
    | some parent =>
        have selfless : parent ≠ pid := by
          rintro rfl
          exact UInt32.lt_irrefl _ (first.lt_of_parent found child)
        have running := (isRunning_iff table.distinct).mpr ⟨info, found, runs⟩
        obtain ⟨process, held⟩ := sound.isRunning_iff_process.mp running
        have same : ended = kernel.finish pid status := by simp only [ended, serve, held]
        have joined := sound.join_finish held found child selfless status
        rw [← same] at joined
        refine ⟨_, joined, ?_⟩
        show (ended.table.reclaim pid).find? pid = none
        rw [find?_reclaim, if_pos rfl]

theorem halt_is_final (config : Config) (loader : Loader (Program Int32)) (console : Console)
    (requests : List Request) :
    let kernel := (boot config loader console).run requests
    (kernel.root ≠ kernelPid → ∃ info, kernel.table.find? kernel.root = some info ∧
      info.state = .running ∧ info.parent = some kernelPid) ∧
    (∀ caller,
      ((kernel.halt caller).1 = true ↔ kernel.root ≠ kernelPid ∧ caller = kernel.root) ∧
      ((kernel.halt caller).1 = false → (kernel.halt caller).2 = kernel)) ∧
    (∀ context a0 a1 a2, kernel.syscall context (Syscall.halt.registers a0 a1 a2) =
      if kernel.root ≠ kernelPid ∧ context.pid = kernel.root then
        (.trap .halt, { kernel with halted := true }, context)
      else (.value Limits.syscallFailure, kernel, context)) ∧
    ∀ caller, (kernel.halt caller).1 = true → ∀ later,
      let last := (kernel.halt caller).2.run later
      last.halted = true ∧ last.table.registered = kernel.table.registered ∧
      (∀ parent name arguments,
        last.exec parent name arguments = (.error .halted, last)) ∧
      (∀ journal name arguments,
        (Machine.mk last journal).boot name arguments = .error .halted) ∧
      ∀ pid info, last.table.find? pid = some info → info.state = .running → ∀ status,
        let ended := last.serve (.finish pid status)
        pid ∉ ended.table.running ∧
          match info.parent with
          | none => ended.table.find? pid = none
          | some parent => ∃ joined, ended.join parent pid = .status status joined ∧
              joined.table.find? pid = none := by
  intro kernel
  have booted : (boot config loader console).Sound := sound_boot config loader console
  have sound : kernel.Sound := booted.run requests
  have below : kernel.RootBelow :=
    run_rootBelow booted (by simp [RootBelow, boot, ofLimit]) requests
  have first : kernel.table.ParentsFirst :=
    run_parentsFirst booted (by simp [ParentsFirst, boot, ofLimit]) requests
  refine ⟨?_, fun caller => ⟨halt_eq_true_iff, halt_refused⟩, syscall_halt, ?_⟩
  · intro rooted
    obtain ⟨info, member, same, runs⟩ := sound.root.resolve_left rooted
    exact ⟨info, (find?_eq_some_iff sound.orderly.sound.distinct).mpr ⟨member, same⟩, runs,
      below info member same⟩
  · intro caller allowed later last
    have rooted := halt_eq_true_iff.mp allowed
    have halts := halt_of_root rooted
    have step : kernel.Step (.halt caller) (kernel.halt caller).2 := by
      rw [halts]
      exact .halted rooted.1 rooted.2
    have soundAfter := sound.step step
    have stopped : last.Stopped kernel.table.registered :=
      Stopped.run ⟨congrArg (fun result => result.2.halted) halts,
        congrArg (fun result => result.2.table.registered) halts⟩ soundAfter later
    have firstLast : last.table.ParentsFirst :=
      run_parentsFirst soundAfter (step_parentsFirst sound first step) later
    have soundLast : last.Sound := soundAfter.run later
    exact ⟨stopped.halted, stopped.registered, exec_of_halted stopped.halted,
      fun journal => boot_of_halted stopped.halted,
      fun pid info found runs => soundLast.finish_then_join firstLast found runs⟩

theorem child_joined_after_halt :
    let kernel := (boot ⟨64, 2, 4, none, false⟩ smallLoader (.fresh false)).run
      [.exec kernelPid "a.coff" [], .exec 1 "a.coff" []]
    let last := (kernel.halt 1).2.run [.exec 1 "a.coff" []]
    last.table.registered = 2 ∧
      ∃ joined, (last.serve (.finish 2 (.normal 7))).join 1 2 = .status (.normal 7) joined ∧
        joined.table.find? 2 = none := by
  intro kernel last
  have allowed : (kernel.halt 1).1 = true := by decide +kernel
  have found : last.table.find? 2 = some ⟨2, "a.coff", .running, some 1, none⟩ := by
    decide +kernel
  have entered : kernel.table.registered = 2 := by decide +kernel
  obtain ⟨-, -, -, final⟩ := halt_is_final ⟨64, 2, 4, none, false⟩ smallLoader (.fresh false)
    [.exec kernelPid "a.coff" [], .exec 1 "a.coff" []]
  obtain ⟨-, registered, -, -, ends⟩ := final 1 allowed [.exec 1 "a.coff" []]
  exact ⟨registered.trans entered, (ends 2 _ found rfl (.normal 7)).2⟩

end Kernel

end Minikernel
