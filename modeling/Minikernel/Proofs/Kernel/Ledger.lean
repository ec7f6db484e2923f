import Minikernel.Proofs.Kernel.Accounts
import Minikernel.Proofs.Table.Accounting

/-!
The frames that a kernel has given out, entry by entry. Each child that was started has got the
pages of its memory, once; the frames in use are those of the children that still run. The counters
that a kernel shows are those of its records.

Here a process ends in two moves. First its memory goes back, and later its end is recorded; other
processes may start, end and be joined in between.
-/

namespace Minikernel

namespace Kernel

open ProcessTable

variable {kernel after : Kernel} {request : Request} {pid : Pid} {process : Process}
  {status : ExitStatus} {past : List (Pid × Nat)} {leaving : List Pid} {config : Config}

def grant? (kernel : Kernel) : Request → Option (Pid × Nat)
  | .exec parent name arguments =>
      match kernel.exec parent name arguments with
      | (.ok child, started) => (started.process? child).map fun process =>
          (child, process.context.space.pages.toNat)
      | (.error _, _) => none
  | _ => none

/-- A kernel, and those of its processes that have given their memory back while their end is not
recorded yet. -/
structure Ending where
  kernel : Kernel
  leaving : List Pid

namespace Ending

inductive Move where
  /-- Any request is served; one to finish a process makes both other moves at once. -/
  | serve (request : Request)
  | drop (pid : Pid)
  | record (pid : Pid) (status : ExitStatus)

def move (state : Ending) : Move → Ending
  | .serve request => { state with kernel := state.kernel.serve request }
  | .drop pid =>
      match state.kernel.process? pid with
      | some _ => ⟨state.kernel.dropMemory pid, pid :: state.leaving⟩
      | none => state
  | .record pid status =>
      if pid ∈ state.leaving then
        ⟨state.kernel.terminate pid status, state.leaving.filter (· ≠ pid)⟩
      else state

def run (state : Ending) : List Move → Ending
  | [] => state
  | move :: rest => (state.move move).run rest

def grant? (state : Ending) : Move → Option (Pid × Nat)
  | .serve request => state.kernel.grant? request
  | .drop _ | .record _ _ => none

def grants (state : Ending) : List Move → List (Pid × Nat)
  | [] => []
  | move :: rest => (state.grant? move).toList ++ (state.move move).grants rest

end Ending

structure Granted (past : List (Pid × Nat)) (kernel : Kernel) : Prop where
  entered : ∀ grant ∈ past, grant.1 < kernel.table.nextPid
  distinct : (past.map Prod.fst).Nodup
  held : kernel.processes.map holding =
    past.filter fun grant => grant.1 ∈ kernel.processes.map Process.pid

theorem granted_boot (config : Config) (loader : Loader (Program Int32)) (console : Console) :
    Granted [] (boot config loader console) where
  entered := by simp
  distinct := List.nodup_nil
  held := rfl

theorem Granted.launch (granted : Granted past kernel) (unused : kernel.table.nextPid ≤ maxPid)
    (numbered : process.pid = kernel.table.nextPid) (name : String) (parent : Pid)
    (left : FramePool) :
    Granted (holding process :: past) (kernel.launch name parent process left) := by
  obtain ⟨entered, distinct, held⟩ := granted
  have older : ∀ grant ∈ past, grant.1 ≠ process.pid := by
    intro grant member
    rw [numbered]
    exact UInt32.ne_of_lt (entered grant member)
  refine ⟨?_, ?_, ?_⟩
  · intro grant member
    show grant.1 < kernel.table.nextPid + 1
    rcases List.mem_cons.mp member with rfl | old
    · rw [holding, numbered]
      exact lt_succ_of_le_maxPid unused
    · exact UInt32.lt_trans (entered grant old) (lt_succ_of_le_maxPid unused)
  · refine List.nodup_cons.mpr ⟨?_, distinct⟩
    intro member
    obtain ⟨grant, old, same⟩ := List.mem_map.mp member
    exact older grant old same
  · show holding process :: kernel.processes.map holding = (holding process :: past).filter
      fun grant => grant.1 ∈ process.pid :: kernel.processes.map Process.pid
    rw [List.filter_cons_of_pos (by simp [holding]), held]
    congr 1
    refine List.filter_congr fun grant member => ?_
    simp [older grant member]

theorem Granted.drop (granted : Granted past kernel)
    (held : kernel.process? pid = some process) : Granted past (kernel.dropMemory pid) := by
  rw [dropMemory_eq held]
  refine ⟨granted.entered, granted.distinct, ?_⟩
  dsimp only
  rw [map_filter_pid holding Prod.fst fun _ => rfl, map_filter_pid Process.pid id fun _ => rfl,
    granted.held, List.filter_filter]
  refine List.filter_congr fun grant _ => ?_
  simp [List.mem_filter, and_comm]

theorem Granted.of_same (granted : Granted past kernel)
    (processes : after.processes.map holding = kernel.processes.map holding)
    (nextPid : after.table.nextPid = kernel.table.nextPid) : Granted past after := by
  have pids : after.processes.map Process.pid = kernel.processes.map Process.pid := by
    rw [← map_fst_holding, processes, map_fst_holding]
  refine ⟨nextPid ▸ granted.entered, granted.distinct, ?_⟩
  rw [processes, pids]
  exact granted.held

/-- A kernel after some of its processes began to leave. What it has given out is known, and the
numbers that it has handed out are as many as its records ever. -/
structure Ledger (config : Config) (past : List (Pid × Nat)) (state : Ending) : Prop where
  staffed : state.kernel.Staffed state.leaving
  granted : Granted past state.kernel
  total : state.kernel.frames.total = config.physicalPages.toNat
  next : state.kernel.table.nextPid.toNat = state.kernel.table.registered + 1

theorem ledger_boot (config : Config) (loader : Loader (Program Int32)) (console : Console) :
    Ledger config [] ⟨boot config loader console, []⟩ where
  staffed := sound_iff_staffed.mp (sound_boot config loader console)
  granted := granted_boot config loader console
  total := rfl
  next := rfl

namespace Ledger

theorem exec (ledger : Ledger config past ⟨kernel, leaving⟩) (parent : Pid) (name : String)
    (arguments : Arguments) :
    Ledger config ((kernel.grant? (.exec parent name arguments)).toList ++ past)
      ⟨kernel.serve (.exec parent name arguments), leaving⟩ := by
  obtain ⟨staffed, granted, total, next⟩ := ledger
  rcases exec_cases staffed.orderly.sound parent name arguments with
    ⟨cause, failed⟩ |
    ⟨process, left, -, admitted, room, unused, numbered, pages, reserved, launched⟩
  · simp only [grant?, serve, failed]
    exact ⟨staffed, granted, total, next⟩
  · have first : (kernel.launch name parent process left).process? kernel.table.nextPid =
        some process := List.find?_cons_of_pos (by simpa using numbered)
    have given : kernel.grant? (.exec parent name arguments) = some (holding process) := by
      simp only [grant?, launched, first, Option.map_some, holding, numbered, pages]
    rw [given]
    simp only [serve, launched]
    exact ⟨staffed.launch admitted room unused numbered reserved,
      granted.launch unused numbered name parent left,
      (FramePool.reserve_eq_ok_iff.mp reserved).1.trans total,
      (toNat_succ unused).trans (congrArg (· + 1) next)⟩

theorem drop (ledger : Ledger config past ⟨kernel, leaving⟩)
    (held : kernel.process? pid = some process) :
    Ledger config past ⟨kernel.dropMemory pid, pid :: leaving⟩ := by
  obtain ⟨staffed, granted, total, next⟩ := ledger
  refine ⟨staffed.drop held, granted.drop held, ?_, ?_⟩
  · rw [dropMemory_eq held]
    exact total
  · rw [dropMemory_eq held]
    exact next

theorem record (ledger : Ledger config past ⟨kernel, leaving⟩) (leaves : pid ∈ leaving)
    (status : ExitStatus) :
    Ledger config past ⟨kernel.terminate pid status, leaving.filter (· ≠ pid)⟩ := by
  obtain ⟨staffed, granted, total, next⟩ := ledger
  obtain ⟨info, found, runs⟩ := staffed.record_of_leaving leaves
  obtain ⟨sameNext, -, sameRegistered⟩ := depart_numbers found runs status
  refine ⟨staffed.record leaves status, granted.of_same rfl sameNext, total, ?_⟩
  show (kernel.table.depart pid status).nextPid.toNat =
    (kernel.table.depart pid status).registered + 1
  rw [sameNext, sameRegistered]
  exact next

theorem finish (ledger : Ledger config past ⟨kernel, leaving⟩)
    (held : kernel.process? pid = some process) (status : ExitStatus) :
    Ledger config past ⟨kernel.finish pid status, leaving⟩ := by
  have recorded := (ledger.drop held).record List.mem_cons_self status
  rwa [ledger.staffed.leaving_again held] at recorded

theorem step (ledger : Ledger config past ⟨kernel, leaving⟩) (step : kernel.Step request after)
    (started : ∀ parent name arguments, request ≠ .exec parent name arguments) :
    Ledger config past ⟨after, leaving⟩ := by
  have staffed := ledger.staffed.step step
  obtain ⟨-, granted, total, next⟩ := id ledger
  cases step with
  | same => exact ledger
  | launched => exact absurd rfl (started _ _ _)
  | finished held => exact ledger.finish held _
  | joined | taken | halted | scheduled => exact ⟨staffed, granted.of_same rfl rfl, total, next⟩
  | computed => exact ⟨staffed, granted.of_same (holding_compute _ _ _ _) rfl, total, next⟩

theorem serve (ledger : Ledger config past ⟨kernel, leaving⟩) (request : Request) :
    Ledger config ((kernel.grant? request).toList ++ past) ⟨kernel.serve request, leaving⟩ := by
  have step := serve_step ledger.staffed.orderly.sound request
  cases request with
  | exec parent name arguments => exact ledger.exec parent name arguments
  | finish | join | tryJoin | halt | compute | schedule => exact ledger.step step nofun

theorem move {state : Ending} (ledger : Ledger config past state) (move : Ending.Move) :
    Ledger config ((state.grant? move).toList ++ past) (state.move move) := by
  obtain ⟨kernel, leaving⟩ := state
  cases move with
  | serve request => exact ledger.serve request
  | drop pid =>
      simp only [Ending.move]
      split
      · rename_i held
        exact ledger.drop held
      · exact ledger
  | record pid status =>
      simp only [Ending.move]
      split
      · rename_i leaves
        exact ledger.record leaves status
      · exact ledger

theorem run {state : Ending} (ledger : Ledger config past state) (moves : List Ending.Move) :
    Ledger config ((state.grants moves).reverse ++ past) (state.run moves) := by
  induction moves generalizing state past with
  | nil => exact ledger
  | cons move rest ih =>
      have later := ih (ledger.move move)
      have same : (state.grant? move).toList.reverse = (state.grant? move).toList := by
        cases state.grant? move <;> rfl
      rw [Ending.grants, List.reverse_append, same, List.append_assoc]
      exact later

theorem used (ledger : Ledger config past ⟨kernel, leaving⟩) :
    kernel.frames.used = ((past.filter fun grant =>
      grant.1 ∈ kernel.table.running ∧ grant.1 ∉ leaving).map Prod.snd).sum := by
  obtain ⟨staffed, granted, -, -⟩ := ledger
  rw [staffed.frames, ← map_snd_holding, granted.held, staffed.processes]
  congr 2
  refine List.filter_congr fun grant _ => ?_
  simp [List.mem_filter]

theorem of_running (ledger : Ledger config past ⟨kernel, leaving⟩)
    (runs : pid ∈ kernel.table.running) (stays : pid ∉ leaving) :
    ∃ process, kernel.process? pid = some process ∧ (pid, process.pages) ∈ past := by
  obtain ⟨staffed, granted, -, -⟩ := ledger
  have working : pid ∈ kernel.processes.map Process.pid := by
    rw [staffed.processes]
    exact List.mem_filter.mpr ⟨runs, by simpa using stays⟩
  obtain ⟨member, own⟩ := List.mem_map.mp working
  have held : (kernel.process? pid).isSome := by
    rw [process?, List.find?_isSome]
    exact ⟨member, own.1, by simpa using own.2⟩
  obtain ⟨process, held⟩ := Option.isSome_iff_exists.mp held
  obtain ⟨member, rfl⟩ := process?_eq_some held
  have listed : holding process ∈ kernel.processes.map holding := List.mem_map_of_mem member
  rw [granted.held] at listed
  exact ⟨process, held, (List.mem_filter.mp listed).1⟩

theorem shown (ledger : Ledger config past ⟨kernel, leaving⟩) :
    kernel.stats.running.toNat = kernel.table.running.length ∧
      kernel.stats.frames.usedFrames.toNat = kernel.frames.used ∧
      kernel.stats.registered.toNat = kernel.table.registered ∧
      kernel.stats.reclaimed.toNat = kernel.table.reclaimed ∧
      kernel.stats.liveRecords.toNat = kernel.table.size := by
  obtain ⟨staffed, -, total, next⟩ := ledger
  dsimp only at staffed total next
  have word : UInt64.size = 0x10000000000000000 := rfl
  have last : kernel.table.nextPid.toNat ≤ 0x80000000 :=
    UInt32.le_iff_toNat_le.mp staffed.orderly.sound.bounded
  have entered : kernel.table.registered = kernel.table.reclaimed + kernel.table.size :=
    staffed.orderly.balanced.entered
  have fewer : kernel.table.running.length ≤ kernel.table.size := by
    rw [running, List.length_map]
    exact List.length_filter_le _ _
  have inUse := kernel.frames.usedBound
  have physical : config.physicalPages.toNat < UInt64.size := config.physicalPages.toNat_lt
  refine ⟨?_, ?_, ?_, ?_, ?_⟩
  · rw [← staffed.alive]
    exact UInt64.toNat_ofNat_of_lt' (by rw [staffed.alive]; omega)
  all_goals exact UInt64.toNat_ofNat_of_lt' (by omega)

end Ledger

theorem Staffed.record_in_full (staffed : kernel.Staffed leaving) (leaves : pid ∈ leaving)
    (status : ExitStatus) :
    (∃ table, kernel.table.markExited pid status = .ok table) ∧
      (kernel.terminate pid status).alive + 1 = kernel.alive := by
  obtain ⟨info, found, runs⟩ := staffed.record_of_leaving leaves
  refine ⟨⟨_, markExited_eq_ok_iff.mpr ⟨info, found, runs, rfl⟩⟩, ?_⟩
  have counted : 0 < kernel.alive :=
    staffed.alive ▸ List.length_pos_of_mem (staffed.present pid leaves)
  show kernel.alive - 1 + 1 = kernel.alive
  omega

theorem Staffed.gone_of_join (staffed : kernel.Staffed leaving) {caller : Pid}
    (joined : kernel.join caller pid = .status status after) :
    pid ∉ kernel.table.running ∧ kernel.process? pid = none := by
  obtain ⟨table, taken, -⟩ := join_eq_status_iff.mp joined
  obtain ⟨info, ⟨found, exited, -⟩, -, -⟩ := join_eq_joined_iff.mp taken
  have stopped : pid ∉ kernel.table.running := by
    intro running
    obtain ⟨same, refound, runs⟩ :=
      (isRunning_iff staffed.orderly.sound.distinct).mp (mem_running.mp running)
    rw [found] at refound
    cases refound
    rw [exited] at runs
    cases runs
  refine ⟨stopped, Option.eq_none_iff_forall_ne_some.mpr fun process held => ?_⟩
  exact stopped (staffed.stays held).1

/-- The counters that a kernel shows are right: it has as many processes as records of running
ones, none is half started, and the frames in use are the pages that the running ones were given
when they started, except for those that have given theirs back and are about to end. The end of
these can always be recorded, and there is a process to count for each of them. Nobody can be
joined who holds frames. -/
theorem counters_match_processes (config : Config) (loader : Loader (Program Int32))
    (console : Console) (moves : List Ending.Move) :
    let start : Ending := ⟨boot config loader console, []⟩
    let last := start.run moves
    let table := last.kernel.table
    let seen := last.kernel.stats
    seen.running.toNat = (table.records.filter fun info => info.state = .running).length ∧
      (∀ info ∈ table.records, info.state ≠ .created) ∧
    (((start.grants moves).map Prod.fst).Nodup ∧
      seen.frames.usedFrames.toNat = (((start.grants moves).filter fun grant =>
        grant.1 ∈ table.running ∧ grant.1 ∉ last.leaving).map Prod.snd).sum ∧
      seen.frames.usedFrames ≤ config.physicalPages) ∧
    seen.registered.toNat = seen.reclaimed.toNat + seen.liveRecords.toNat ∧
    (∀ pid ∈ table.running, pid ∉ last.leaving → ∃ pages, (pid, pages) ∈ start.grants moves ∧
      (last.kernel.dropMemory pid).frames.used + pages = last.kernel.frames.used ∧
      (last.kernel.dropMemory pid).table = table) ∧
    (∀ pid ∈ last.leaving, pid ∈ table.running ∧ ∀ status,
      (∃ ended, table.markExited pid status = .ok ended) ∧
        (last.kernel.terminate pid status).alive + 1 = last.kernel.alive) ∧
    ∀ caller pid status after, last.kernel.join caller pid = .status status after →
      pid ∉ table.running ∧ last.kernel.process? pid = none := by
  intro start last table seen
  have ledger : Ledger config (start.grants moves).reverse last := by
    simpa using (ledger_boot config loader console).run moves
  have staffed : last.kernel.Staffed last.leaving := ledger.staffed
  obtain ⟨running, used, registered, reclaimed, records⟩ := ledger.shown
  refine ⟨?_, ?_, ⟨?_, ?_, ?_⟩, ?_, ?_, ?_, fun _ _ _ _ => staffed.gone_of_join⟩
  · rw [running, ProcessTable.running, List.length_map]
  · intro info member created
    rcases staffed.orderly.started info member with runs | exited
    · simp [runs] at created
    · simp [exited] at created
  · simpa using ledger.granted.distinct
  · rw [used, ledger.used, List.filter_reverse, List.map_reverse, List.sum_reverse]
  · have total : last.kernel.frames.total = config.physicalPages.toNat := ledger.total
    rw [UInt64.le_iff_toNat_le, used, ← total]
    exact last.kernel.frames.usedBound
  · rw [registered, reclaimed, records]
    exact staffed.orderly.balanced.entered
  · intro pid runs stays
    obtain ⟨process, held, given⟩ := ledger.of_running runs stays
    refine ⟨process.pages, List.mem_reverse.mp given, ?_, ?_⟩
    · have share := staffed.used_dropMemory held
      rw [dropMemory_eq held]
      show last.kernel.frames.used - process.pages + process.pages = last.kernel.frames.used
      omega
    · rw [dropMemory_eq held]
  · exact fun pid leaves => ⟨staffed.present pid leaves, staffed.record_in_full leaves⟩

-- Four frames are enough for two processes, when the first has left before the second comes.
example :
    let start : Ending := ⟨boot ⟨4, 2, 4, none, false⟩ smallLoader (.fresh false), []⟩
    let moves : List Ending.Move :=
      [.serve (.exec kernelPid "a.coff" []), .drop 1, .serve (.exec kernelPid "a.coff" [])]
    start.grants moves = [(1, 4), (2, 4)] ∧ (start.run moves).leaving = [1] ∧
      (start.run moves).kernel.stats.running = 2 ∧
      (start.run moves).kernel.stats.frames.usedFrames = 4 := by
  decide +kernel

end Kernel

end Minikernel
