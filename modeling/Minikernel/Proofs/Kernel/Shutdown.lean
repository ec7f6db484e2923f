import Minikernel.Proofs.Kernel.Accounts

/-!
A kernel that stops has nothing left. While processes run, every record that is kept has somebody
who can still join it; once none runs, that can only be the kernel, which asks for the status of
the root process and so takes out the last record.
-/

namespace Minikernel

namespace Kernel

open ProcessTable

variable {kernel after : Kernel} {request : Request} {root pid : Pid} {status : ExitStatus}
  {ended : Option ExitStatus} {info : ProcessInfo}

def Request.byKernel : Request → Bool
  | .exec parent _ _ => parent = kernelPid
  | .join caller _ | .tryJoin caller _ => caller = kernelPid
  | .finish _ _ | .halt _ | .compute .. | .schedule _ => false

def Request.exit? (pid : Pid) : Request → Option ExitStatus
  | .finish ending status => if ending = pid then some status else none
  | _ => none

def exit? (pid : Pid) (requests : List Request) : Option ExitStatus :=
  requests.findSome? (Request.exit? pid)

/-- A run from the start of the root process until nothing is left to wait for; what the processes
do in between, and in which order, is given. -/
def runRoot (kernel : Kernel) (name : String) (arguments : Arguments) (schedule : List Request) :
    Option (Shutdown × Kernel) :=
  match kernel.exec kernelPid name arguments with
  | (.ok root, started) => (started.run schedule).shutdown? root
  | (.error _, _) => none

theorem Sound.idle (sound : kernel.Sound) (idle : kernel.alive = 0) :
    kernel.frames.used = 0 ∧ kernel.root = kernelPid ∧
      ∀ info ∈ kernel.table.records, info.state = .exited ∧ info.parent = some kernelPid := by
  have nobody : kernel.processes = [] := List.length_eq_zero_iff.mp (sound.alive ▸ idle)
  have still : ∀ pid, ¬kernel.table.IsRunning pid := by
    intro pid runs
    rw [← mem_running, ← sound.processes, nobody] at runs
    cases runs
  refine ⟨?_, sound.root.resolve_right (still _), ?_⟩
  · rw [sound.frames, nobody]
    rfl
  · intro info member
    have exited : info.state = .exited := (sound.orderly.started info member).resolve_left
      fun runs => still info.pid ⟨info, member, rfl, runs⟩
    rcases sound.orderly.hosted info member with orphan | kernel | ⟨host, -, runs⟩
    · exact absurd orphan (sound.orderly.joinable info member exited)
    · exact ⟨exited, kernel⟩
    · exact absurd runs (still host)

structure IsRoot (ended : Option ExitStatus) (info : ProcessInfo) : Prop where
  child : info.parent = some kernelPid
  status : info.exitStatus = ended
  state : info.state = if ended.isSome then .exited else .running

/-- Only the root process is a child of the kernel, and nobody has taken its status. -/
structure Rooted (root : Pid) (ended : Option ExitStatus) (kernel : Kernel) : Prop where
  sound : kernel.Sound
  own : ∃ info, kernel.table.find? root = some info ∧ IsRoot ended info
  alone : ∀ info ∈ kernel.table.records, info.parent = some kernelPid → info.pid = root

namespace Rooted

theorem exec (rooted : Rooted root ended kernel) {parent : Pid} (below : parent ≠ kernelPid)
    (name : String) (arguments : Arguments) :
    Rooted root ended (kernel.serve (.exec parent name arguments)) := by
  obtain ⟨sound, ⟨info, found, isRoot⟩, alone⟩ := rooted
  have step := serve_step sound.orderly.sound (.exec parent name arguments)
  have soundAfter := sound.step step
  generalize kernel.serve (.exec parent name arguments) = after at step soundAfter
  cases step with
  | same => exact ⟨sound, ⟨info, found, isRoot⟩, alone⟩
  | launched =>
      refine ⟨soundAfter, ⟨info, ?_, isRoot⟩, ?_⟩
      · exact (find?_eq_some_iff soundAfter.orderly.sound.distinct).mpr
          ⟨List.mem_cons_of_mem _ (mem_of_find? found), find?_pid found⟩
      · intro other member parented
        rcases List.mem_cons.mp member with rfl | old
        · exact absurd (Option.some.inj parented) below
        · exact alone other old parented

theorem ended_of_stopped (rooted : Rooted root ended kernel)
    (stopped : kernel.process? root = none) : ended.isSome = true := by
  obtain ⟨info, found, isRoot⟩ := rooted.own
  cases ended with
  | some status => rfl
  | none =>
      have runs : kernel.table.IsRunning root :=
        (isRunning_iff rooted.sound.orderly.sound.distinct).mpr ⟨info, found, isRoot.state⟩
      obtain ⟨process, held⟩ := rooted.sound.isRunning_iff_process.mp runs
      rw [stopped] at held
      cases held

theorem depart_own (rooted : Rooted root ended kernel) {process : Process}
    (held : kernel.process? root = some process) (status : ExitStatus) :
    ended = none ∧ ∃ info, (kernel.table.depart root status).find? root = some info ∧
      IsRoot (some status) info := by
  obtain ⟨sound, ⟨info, found, isRoot⟩, -⟩ := rooted
  obtain ⟨record, recorded, runs⟩ := sound.record_of_process held
  obtain rfl : info = record := Option.some.inj (found.symm.trans recorded)
  refine ⟨?_, ?_⟩
  · cases ended with
    | none => rfl
    | some before =>
        have state := isRoot.state
        rw [runs] at state
        cases state
  · have selfless : info.parent ≠ some root := by
      rw [isRoot.child]
      exact fun same => sound.pid_ne_kernel held (Option.some.inj same).symm
    have parented : info.parent ≠ none := by simp [isRoot.child]
    have left := ended_of_child status (find?_pid found) parented selfless
    exact ⟨_, find?_depart sound.orderly.sound recorded runs found left, isRoot.child, rfl, rfl⟩

theorem depart_other (rooted : Rooted root ended kernel) {process : Process}
    (held : kernel.process? pid = some process) (differs : root ≠ pid) (status : ExitStatus) :
    ∃ info, (kernel.table.depart pid status).find? root = some info ∧ IsRoot ended info := by
  obtain ⟨sound, ⟨info, found, isRoot⟩, -⟩ := rooted
  obtain ⟨record, recorded, runs⟩ := sound.record_of_process held
  have stranger : info.parent ≠ some pid := by
    rw [isRoot.child]
    exact fun same => sound.pid_ne_kernel held (Option.some.inj same).symm
  have left := ended_of_stranger status (find?_pid found ▸ differs) stranger
  exact ⟨info, find?_depart sound.orderly.sound recorded runs found left, isRoot⟩

theorem finish (rooted : Rooted root ended kernel) (pid : Pid) (status : ExitStatus) :
    Rooted root (ended.or (Request.exit? root (.finish pid status)))
      (kernel.serve (.finish pid status)) := by
  have sound := rooted.sound
  rw [serve]
  cases held : kernel.process? pid with
  | none =>
      -- A root process that has ended cannot end again, so the first status stands.
      have unchanged : ended.or (Request.exit? root (.finish pid status)) = ended := by
        by_cases own : pid = root
        · subst own
          obtain ⟨before, same⟩ := Option.isSome_iff_exists.mp (rooted.ended_of_stopped held)
          rw [same]
          rfl
        · simp [Request.exit?, own]
      rw [unchanged]
      exact rooted
  | some process =>
      obtain ⟨record, recorded, runs⟩ := sound.record_of_process held
      refine ⟨sound.step (.finished held), ?_, ?_⟩
      · dsimp only
        rw [finish_eq held]
        by_cases own : pid = root
        · subst own
          obtain ⟨fresh, last⟩ := rooted.depart_own held status
          simpa [fresh, Request.exit?] using last
        · simpa [Request.exit?, own] using rooted.depart_other held (Ne.symm own) status
      · intro later member parented
        rw [finish_eq held] at member
        obtain ⟨before, old, remains⟩ :=
          remains_of_mem_depart sound.orderly.sound recorded runs member
        cases remains with
        | untouched => exact rooted.alone later old parented
        | released => cases parented
        | kept => exact rooted.alone before old parented

theorem reclaim (rooted : Rooted root ended kernel) {caller : Pid} (below : caller ≠ kernelPid)
    (ripe : kernel.table.Ripe pid info status) (asked : info.parent = some caller) :
    Rooted root ended { kernel with table := kernel.table.reclaim pid } := by
  obtain ⟨sound, ⟨own, found, isRoot⟩, alone⟩ := rooted
  refine ⟨sound.step (.joined ripe asked), ⟨own, ?_, isRoot⟩, ?_⟩
  · have differs : root ≠ pid := by
      rintro rfl
      obtain rfl : own = info := Option.some.inj (found.symm.trans ripe.1)
      exact below (Option.some.inj (asked.symm.trans isRoot.child))
    show (kernel.table.reclaim pid).find? root = some own
    rw [find?_reclaim, if_neg differs, found]
  · intro other member parented
    exact alone other (List.mem_filter.mp member).1 parented

theorem of_silent (rooted : Rooted root ended after) (silent : request.exit? root = none) :
    Rooted root (ended.or (request.exit? root)) after := by
  rw [silent, Option.or_none]
  exact rooted

theorem serve (rooted : Rooted root ended kernel) (inside : request.byKernel = false) :
    Rooted root (ended.or (request.exit? root)) (kernel.serve request) := by
  cases request with
  | finish pid status => exact rooted.finish pid status
  | exec parent name arguments =>
      have below : parent ≠ kernelPid := by simpa [Request.byKernel] using inside
      exact (rooted.exec below name arguments).of_silent rfl
  | join caller pid =>
      have below : caller ≠ kernelPid := by simpa [Request.byKernel] using inside
      have step : kernel.Step (.join caller pid) (kernel.serve (.join caller pid)) := step_join
      refine of_silent ?_ rfl
      generalize kernel.serve (.join caller pid) = after at step
      cases step with
      | same => exact rooted
      | joined ripe asked => exact rooted.reclaim below ripe asked
  | tryJoin caller pid =>
      have below : caller ≠ kernelPid := by simpa [Request.byKernel] using inside
      have step : kernel.Step (.tryJoin caller pid) (kernel.serve (.tryJoin caller pid)) :=
        step_tryJoin
      refine of_silent ?_ rfl
      generalize kernel.serve (.tryJoin caller pid) = after at step
      cases step with
      | same => exact rooted
      | taken ripe asked => exact rooted.reclaim below ripe asked
  | halt caller =>
      have step := serve_step rooted.sound.orderly.sound (.halt caller)
      have soundAfter := rooted.sound.step step
      refine of_silent ?_ rfl
      generalize kernel.serve (.halt caller) = after at step soundAfter
      cases step with
      | same => exact rooted
      | halted => exact ⟨soundAfter, rooted.own, rooted.alone⟩
  | compute context next console =>
      exact of_silent ⟨rooted.sound.step .computed, rooted.own, rooted.alone⟩ rfl
  | schedule ready =>
      have step := serve_step rooted.sound.orderly.sound (.schedule ready)
      exact of_silent ⟨rooted.sound.step step, rooted.own, rooted.alone⟩ rfl

theorem run {requests : List Request} (rooted : Rooted root ended kernel)
    (inside : ∀ request ∈ requests, request.byKernel = false) :
    Rooted root (ended.or (exit? root requests)) (kernel.run requests) := by
  induction requests generalizing kernel ended with
  | nil =>
      rw [exit?, List.findSome?_nil, Option.or_none]
      exact rooted
  | cons request rest ih =>
      have first := rooted.serve (inside request List.mem_cons_self)
      have later := ih first fun other member => inside other (List.mem_cons_of_mem _ member)
      have split : exit? root (request :: rest) = (request.exit? root).or (exit? root rest) := by
        rw [exit?, List.findSome?_cons]
        cases request.exit? root <;> rfl
      rw [split, ← Option.or_assoc]
      exact later

theorem collect (rooted : Rooted root ended kernel) (idle : kernel.alive = 0) :
    ∃ status, ended = some status ∧
      kernel.shutdown? root = some (⟨root, some status, kernel.halted⟩,
        { kernel with table := kernel.table.reclaim root }) ∧
      (kernel.table.reclaim root).records = [] ∧
      (kernel.table.reclaim root).registered = (kernel.table.reclaim root).reclaimed := by
  obtain ⟨sound, ⟨info, found, child, shown, state⟩, alone⟩ := rooted
  obtain ⟨-, -, finished⟩ := sound.idle idle
  have exited := (finished info (mem_of_find? found)).1
  cases ended with
  | none =>
      rw [exited] at state
      cases state
  | some status =>
      -- All records are the kernel's children by now, and only the root process is one.
      have ripe : kernel.table.Ripe root info status := ⟨found, exited, shown⟩
      have joined : kernel.join kernelPid root =
          .status status { kernel with table := kernel.table.reclaim root } :=
        join_eq_status_iff.mpr
          ⟨_, join_eq_joined_iff.mpr ⟨info, ripe, child, rfl⟩, rfl⟩
      have emptied : (kernel.table.reclaim root).records = [] := by
        refine List.filter_eq_nil_iff.mpr fun other member => ?_
        simpa using alone other member (finished other member).2
      refine ⟨status, rfl, ?_, emptied, ?_⟩
      · simp only [shutdown?, isIdle, idle, decide_true, Bool.true_or, if_true, joined]
      · have entered := (sound.orderly.reclaim ripe child).balanced.entered
        rw [emptied] at entered
        exact entered

end Rooted

theorem shutdown?_eq_some {shutdown : Shutdown}
    (stopped : kernel.shutdown? root = some (shutdown, after)) :
    kernel.isIdle = true ∧ shutdown.halted = kernel.halted := by
  unfold shutdown? at stopped
  split at stopped
  · rename_i idle
    refine ⟨idle, ?_⟩
    split at stopped <;> cases stopped <;> rfl
  · cases stopped

theorem Sound.rooted (sound : kernel.Sound) (empty : kernel.table.records = []) {name : String}
    {arguments : Arguments} {started : Kernel}
    (launched : kernel.exec kernelPid name arguments = (.ok root, started)) :
    Rooted root none started := by
  rcases exec_cases sound.orderly.sound kernelPid name arguments with
    ⟨cause, failed⟩ |
    ⟨process, left, running, admitted, room, unused, numbered, -, reserved, succeeded⟩
  · rw [failed] at launched
    cases launched
  · rw [succeeded] at launched
    cases launched
    have step : kernel.Step (.exec kernelPid name arguments)
        (kernel.launch name kernelPid process left) :=
      .launched running admitted room unused numbered reserved
    have soundAfter := sound.step step
    have only : (kernel.launch name kernelPid process left).table.records =
        [⟨kernel.table.nextPid, name, .running, some kernelPid, none⟩] := by
      rw [Kernel.launch, spawn, empty]
    refine ⟨soundAfter, ⟨_, find?_spawn, rfl, rfl, rfl⟩, ?_⟩
    intro other member _
    rw [only, List.mem_singleton] at member
    rw [member]

theorem nothing_leaks (config : Config) (loader : Loader (Program Int32)) (console : Console)
    (requests : List Request) :
    let kernel := (boot config loader console).run requests
    (∀ info ∈ kernel.table.records,
      (info.parent = none ∨ info.parent = some kernelPid ∨
        ∃ host, info.parent = some host ∧ kernel.table.IsRunning host) ∧
      (info.state = .exited → info.parent ≠ none)) ∧
    (kernel.alive = 0 →
      kernel.frames.used = 0 ∧ kernel.root = kernelPid ∧
        ∀ info ∈ kernel.table.records, info.state = .exited ∧ info.parent = some kernelPid) ∧
    ∀ name arguments schedule shutdown after, kernel.table.records = [] →
      (∀ request ∈ schedule, request.byKernel = false) →
      kernel.runRoot name arguments schedule = some (shutdown, after) →
      shutdown.halted = false →
      after.table.records = [] ∧ after.frames.used = 0 ∧
        after.table.registered = after.table.reclaimed ∧
        ∃ status, shutdown.status = some status ∧ exit? shutdown.root schedule = some status := by
  intro kernel
  have sound : kernel.Sound := (sound_boot config loader console).run requests
  refine ⟨?_, sound.idle, ?_⟩
  · intro info member
    exact ⟨sound.orderly.hosted info member, sound.orderly.joinable info member⟩
  · intro name arguments schedule shutdown after empty inside stopped running
    unfold runRoot at stopped
    split at stopped
    · rename_i root started launched
      have rooted := (sound.rooted empty launched).run inside
      rw [Option.none_or] at rooted
      generalize started.run schedule = last at rooted stopped
      obtain ⟨idle, halted⟩ := shutdown?_eq_some stopped
      rw [running] at halted
      have alive : last.alive = 0 := by simpa [isIdle, ← halted] using idle
      obtain ⟨status, exits, collected, emptied, reclaimed⟩ := rooted.collect alive
      rw [collected] at stopped
      cases stopped
      exact ⟨emptied, (rooted.sound.idle alive).1, reclaimed, status, rfl, exits⟩
    · cases stopped

theorem abandoned_children_do_not_leak :
    let kernel := (boot ⟨64, 2, 4, none, false⟩ smallLoader (.fresh false)).run []
    let schedule : List Request := [.exec 1 "a.coff" [], .exec 1 "a.coff" [], .exec 2 "a.coff" [],
      .finish 2 (.normal 7), .finish 1 (.normal 5), .finish 4 (.normal 0), .finish 3 .abnormal]
    ∃ shutdown after, kernel.runRoot "a.coff" [] schedule = some (shutdown, after) ∧
      after.table.records = [] ∧ after.frames.used = 0 ∧
        after.table.registered = after.table.reclaimed ∧
        ∃ status, shutdown.status = some status ∧ exit? shutdown.root schedule = some status := by
  intro kernel schedule
  have stops : ((kernel.runRoot "a.coff" [] schedule).map fun result => result.1) =
      some ⟨1, some (.normal 5), false⟩ := by
    decide +kernel
  obtain ⟨⟨shutdown, after⟩, stopped, ended⟩ := Option.map_eq_some_iff.mp stops
  have running : shutdown.halted = false := congrArg Shutdown.halted ended
  refine ⟨shutdown, after, stopped, ?_⟩
  exact (nothing_leaks _ _ _ []).2.2 "a.coff" [] schedule shutdown after rfl (by decide) stopped
    running

end Kernel

end Minikernel
