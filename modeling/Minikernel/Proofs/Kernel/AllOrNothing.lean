import Minikernel.Kernel.Calls
import Minikernel.Proofs.Kernel.Accounts

/-!
Starting a process is all or nothing: it fails and the kernel is what it was, or it succeeds and
there is one process more, with a number above all others. A program that makes the system call
sees which of the two it was.
-/

namespace Minikernel

namespace Kernel

open ProcessTable

variable {kernel after : Kernel} {request : Request}

theorem step_nextPid (sound : kernel.Sound) (step : kernel.Step request after) :
    kernel.table.nextPid ≤ after.table.nextPid := by
  cases step with
  | same | joined | taken | halted | computed | scheduled => exact UInt32.le_refl _
  | launched _ _ _ unused => exact UInt32.le_of_lt (lt_succ_of_le_maxPid unused)
  | @finished pid status process held =>
      obtain ⟨info, found, runs⟩ := sound.record_of_process held
      rw [finish_eq held, (depart_numbers found runs status).1]
      exact UInt32.le_refl _

theorem child?_lt (sound : kernel.Sound) {child : Pid}
    (started : kernel.child? request = some child) :
    child < (kernel.serve request).table.nextPid := by
  cases request with
  | exec parent name arguments =>
      rcases exec_cases sound.orderly.sound parent name arguments with
        ⟨cause, failed⟩ | ⟨process, left, -, -, -, unused, -, -, -, launched⟩
      · simp [child?, failed, Except.toOption] at started
      · simp only [child?, launched, Except.toOption, Option.some.injEq] at started
        rw [serve, launched, ← started]
        exact lt_succ_of_le_maxPid unused
  | finish | join | tryJoin | halt | compute | schedule => cases started

theorem children_lt (sound : kernel.Sound) (requests : List Request) :
    kernel.table.nextPid ≤ (kernel.run requests).table.nextPid ∧
      ∀ child ∈ kernel.children requests, child < (kernel.run requests).table.nextPid := by
  induction requests generalizing kernel with
  | nil => exact ⟨UInt32.le_refl _, by simp [children]⟩
  | cons request rest ih =>
      have step := serve_step sound.orderly.sound request
      obtain ⟨grows, below⟩ := ih (sound.step step)
      refine ⟨UInt32.le_trans (step_nextPid sound step) grows, ?_⟩
      intro child member
      rcases List.mem_append.mp member with first | later
      · exact UInt32.lt_of_lt_of_le (child?_lt sound (Option.mem_toList.mp first)) grows
      · exact below child later

theorem toInt32_ne_failure {child : Pid} (seen : child ≤ maxPid) :
    child.toInt32 ≠ Limits.syscallFailure := by
  intro same
  have word : child = Limits.syscallFailure.toUInt32 := by
    rw [← same, UInt32.toUInt32_toInt32]
  subst word
  exact absurd seen (by decide)

theorem handleExec_outcomes (sound : kernel.Sound) (context : Context) (name : UInt32)
    (count : Int32) (pointers : UInt32) :
    kernel.handleExec context name count pointers = (Limits.syscallFailure, kernel) ∨
      ∃ text arguments prepared left,
        execRequest? context name count pointers = some (text, arguments) ∧
          kernel.table.nextPid ≤ maxPid ∧ kernel.prepare text arguments = (.ok prepared, left) ∧
          kernel.handleExec context name count pointers =
            (kernel.table.nextPid.toInt32,
              kernel.launch text context.pid
                (newcomer kernel.table.nextPid text prepared) left) := by
  unfold handleExec
  cases execRequest? context name count pointers with
  | none => exact .inl rfl
  | some asked =>
      obtain ⟨text, arguments⟩ := asked
      rcases exec_outcomes sound.orderly.sound context.pid text arguments with
        ⟨cause, failed⟩ | ⟨prepared, left, -, -, -, unused, prepares, launched⟩
      · left
        simp only [failed]
      · right
        refine ⟨text, arguments, prepared, left, rfl, unused, prepares, ?_⟩
        simp only [launched, if_pos unused]

theorem handleExec_cases (sound : kernel.Sound) (context : Context) (name : UInt32) (count : Int32)
    (pointers : UInt32) :
    kernel.handleExec context name count pointers = (Limits.syscallFailure, kernel) ∨
      ∃ child after, kernel.handleExec context name count pointers = (child.toInt32, after) ∧
        child ≤ maxPid ∧ after.alive = kernel.alive + 1 := by
  rcases handleExec_outcomes sound context name count pointers with
    failed | ⟨text, arguments, prepared, left, -, unused, -, launched⟩
  · exact .inl failed
  · exact .inr ⟨kernel.table.nextPid, _, launched, unused, rfl⟩

theorem exec_all_or_nothing (config : Config) (loader : Loader (Program Int32)) (console : Console)
    (requests : List Request) :
    let kernel := (boot config loader console).run requests
    (∀ parent name arguments,
      match kernel.exec parent name arguments with
      | (.error _, after) => after = kernel
      | (.ok child, after) =>
          (∀ earlier ∈ (boot config loader console).children requests, earlier < child) ∧
          (∀ info ∈ kernel.table.records, info.pid < child) ∧
          ∃ process left, process.pid = child ∧
            process.pages = process.context.space.pages.toNat ∧
            left.total = kernel.frames.total ∧
            left.used = kernel.frames.used + process.pages ∧
            after =
              { kernel with
                frames := left
                table :=
                  { kernel.table with
                    records := ⟨child, name, .running, some parent, none⟩ :: kernel.table.records
                    nextPid := kernel.table.nextPid + 1
                    live := kernel.table.live + 1
                    registered := kernel.table.registered + 1 }
                processes := process :: kernel.processes
                ready := child :: kernel.ready
                alive := kernel.alive + 1
                root :=
                  if parent = kernelPid ∧ kernel.root = kernelPid then child else kernel.root }) ∧
    ∀ context a0 a1 a2, ∃ value after,
      kernel.syscall context (Syscall.exec.registers a0 a1 a2) = (.value value, after, context) ∧
        (value = Limits.syscallFailure ↔ after = kernel) := by
  intro kernel
  have sound : kernel.Sound := (sound_boot config loader console).run requests
  constructor
  · intro parent name arguments
    rcases exec_cases sound.orderly.sound parent name arguments with
      ⟨cause, failed⟩ | ⟨process, left, -, -, -, -, numbered, pages, reserved, launched⟩
    · rw [failed]
    · rw [launched]
      obtain ⟨total, used⟩ := FramePool.reserve_eq_ok_iff.mp reserved
      refine ⟨?_, ?_, process, left, numbered, pages, total, used, ?_⟩
      · exact (children_lt (sound_boot config loader console) requests).2
      · intro info member
        have found := (find?_eq_some_iff sound.orderly.sound.distinct).mpr ⟨member, rfl⟩
        exact sound.orderly.sound.numbered info.pid info found
      · rw [← numbered]
        rw [launch, spawn, ← numbered]
  · intro context a0 a1 a2
    have called : kernel.syscall context (Syscall.exec.registers a0 a1 a2) =
        (.value (kernel.handleExec context a0.toUInt32 a1 a2.toUInt32).1,
          (kernel.handleExec context a0.toUInt32 a1 a2.toUInt32).2, context) := rfl
    refine ⟨_, _, called, ?_⟩
    rcases handleExec_cases sound context a0.toUInt32 a1 a2.toUInt32 with
      failed | ⟨child, after, started, seen, grown⟩
    · rw [failed]
      exact iff_of_true rfl rfl
    · rw [started]
      refine iff_of_false (toInt32_ne_failure seen) ?_
      rintro rfl
      omega

-- The table is full: the second child had its memory by then.
example :
    let kernel := (boot ⟨64, 2, 1, none, false⟩ smallLoader (.fresh false)).run
      [.exec kernelPid "a.coff" []]
    let (answer, after) := kernel.exec kernelPid "a.coff" []
    answer = .error (.process (.limitReached 1 1)) ∧ after.frames.used = kernel.frames.used := by
  decide +kernel

end Kernel

end Minikernel
