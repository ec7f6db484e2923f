import Minikernel.Proofs.Kernel.Accounts

/-!
Two processes that end leave the same kernel, whichever ends first. When one is the parent of the
other, the two orders go different ways: a child that ends first is kept for its parent and taken
out when that ends, and a child that ends second is taken out by its own end.
-/

namespace Minikernel

namespace Kernel

open ProcessTable

variable {kernel : Kernel} {first second pid other : Pid} {process : Process}

theorem process?_finish (held : kernel.process? pid = some process) (differs : other ≠ pid)
    (status : ExitStatus) : (kernel.finish pid status).process? other = kernel.process? other := by
  rw [finish_eq held]
  simp only [process?, List.find?_filter]
  congr 1
  funext candidate
  by_cases wanted : candidate.pid = other
  · simp [wanted, differs]
  · simp [wanted]

theorem root_after_both (first second root : Pid) :
    (if (if root = first then kernelPid else root) = second then kernelPid
        else if root = first then kernelPid else root) =
      if root = first ∨ root = second then kernelPid else root := by
  by_cases isFirst : root = first
  · rw [if_pos isFirst, if_pos (Or.inl isFirst), ite_self]
  · simp only [isFirst, if_false, false_or]

theorem Sound.finish_comm (sound : kernel.Sound) (differ : first ≠ second)
    (runsFirst : kernel.table.IsRunning first) (runsSecond : kernel.table.IsRunning second)
    (status late : ExitStatus) :
    (kernel.finish first status).finish second late =
      (kernel.finish second late).finish first status := by
  obtain ⟨processFirst, heldFirst⟩ := sound.isRunning_iff_process.mp runsFirst
  obtain ⟨processSecond, heldSecond⟩ := sound.isRunning_iff_process.mp runsSecond
  obtain ⟨infoFirst, foundFirst, ranFirst⟩ := sound.record_of_process heldFirst
  obtain ⟨infoSecond, foundSecond, ranSecond⟩ := sound.record_of_process heldSecond
  have stillSecond := (process?_finish heldFirst differ.symm status).trans heldSecond
  have stillFirst := (process?_finish heldSecond differ late).trans heldFirst
  have tables := depart_comm sound.orderly.sound sound.orderly.balanced differ foundFirst ranFirst
    foundSecond ranSecond status late
  have frames : (kernel.frames.release processFirst.pages).release processSecond.pages =
      (kernel.frames.release processSecond.pages).release processFirst.pages :=
    FramePool.ext_used rfl (Nat.sub_right_comm _ _ _)
  rw [finish_eq stillSecond, finish_eq stillFirst, finish_eq heldFirst, finish_eq heldSecond]
  simp only [tables, frames, root_after_both, or_comm, List.filter_filter, Bool.and_comm]

theorem exits_commute (config : Config) (loader : Loader (Program Int32)) (console : Console)
    (requests : List Request) :
    let kernel := (boot config loader console).run requests
    kernel.table.IsRunning first → kernel.table.IsRunning second → first ≠ second →
      ∀ status late, (kernel.finish first status).finish second late =
        (kernel.finish second late).finish first status := by
  intro kernel runsFirst runsSecond differ status late
  have sound : kernel.Sound := (sound_boot config loader console).run requests
  exact sound.finish_comm differ runsFirst runsSecond status late

theorem parent_and_child_exits_commute :
    let kernel := (boot ⟨64, 2, 4, none, false⟩ smallLoader (.fresh false)).run
      [.exec kernelPid "a.coff" [], .exec 1 "a.coff" []]
    kernel.table.find? 2 = some ⟨2, "a.coff", .running, some 1, none⟩ ∧
      (kernel.finish 1 (.normal 3)).finish 2 .abnormal =
        (kernel.finish 2 .abnormal).finish 1 (.normal 3) := by
  intro kernel
  have parent : ∃ info ∈ kernel.table.records, info.pid = 1 ∧ info.state = .running := by
    decide +kernel
  have child : ∃ info ∈ kernel.table.records, info.pid = 2 ∧ info.state = .running := by
    decide +kernel
  have linked : kernel.table.find? 2 = some ⟨2, "a.coff", .running, some 1, none⟩ := by
    decide +kernel
  exact ⟨linked, exits_commute _ _ _ _ parent child (by decide) _ _⟩

end Kernel

end Minikernel
