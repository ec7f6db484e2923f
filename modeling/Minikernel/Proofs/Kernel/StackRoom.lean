import Minikernel.Proofs.Image.Instantiation
import Minikernel.Proofs.Kernel.Accounts

/-!
Why no process can make the kernel stop for an overflow. All stacks of a kernel have the same number
of pages, and once a process runs, its own stack shows that this number is small. The pages of a
loaded image have 32-bit numbers, so a word can count them together with the stack's.
-/

namespace Minikernel

namespace Loader

variable {Routine : Type} {loader : Loader Routine} {loaded : LoadedImage Routine}
  {name image : String} {pool : FramePool} {stack : UInt64} {source : MemoryError}

theorem not_refused_for_memory : ¬loader.Refused name (.memory image source) := by
  intro refused
  cases refused with
  | badImage _ refused =>
      cases refused with
      | badSection _ _ _ _ _ fault => cases fault

theorem load_ne_memory : loader.load name ≠ .error (.memory image source) := by
  intro failed
  obtain ⟨image, routine, reads, wellFormed, bound⟩ | ⟨found, refused⟩ :=
    loadable_or_refused loader name
  · rw [load_of_loadable reads wellFormed bound] at failed
    cases failed
  · rw [load_of_refused refused] at failed
    cases failed
    exact not_refused_for_memory refused

theorem build_ne_overflow (loads : loader.load name = .ok loaded)
    (small : stack.toNat * Limits.pageSize < UInt32.size) :
    (loaded.build pool stack).1 ≠ .error (.memory image .overflow) := by
  obtain ⟨contiguous, numbered, code⟩ := contiguous_of_load loads
  cases created : AddressSpace.create pool loaded.codePages stack with
  | ok made =>
      rw [LoadedImage.build_of_contiguous contiguous code created]
      nofun
  | error source =>
      rw [(LoadedImage.refused_of_create created).1]
      rintro ⟨⟩
      have large := AddressSpace.create_eq_overflow_iff.mp created
      have page : Limits.pageSize = 1024 := rfl
      rw [page] at small
      have word : UInt32.size = 2 ^ 32 := rfl
      have double : UInt64.size = 2 ^ 64 := rfl
      omega

end Loader

namespace Kernel

variable {kernel : Kernel} {name image : String} {arguments : Arguments}

/-- The bytes of a stack have 32-bit addresses, unless there is no process to have one. -/
def SmallStacks (kernel : Kernel) : Prop :=
  kernel.processes ≠ [] → kernel.config.stackPages.toNat * Limits.pageSize < UInt32.size

theorem small_of_prepare {prepared : Prepared} {left : FramePool}
    (prepares : kernel.prepare name arguments = (.ok prepared, left)) :
    kernel.config.stackPages.toNat * Limits.pageSize < UInt32.size := by
  obtain ⟨loaded, space, built, -, -, -⟩ := prepare_marshalled prepares
  obtain ⟨fresh, created, -⟩ := LoadedImage.build_created built
  obtain ⟨small, -, -⟩ := AddressSpace.create_eq_ok_iff.mp created
  refine Nat.lt_of_le_of_lt (Nat.mul_le_mul_right _ ?_) small
  omega

theorem SmallStacks.serve (narrow : kernel.SmallStacks) (sound : kernel.Sound)
    (request : Request) : (kernel.serve request).SmallStacks := by
  have step := serve_step sound.orderly.sound request
  generalize served : kernel.serve request = after at step
  cases step with
  | same | joined | taken | halted | scheduled => exact narrow
  | finished held =>
      rw [finish_eq held]
      exact fun _ => narrow (List.ne_nil_of_mem (process?_eq_some held).1)
  | computed => exact fun someone => narrow fun alone => someone (congrArg (List.map _) alone)
  | @launched parent name arguments process left =>
      rcases exec_outcomes sound.orderly.sound parent name arguments with
        ⟨cause, failed⟩ | ⟨prepared, left, -, -, -, -, prepares, -⟩
      · rw [Kernel.serve, failed] at served
        exact absurd (congrArg (List.length ∘ Kernel.processes) served) (Nat.succ_ne_self _).symm
      · have small := small_of_prepare prepares
        exact fun _ => small

theorem SmallStacks.run (narrow : kernel.SmallStacks) (sound : kernel.Sound)
    (requests : List Request) : (kernel.run requests).SmallStacks := by
  induction requests generalizing kernel with
  | nil => exact narrow
  | cons request rest ih =>
      have served := serve_step sound.orderly.sound request
      exact ih (narrow.serve sound request) (sound.step served)

theorem prepare_ne_overflow
    (small : kernel.config.stackPages.toNat * Limits.pageSize < UInt32.size) :
    (kernel.prepare name arguments).1 ≠ .error (.load (.memory image .overflow)) := by
  unfold prepare
  cases loads : kernel.loader.load name with
  | error cause =>
      rintro ⟨⟩
      exact Loader.load_ne_memory loads
  | ok loaded =>
      have built := @Loader.build_ne_overflow _ _ _ _ image kernel.frames _ loads small
      dsimp only
      split
      · nofun
      · generalize loaded.build kernel.frames kernel.config.stackPages = outcome at built
        obtain ⟨cause | space, left⟩ := outcome
        · rintro ⟨⟩
          exact built rfl
        · dsimp only
          split <;> nofun

/-- Once there is a process, no exec stops for an overflow, whatever it is to start. -/
theorem exec_beside_process_ne_overflow (config : Config) (loader : Loader (Program Int32))
    (console : Console) (requests : List Request) (parent : Pid) (name image : String)
    (arguments : Arguments)
    (someone : ((boot config loader console).run requests).processes ≠ []) :
    (((boot config loader console).run requests).exec parent name arguments).1 ≠
      .error (.load (.memory image .overflow)) := by
  have sound := sound_boot config loader console
  have narrow : (boot config loader console).SmallStacks := fun someone => absurd rfl someone
  have prepares := @prepare_ne_overflow _ name image arguments
    (narrow.run sound requests someone)
  generalize (boot config loader console).run requests = kernel at prepares
  unfold exec
  split
  · nofun
  · split
    · generalize kernel.prepare name arguments = outcome at prepares
      obtain ⟨cause | prepared, left⟩ := outcome
      · rintro ⟨⟩
        exact prepares rfl
      · dsimp only
        split <;> nofun
    · nofun

end Kernel

end Minikernel
