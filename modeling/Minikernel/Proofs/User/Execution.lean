import Minikernel.Kernel.Machine

/-!
Programs that come to a value by themselves. Such a program needs nobody else: it looks at its
context, changes its memory and its stack, and makes system calls that the kernel answers at once.
Runs are put together like the programs, and a process that is alone on the machine goes through
its run step by step.
-/

namespace Minikernel

/-- Whatever kernel is asked, it answers a call with a value and changes the console only. -/
def Answered (call : Registers) (console : Console) (context : Context) (result : Int32)
    (after : Console) : Prop :=
  ∀ kernel : Kernel, kernel.console = console →
    kernel.syscall context call = (.value result, { kernel with console := after }, context)

namespace Program

inductive Runs {α : Type} : Program α → Console → Context → Nat → α → Console → Context → Prop
  | done (value : α) (console : Console) (context : Context) :
      Runs (.done value) console context 0 value console context
  | inspect {next : Context → Program α} {console context steps value later changed}
      (rest : Runs (next context) console context steps value later changed) :
      Runs (.inspect next) console context (steps + 1) value later changed
  | update {wanted : Context} {next : Program α} {console context steps value later changed}
      (rest : Runs next console (context.adopt wanted) steps value later changed) :
      Runs (.update wanted next) console context (steps + 1) value later changed
  | syscall {call : Registers} {next : Except Trap Int32 → Program α}
      {console context result after steps value later changed}
      (answered : Answered call console context result after)
      (rest : Runs (next (.ok result)) after context steps value later changed) :
      Runs (.syscall call next) console context (steps + 1) value later changed

variable {α β : Type} {program : Program α} {following : α → Program β}
  {console middle later : Console} {context between changed : Context} {value : α} {last : β}
  {first second : Nat}

namespace Runs

theorem bind (head : Runs program console context first value middle between)
    (tail : Runs (following value) middle between second last later changed) :
    Runs (program.bind following) console context (first + second) last later changed := by
  induction head with
  | done value => rwa [Nat.zero_add]
  | inspect rest ih =>
      rw [Nat.add_right_comm]
      exact .inspect (ih tail)
  | update rest ih =>
      rw [Nat.add_right_comm]
      exact .update (ih tail)
  | syscall answered rest ih =>
      rw [Nat.add_right_comm]
      exact .syscall answered (ih tail)

theorem catchTrap (run : Runs program console context first value later changed) :
    Runs program.catchTrap console context first (.ok value) later changed := by
  induction run with
  | done value => exact .done _ _ _
  | inspect rest ih => exact .inspect ih
  | update rest ih => exact .update ih
  | syscall answered rest ih => exact .syscall answered ih

theorem same_pid (run : Runs program console context first value later changed) :
    changed.pid = context.pid := by
  induction run with
  | done => rfl
  | inspect rest ih | update rest ih | syscall answered rest ih => exact ih

end Runs

theorem stackPointer_runs :
    Runs stackPointer console context 1 context.stackPointer console context :=
  .inspect (.done _ _ _)

theorem restoreStack_runs (pointer : UInt32) :
    Runs (restoreStack pointer) console context 2 () console
      { context with stackPointer := pointer } :=
  .inspect (.update (.done _ _ _))

theorem observe_runs {read : Context → Except Trap α} (found : read context = .ok value) :
    Runs (observe read) console context 1 value console context := by
  refine .inspect ?_
  rw [found]
  exact .done _ _ _

theorem push_runs {act : Context → Except Stop (UInt32 × Context)} {address : UInt32}
    (acted : act context = .ok (address, changed)) :
    Runs (push act) console context 2 address console (context.adopt changed) := by
  refine .inspect ?_
  rw [acted]
  exact .update (.done _ _ _)

theorem invoke_runs {call : Registers} {result : Int32}
    (answered : Answered call console context result later) :
    Runs (invoke call) console context 1 result later context :=
  .syscall answered (.done _ _ _)

end Program

namespace Machine

open Kernel Program

variable {kernel : Kernel} {journal : List (Pid × Reading)} {console later : Console}
  {context changed : Context} {pages steps : Nat} {program : Program Int32} {value : Int32}

def solo (kernel : Kernel) (journal : List (Pid × Reading)) (console : Console)
    (process : Process) : Machine where
  kernel := { kernel with console := console, processes := [process], ready := [process.pid] }
  journal := journal

theorem process?_solo (process : Process) :
    (solo kernel journal console process).kernel.process? process.pid = some process := by
  simp [solo, process?]

theorem step_solo (process : Process) :
    (solo kernel journal console process).step =
      some ((solo kernel journal console process).advance process) := by
  have ready : (solo kernel journal console process).kernel.ready = [process.pid] := rfl
  rw [step, ready]
  dsimp only
  rw [process?_solo]

theorem replace_solo {process next : Process} (same : next.pid = process.pid) :
    Machine.mk (replace (solo kernel journal console process).kernel next) journal =
      solo kernel journal console next := by
  simp [replace, solo, same]

theorem run_solo (runs : Runs program console context steps value later changed) (bound : Nat) :
    (solo kernel journal console ⟨context, pages, program⟩).run (steps + bound) =
      (solo kernel journal later ⟨changed, pages, .done value⟩).run bound := by
  induction runs with
  | done => rw [Nat.zero_add]
  | @inspect next console context steps value later changed rest ih =>
      have stepped : (solo kernel journal console ⟨context, pages, .inspect next⟩).step =
          some (solo kernel journal console ⟨context, pages, next context⟩) :=
        (step_solo _).trans (congrArg some (replace_solo rfl))
      rw [Nat.add_right_comm, run, stepped]
      exact ih
  | @update wanted next console context steps value later changed rest ih =>
      have stepped : (solo kernel journal console ⟨context, pages, .update wanted next⟩).step =
          some (solo kernel journal console ⟨context.adopt wanted, pages, next⟩) :=
        (step_solo _).trans (congrArg some (replace_solo rfl))
      rw [Nat.add_right_comm, run, stepped]
      exact ih
  | @syscall call next console context result after steps value later changed answered rest ih =>
      have called := answered
        (solo kernel journal console ⟨context, pages, .syscall call next⟩).kernel rfl
      have stepped : (solo kernel journal console ⟨context, pages, .syscall call next⟩).step =
          some (solo kernel journal after ⟨context, pages, next (.ok result)⟩) := by
        rw [step_solo, advance]
        dsimp only
        rw [called]
        exact congrArg some (replace_solo rfl)
      rw [Nat.add_right_comm, run, stepped]
      exact ih

end Machine

end Minikernel
