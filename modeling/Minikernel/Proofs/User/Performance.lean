import Minikernel.Kernel.Machine
import Minikernel.Proofs.Kernel.CallEffects

/-!
Programs performed in one go, up to their end or up to a point at which they have to wait. What a
program performs is put together from what its parts perform, and a step that its process takes on a
machine leaves open exactly what the program has still to perform. Between its system calls a
program depends on nobody else, so one that makes a single call performs the same whatever else runs
on the machine.
-/

namespace Minikernel

inductive Ending (α : Type) where
  | over (result : Except Trap α)
  | crashed
  | waiting

def Ending.ofOutcome {α : Type} : Except Stop α → Ending α
  | .ok value => .over (.ok value)
  | .error (.trap cause) => .over (.error cause)
  | .error .overflow => .crashed

namespace Program

variable {α β : Type} {first : Program α} {following : α → Program β} {kernel after : Kernel}
  {context later : Context} {value : α} {stop : Stop}

/-- What a program comes to when nobody comes in between, with the kernel and the context that it
leaves. -/
def perform : Program α → Kernel → Context → Ending α × Kernel × Context
  | .done value, kernel, context => (.over (.ok value), kernel, context)
  | .fault cause, kernel, context => (.over (.error cause), kernel, context)
  | .crash, kernel, context => (.crashed, kernel, context)
  | .inspect next, kernel, context => (next context).perform kernel context
  | .update wanted next, kernel, context => next.perform kernel (context.adopt wanted)
  | .syscall call next, kernel, context =>
      match kernel.syscall context call with
      | (.value result, kernel, context) => (next (.ok result)).perform kernel context
      | (.trap cause, kernel, context) => (next (.error cause)).perform kernel context
      | (.blocked _, kernel, context) => (.waiting, kernel, context)
  | .attempt call next, kernel, context =>
      let (reply, kernel, context) := kernel.syscall context call
      (next reply).perform kernel context
  | .gate _, kernel, context => (.waiting, kernel, context)
  | .note _ next, kernel, context => next.perform kernel context

theorem perform_bind (first : Program α) (following : α → Program β) (kernel : Kernel)
    (context : Context) :
    (first.bind following).perform kernel context =
      match first.perform kernel context with
      | (.over (.ok value), kernel, context) => (following value).perform kernel context
      | (.over (.error cause), kernel, context) => (.over (.error cause), kernel, context)
      | (.crashed, kernel, context) => (.crashed, kernel, context)
      | (.waiting, kernel, context) => (.waiting, kernel, context) := by
  induction first generalizing kernel context with
  | done | fault | crash | gate => rfl
  | inspect next ih => exact ih context kernel context
  | update wanted next ih => exact ih kernel (context.adopt wanted)
  | note reading next ih => exact ih kernel context
  | syscall call next ih =>
      simp only [bind, perform]
      generalize kernel.syscall context call = outcome
      obtain ⟨reply, kernel, context⟩ := outcome
      cases reply with
      | value result => exact ih (.ok result) kernel context
      | trap cause => exact ih (.error cause) kernel context
      | blocked => rfl
  | attempt call next ih =>
      simp only [bind, perform]
      generalize kernel.syscall context call = outcome
      obtain ⟨reply, kernel, context⟩ := outcome
      exact ih reply kernel context

theorem perform_catchTrap (program : Program α) (kernel : Kernel) (context : Context) :
    program.catchTrap.perform kernel context =
      match program.perform kernel context with
      | (.over result, kernel, context) => (.over (.ok result), kernel, context)
      | (.crashed, kernel, context) => (.crashed, kernel, context)
      | (.waiting, kernel, context) => (.waiting, kernel, context) := by
  induction program generalizing kernel context with
  | done | fault | crash | gate => rfl
  | inspect next ih => exact ih context kernel context
  | update wanted next ih => exact ih kernel (context.adopt wanted)
  | note reading next ih => exact ih kernel context
  | syscall call next ih =>
      simp only [catchTrap, perform]
      generalize kernel.syscall context call = outcome
      obtain ⟨reply, kernel, context⟩ := outcome
      cases reply with
      | value result => exact ih (.ok result) kernel context
      | trap cause => exact ih (.error cause) kernel context
      | blocked => rfl
  | attempt call next ih =>
      simp only [catchTrap, perform]
      generalize kernel.syscall context call = outcome
      obtain ⟨reply, kernel, context⟩ := outcome
      exact ih reply kernel context

theorem perform_bind_of_ok
    (performed : first.perform kernel context = (.over (.ok value), after, later)) :
    (first >>= following).perform kernel context = (following value).perform after later :=
  (perform_bind first following kernel context).trans (by rw [performed])

theorem perform_bind_of_stop
    (performed : first.perform kernel context = (.ofOutcome (.error stop), after, later)) :
    (first >>= following).perform kernel context = (.ofOutcome (.error stop), after, later) := by
  refine (perform_bind first following kernel context).trans ?_
  rw [performed]
  cases stop <;> rfl

theorem perform_ofOutcome (outcome : Except Stop α) :
    (ofOutcome outcome).perform kernel context = (.ofOutcome outcome, kernel, context) := by
  match outcome with
  | .ok value => rfl
  | .error (.trap cause) => rfl
  | .error .overflow => rfl

theorem perform_push_of_ok {address : UInt32} (act : Context → Except Stop (UInt32 × Context))
    (acted : act context = .ok (address, later)) :
    (push act).perform kernel context = (.over (.ok address), kernel, context.adopt later) := by
  rw [push, perform, acted]
  rfl

theorem perform_push_of_error (act : Context → Except Stop (UInt32 × Context))
    (failed : act context = .error stop) :
    (push act).perform kernel context = (.ofOutcome (.error stop), kernel, context) := by
  rw [push, perform, failed]
  exact perform_ofOutcome _

theorem perform_ofResult (result : Except Trap α) :
    (ofResult result).perform kernel context = (.over result, kernel, context) := by
  cases result <;> rfl

theorem perform_stackPointer :
    stackPointer.perform kernel context = (.over (.ok context.stackPointer), kernel, context) :=
  rfl

theorem perform_restoreStack (pointer : UInt32) :
    (restoreStack pointer).perform kernel context =
      (.over (.ok ()), kernel, context.restoreStack pointer) :=
  rfl

theorem perform_invoke_catchTrap {call : Registers} {result : Int32}
    (answered : kernel.syscall context call = (.value result, after, later)) :
    (invoke call).catchTrap.perform kernel context = (.over (.ok (.ok result)), after, later) := by
  rw [perform_catchTrap, invoke, perform, answered]
  rfl

end Program

open Kernel

/-- A step that a process takes on a machine does a part of what its program performs and leaves the
rest, unless the program has nothing to perform any more. -/
theorem Machine.advance_performs (machine : Machine) (process : Process) :
    (∃ kernel context next journal,
      machine.advance process =
        ⟨replace kernel { process with context := context, next := next }, journal⟩ ∧
      next.perform kernel context = process.next.perform machine.kernel process.context) ∨
    ∃ ending, process.next.perform machine.kernel process.context =
      (ending, machine.kernel, process.context) := by
  obtain ⟨context, pages, program⟩ := process
  cases program with
  | done | fault | crash | gate => exact .inr ⟨_, rfl⟩
  | inspect | update | attempt | note => exact .inl ⟨_, _, _, _, rfl, rfl⟩
  | syscall call next =>
      have kept := @syscall_of_blocked machine.kernel context call
      simp only [advance, Program.perform]
      generalize machine.kernel.syscall context call = outcome at kept
      obtain ⟨reply, kernel, later⟩ := outcome
      cases reply with
      | value | trap => exact .inl ⟨_, _, _, _, rfl, rfl⟩
      | blocked child => exact .inr ⟨.waiting, congrArg (Prod.mk Ending.waiting) (kept rfl).2⟩

end Minikernel
