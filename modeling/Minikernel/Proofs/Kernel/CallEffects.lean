import Minikernel.Proofs.Kernel.ConsoleInput
import Minikernel.Proofs.Kernel.ConsoleOutput
import Minikernel.Proofs.Kernel.StatusDelivery

/-!
What a system call touches. A caller goes on with the context that it made the call with, but for
bytes at a place that it named itself and for a descriptor that it closed. A status is four bytes,
and input is never more than was asked for, so both stay inside of the range that starts at their
address, which does not wrap around where memory has less than 2^32 bytes. Of the console a read
changes the input, a write the output, and every other call nothing.
-/

namespace Minikernel

theorem Context.file?_of_closed {context : Context} {slot : Nat} {descriptor : Int32}
    {file : OpenFile}
    (found : { context with files := context.files.set slot none }.file? descriptor = some file) :
    context.file? descriptor = some file := by
  unfold file? at found ⊢
  by_cases negative : descriptor < 0
  · rw [if_pos negative] at found
    cases found
  · rw [if_neg negative] at found ⊢
    rw [List.getElem?_set] at found
    split at found
    · split at found <;> cases found
    · exact found

namespace Kernel

variable {kernel later : Kernel} {context : Context} {call : Registers} {reply : Reply}
  {descriptor count : Int32} {buffer : UInt32}

/-- How many bytes a call with this reply may write at the address in its second register. -/
def writable (call : Registers) (reply : Reply) : Nat :=
  match Syscall.ofNumber? call.number with
  | some .join => if reply = .value 0 then 4 else 0
  | some .read => call.a2.toInt.toNat
  | _ => 0

/-- A call that touches only what it was given. Its caller has the number, the name, the arguments
and the stack pointer that it had, and all its memory but for the bytes at the place that was named
for a status or for input. Its descriptors are as they were unless one was named to be closed, and
none was opened. The console has other input only after a read, and other output only after a
write. -/
structure TouchesOnly (kernel : Kernel) (context : Context) (call : Registers)
    (outcome : Reply × Kernel × Context) : Prop where
  caller : outcome.2.2 =
    { context with space := outcome.2.2.space, files := outcome.2.2.files }
  memory : outcome.2.2.space.SameOutside context.space call.a1.toUInt32.toNat
    (writable call outcome.1)
  files : outcome.2.2.files = context.files ∨
    Syscall.ofNumber? call.number = some .close ∧ 0 ≤ call.a0 ∧
      outcome.2.2.files = context.files.set call.a0.toInt.toNat none
  opensNothing : ∀ descriptor file, outcome.2.2.file? descriptor = some file →
    context.file? descriptor = some file
  input : outcome.2.1.console.input = kernel.console.input ∨
    Syscall.ofNumber? call.number = some .read
  output : outcome.2.1.console.output = kernel.console.output ∨
    Syscall.ofNumber? call.number = some .write
  echoes : outcome.2.1.console.echoes = kernel.console.echoes

theorem touchesOnly_of_kept (console : later.console = kernel.console) :
    kernel.TouchesOnly context call (reply, later, context) where
  caller := rfl
  memory := .refl _ _ _
  files := .inl rfl
  opensNothing := fun _ _ => id
  input := .inl (congrArg Console.input console)
  output := .inl (congrArg Console.output console)
  echoes := congrArg Console.echoes console

theorem touchesOnly_of_filled {space : AddressSpace}
    (filled : space.SameOutside context.space call.a1.toUInt32.toNat (writable call reply))
    (input : later.console.input = kernel.console.input ∨
      Syscall.ofNumber? call.number = some .read)
    (output : later.console.output = kernel.console.output)
    (echoes : later.console.echoes = kernel.console.echoes) :
    kernel.TouchesOnly context call (reply, later, { context with space := space }) where
  caller := rfl
  memory := filled
  files := .inl rfl
  opensNothing := fun _ _ => id
  input := input
  output := .inl output
  echoes := echoes

theorem syscall_of_number {which : Syscall} (named : Syscall.ofNumber? call.number = some which) :
    kernel.syscall context call =
      kernel.syscall context (which.registers call.a0 call.a1 call.a2) := by
  unfold syscall
  rw [named]
  cases which <;> rfl

theorem exec_console (kernel : Kernel) (parent : Pid) (name : String) (arguments : Arguments) :
    (kernel.exec parent name arguments).2.console = kernel.console := by
  unfold exec
  repeat' split
  all_goals rfl

theorem handleExec_console (kernel : Kernel) (context : Context) (name : UInt32) (count : Int32)
    (pointers : UInt32) :
    (kernel.handleExec context name count pointers).2.console = kernel.console := by
  unfold handleExec
  cases execRequest? context name count pointers with
  | none => rfl
  | some asked =>
      obtain ⟨text, arguments⟩ := asked
      have console := exec_console kernel context.pid text arguments
      dsimp only
      generalize kernel.exec context.pid text arguments = outcome at console
      obtain ⟨_ | _, after⟩ := outcome <;> exact console

theorem halt_console (kernel : Kernel) (caller : Pid) :
    (kernel.halt caller).2.console = kernel.console := by
  unfold halt
  split <;> rfl

theorem consumed_le (chunk wanted room : Nat) : consumed chunk wanted room ≤ wanted := by
  unfold consumed
  split
  · exact Nat.le_refl _
  · exact Nat.min_le_left _ _

theorem writable_of_read (named : Syscall.ofNumber? call.number = some .read) (reply : Reply) :
    writable call reply = call.a2.toInt.toNat := by
  rw [writable, named]

theorem writable_of_joined (named : Syscall.ofNumber? call.number = some .join) :
    writable call (.value 0) = 4 := by
  rw [writable, named]
  rfl

theorem read_touches_only (small : context.space.size < UInt32.size)
    (named : Syscall.ofNumber? call.number = some .read) :
    kernel.TouchesOnly context call (kernel.syscall context call) := by
  have place : call.a1.toUInt32.toInt32 = call.a1 := Int32.toInt32_toUInt32 _
  rw [syscall_of_number named, ← place]
  by_cases admitted : AdmitsRead context call.a0 call.a2
  · rw [syscall_read_of_admitted small admitted]
    refine touchesOnly_of_filled ?_ (.inr named) rfl rfl
    rw [writable_of_read named]
    refine (AddressSpace.overlaid_sameOutside _ _ _).mono ?_
    refine Nat.le_trans (List.length_take_le _ _) (Nat.le_trans (consumed_le _ _ _) ?_)
    exact Nat.min_le_left _ _
  · rw [syscall_read_of_refused admitted]
    exact touchesOnly_of_kept rfl

theorem write_touches_only (small : context.space.size < UInt32.size)
    (named : Syscall.ofNumber? call.number = some .write) :
    kernel.TouchesOnly context call (kernel.syscall context call) := by
  have place : call.a1.toUInt32.toInt32 = call.a1 := Int32.toInt32_toUInt32 _
  rw [syscall_of_number named, ← place]
  by_cases admitted : AdmitsWrite context call.a0 call.a1.toUInt32 call.a2
  · rw [syscall_write small admitted.opened admitted.counts admitted.inside]
    exact ⟨rfl, .refl _ _ _, .inl rfl, fun _ _ => id, .inl rfl, .inr named, rfl⟩
  · rw [syscall_write_of_refused admitted]
    exact touchesOnly_of_kept rfl

theorem concludeJoin_touches_only (named : Syscall.ofNumber? call.number = some .join) (child : Pid)
    (found : JoinOutcome) :
    kernel.TouchesOnly context call
      (kernel.concludeJoin context child call.a1.toUInt32 found) := by
  cases found with
  | blocked => exact touchesOnly_of_kept rfl
  | failed cause => exact touchesOnly_of_kept rfl
  | joined ended table =>
      cases written : context.space.writeWord call.a1.toUInt32 ended.code.toUInt32 with
      | error cause =>
          simp only [concludeJoin, written]
          exact touchesOnly_of_kept rfl
      | ok space =>
          simp only [concludeJoin, written]
          obtain ⟨-, rfl⟩ := AddressSpace.writeExact_eq_ok_iff.mp written
          refine touchesOnly_of_filled ?_ (.inl rfl) rfl rfl
          rw [writable_of_joined named]
          exact AddressSpace.overlaid_sameOutside _ _ _

theorem join_touches_only (named : Syscall.ofNumber? call.number = some .join) :
    kernel.TouchesOnly context call (kernel.syscall context call) := by
  have called : kernel.syscall context call =
      kernel.handleJoin context call.a0 call.a1.toUInt32 := by
    rw [syscall, named]
  rw [called]
  by_cases admitted : AdmitsJoin context call.a0 call.a1.toUInt32
  · rw [handleJoin_of_admitted admitted]
    exact concludeJoin_touches_only named _ _
  · rw [handleJoin_of_refused admitted]
    exact touchesOnly_of_kept rfl

theorem close_touches_only (named : Syscall.ofNumber? call.number = some .close) :
    kernel.TouchesOnly context call (kernel.syscall context call) := by
  have called : kernel.syscall context call =
      (.value (handleClose context call.a0).1, kernel, (handleClose context call.a0).2) := by
    rw [syscall, named]
  rw [called, handleClose]
  cases opened : context.file? call.a0 with
  | none => exact touchesOnly_of_kept rfl
  | some file =>
      have natural : 0 ≤ call.a0 := by
        refine Int32.not_lt.mp fun negative => ?_
        rw [Context.file?, if_pos negative] at opened
        cases opened
      exact ⟨rfl, .refl _ _ _, .inr ⟨named, natural, rfl⟩,
        fun _ _ => Context.file?_of_closed, .inl rfl, .inl rfl, rfl⟩

theorem syscall_of_blocked {child : Pid}
    (asleep : (kernel.syscall context call).1 = .blocked child) :
    Syscall.ofNumber? call.number = some .join ∧
      (kernel.syscall context call).2 = (kernel, context) := by
  cases named : Syscall.ofNumber? call.number with
  | none =>
      rw [syscall, named] at asleep
      cases asleep
  | some which =>
      cases which with
      | join =>
          rw [syscall, named] at asleep ⊢
          refine ⟨rfl, ?_⟩
          dsimp only at asleep ⊢
          by_cases admitted : AdmitsJoin context call.a0 call.a1.toUInt32
          · rw [handleJoin_of_admitted admitted] at asleep ⊢
            generalize kernel.table.join _ _ = found at asleep ⊢
            cases found with
            | blocked | failed => rfl
            | joined ended table =>
                rw [concludeJoin_joined admitted.inside] at asleep
                cases asleep
          · rw [handleJoin_of_refused admitted]
      | halt =>
          rw [syscall, named] at asleep
          dsimp only at asleep
          split at asleep <;> cases asleep
      | exit | exec | creat | openFile | unlink | read | write | close =>
          rw [syscall, named] at asleep
          cases asleep

theorem syscall_touches_only (small : context.space.size < UInt32.size) :
    kernel.TouchesOnly context call (kernel.syscall context call) := by
  cases named : Syscall.ofNumber? call.number with
  | none =>
      rw [syscall, named]
      exact touchesOnly_of_kept rfl
  | some which =>
      cases which with
      | read => exact read_touches_only small named
      | write => exact write_touches_only small named
      | join => exact join_touches_only named
      | close => exact close_touches_only named
      | exec =>
          rw [syscall, named]
          exact touchesOnly_of_kept (handleExec_console _ _ _ _ _)
      | halt =>
          have console := halt_console kernel context.pid
          rw [syscall, named]
          dsimp only
          generalize kernel.halt context.pid = outcome at console
          obtain ⟨_ | _, after⟩ := outcome <;> exact touchesOnly_of_kept console
      | exit | creat | openFile | unlink =>
          rw [syscall, named]
          exact touchesOnly_of_kept rfl

/-- Whatever call is made with whatever registers, and whatever comes of it, it touches only what it
was given. A join that sleeps has changed nothing, and when it goes on, in whatever kernel and with
whatever it finds there, this holds of what it does then. -/
theorem syscall_touches_only_given (small : context.space.size < UInt32.size) :
    kernel.TouchesOnly context call (kernel.syscall context call) ∧
      ∀ child, (kernel.syscall context call).1 = .blocked child →
        (kernel.syscall context call).2 = (kernel, context) ∧
        ∀ (later : Kernel) (found : JoinOutcome),
          later.TouchesOnly context call
            (later.concludeJoin context child call.a1.toUInt32 found) := by
  refine ⟨syscall_touches_only small, fun child asleep => ?_⟩
  obtain ⟨named, kept⟩ := syscall_of_blocked asleep
  exact ⟨kept, fun later found => concludeJoin_touches_only named child found⟩

-- Three bytes of input for the last byte of memory: the call fails, one of them is there, and below
-- nothing has changed.
theorem failed_read_keeps_low_memory :
    let kernel := boot .default ⟨⟨[]⟩, ⟨[]⟩⟩ ⟨[97, 98, 99], [], false⟩
    let context := Context.fresh 1 "p.coff" ⟨.zeros 3, 1, 1⟩ ⟨0, 0⟩
    let call : Registers := ⟨6, 0, 3071, 3, 0⟩
    let outcome := kernel.syscall context call
    context.space.size < UInt32.size ∧ kernel.TouchesOnly context call outcome ∧
      outcome.1 = .value Limits.syscallFailure ∧
      outcome.2.2.space.memory.byte 3071 = 97 ∧
      ∀ index < 3071, outcome.2.2.space.memory.byte index = context.space.memory.byte index := by
  intro kernel context call outcome
  have small : context.space.size < UInt32.size := by decide
  have touched : kernel.TouchesOnly context call outcome := (syscall_touches_only_given small).1
  have result : outcome = _ :=
    @syscall_read_of_admitted kernel context 3071 0 3 small ⟨rfl, by decide⟩
  refine ⟨small, touched, ?_, ?_, fun index below => ?_⟩
  · rw [result]
    decide +kernel
  · rw [result]
    decide +kernel
  · have inside : 3071 ≤ context.space.size := by decide
    exact touched.memory.bytes index (by omega) (.inl below)

end Kernel

end Minikernel
