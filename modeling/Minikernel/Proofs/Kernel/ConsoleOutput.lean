import Minikernel.Kernel.Calls
import Minikernel.Proofs.Memory.Contents

/-!
Writing to the console. The memory to be written is checked as a whole before the first chunk
leaves, so a write is made of all its bytes, in their order, or of none: once it has begun, each
round of its loop finds the whole chunk that it asks for, until all chunks are written. For this the
addresses of the chunks must not wrap around; they do not where memory has less than 2^32 bytes, as
it has in every space that is created (`AddressSpace.create_argumentsLast`).
-/

namespace Minikernel

theorem Console.write_write (console : Console) (first second : Bytes) :
    (console.write first).write second = console.write (first ++ second) := by
  rw [write, write, write, List.append_assoc]

theorem Console.write_nil (console : Console) : console.write [] = console := by
  rw [write, List.append_nil]

namespace Kernel

variable {kernel : Kernel} {console : Console} {space : AddressSpace} {context : Context}
  {buffer : UInt32} {descriptor count : Int32}

def wantedAt (total count : Nat) : Nat :=
  min (count - total) (min count Limits.pageSize)

def chunkAt (space : AddressSpace) (buffer : UInt32) (total count : Nat) : Bytes :=
  space.read (buffer + UInt32.ofNat total) (wantedAt total count)

theorem writeChunks_step {total count : Nat} (more : total < count) :
    writeChunks console space buffer total count =
      if (chunkAt space buffer total count).length = wantedAt total count then
        writeChunks (console.write (chunkAt space buffer total count)) space buffer
          (total + wantedAt total count) count
      else (none, console) := by
  rw [writeChunks, if_pos more]
  exact ite_not _ _ _

theorem chunkAt_eq {total count : Nat} (small : space.size < UInt32.size)
    (inside : buffer.toNat + count ≤ space.size) (begun : total ≤ count) :
    chunkAt space buffer total count =
      space.memory.read (buffer.toNat + total) (wantedAt total count) := by
  have place : (buffer + UInt32.ofNat total).toNat = buffer.toNat + total :=
    toNat_advance (by omega)
  have whole : space.room (buffer + UInt32.ofNat total) (wantedAt total count) =
      wantedAt total count := by
    rw [AddressSpace.room, place, wantedAt]
    omega
  rw [chunkAt, AddressSpace.read, whole, place]

theorem chunkAt_length {total count : Nat} (small : space.size < UInt32.size)
    (inside : buffer.toNat + count ≤ space.size) (begun : total ≤ count) :
    (chunkAt space buffer total count).length = wantedAt total count := by
  rw [chunkAt_eq small inside begun, Pages.read_length]

theorem writeChunks_eq {total count : Nat} (small : space.size < UInt32.size)
    (inside : buffer.toNat + count ≤ space.size) (begun : total ≤ count) :
    writeChunks console space buffer total count =
      (some count,
        console.write (space.memory.read (buffer.toNat + total) (count - total))) := by
  -- The first `total` bytes are written; the induction is on those that are left.
  induction remaining : count - total using Nat.strongRecOn generalizing console total with
  | ind left ih =>
    by_cases more : total < count
    · have page : 0 < Limits.pageSize := by decide
      have asked : wantedAt total count = min left (min count Limits.pageSize) := by
        rw [wantedAt, remaining]
      have rest := @ih (count - (total + wantedAt total count)) (by omega)
        (console.write (chunkAt space buffer total count)) (total + wantedAt total count)
        (by omega) rfl
      have parts : left = wantedAt total count + (count - (total + wantedAt total count)) := by
        omega
      rw [writeChunks_step more, if_pos (chunkAt_length small inside begun), rest,
        chunkAt_eq small inside begun, Console.write_write, parts, Pages.read_add, Nat.add_assoc]
    · have done : total = count := by omega
      have nothing : left = 0 := by omega
      rw [writeChunks, if_neg more, done, nothing]
      exact congrArg (some count, ·) console.write_nil.symm

/-- The points of a write at which a round of its loop begins or the loop ends: how many rounds
were made, how many bytes they have written, and the console after them. -/
inductive Writing (start : Console) (space : AddressSpace) (buffer : UInt32) (count : Nat) :
    Nat → Nat → Console → Prop
  | begun : Writing start space buffer count 0 0 start
  | round {rounds total console} : Writing start space buffer count rounds total console →
      total < count → (chunkAt space buffer total count).length = wantedAt total count →
      Writing start space buffer count (rounds + 1) (total + wantedAt total count)
        (console.write (chunkAt space buffer total count))

variable {start : Console} {rounds total length : Nat}

theorem Writing.writeChunks_eq (writing : Writing start space buffer length rounds total console) :
    writeChunks start space buffer 0 length = writeChunks console space buffer total length := by
  induction writing with
  | begun => rfl
  | round earlier more whole ih => rw [ih, writeChunks_step more, if_pos whole]

theorem Writing.total_eq (writing : Writing start space buffer length rounds total console) :
    total = min length (rounds * Limits.pageSize) := by
  induction writing with
  | begun => rw [Nat.zero_mul, Nat.min_zero]
  | round earlier more whole ih =>
      rw [wantedAt, Nat.add_mul]
      omega

theorem Writing.rounds_lt (writing : Writing start space buffer length rounds total console) :
    rounds * Limits.pageSize < length + Limits.pageSize := by
  cases writing with
  | begun =>
      have page : 0 < Limits.pageSize := by decide
      omega
  | round earlier more whole =>
      rw [earlier.total_eq] at more
      rw [Nat.add_mul]
      omega

theorem writing_of_rounds (small : space.size < UInt32.size)
    (inside : buffer.toNat + length ≤ space.size)
    (needed : rounds * Limits.pageSize < length + Limits.pageSize) :
    ∃ console, Writing start space buffer length rounds (min length (rounds * Limits.pageSize))
      console := by
  induction rounds with
  | zero =>
      rw [Nat.zero_mul, Nat.min_zero]
      exact ⟨start, .begun⟩
  | succ rounds ih =>
      rw [Nat.add_mul, Nat.one_mul] at needed ⊢
      obtain ⟨console, writing⟩ := ih (by omega)
      have more : min length (rounds * Limits.pageSize) < length := by omega
      have next := writing.round more (chunkAt_length small inside (Nat.le_of_lt more))
      have total := next.total_eq
      rw [total, Nat.add_mul, Nat.one_mul] at next
      exact ⟨_, next⟩

theorem writing_ends (small : space.size < UInt32.size)
    (inside : buffer.toNat + length ≤ space.size) :
    ∃ rounds, Writing start space buffer length rounds length
      (start.write (space.memory.read buffer.toNat length)) := by
  obtain ⟨rounds, enough, needed⟩ : ∃ rounds, length ≤ rounds * Limits.pageSize ∧
      rounds * Limits.pageSize < length + Limits.pageSize := by
    refine ⟨(length + (Limits.pageSize - 1)) / Limits.pageSize, ?_⟩
    have size : Limits.pageSize = 1024 := rfl
    rw [size]
    omega
  obtain ⟨console, writing⟩ : ∃ console, Writing start space buffer length rounds
      (min length (rounds * Limits.pageSize)) console := writing_of_rounds small inside needed
  rw [Nat.min_eq_left enough] at writing
  -- From the end on the loop does nothing, so it ends with what it comes to from the start.
  have last := writing.writeChunks_eq
  rw [Kernel.writeChunks_eq small inside (Nat.zero_le _), writeChunks,
    if_neg (Nat.lt_irrefl _)] at last
  have same : start.write (space.memory.read (buffer.toNat + 0) (length - 0)) = console :=
    (Prod.mk.inj last).2
  rw [Nat.add_zero, Nat.sub_zero] at same
  exact ⟨rounds, same ▸ writing⟩

structure AdmitsWrite (context : Context) (descriptor : Int32) (buffer : UInt32)
    (count : Int32) : Prop where
  opened : context.file? descriptor = some .consoleOut
  counts : 0 ≤ count
  inside : buffer.toNat + count.toInt.toNat ≤ context.space.size

theorem handleWrite_of_refused (refused : ¬AdmitsWrite context descriptor buffer count) :
    kernel.handleWrite context descriptor buffer count = (Limits.syscallFailure, kernel) := by
  rw [handleWrite]
  by_cases closed : context.file? descriptor ≠ some .consoleOut ∨ count < 0
  · rw [if_pos closed]
  · obtain ⟨opened, counts⟩ := not_or.mp closed
    have outside : ¬buffer.toNat + count.toInt.toNat ≤ context.space.size := fun inside =>
      refused ⟨Decidable.not_not.mp opened, Int32.not_lt.mp counts, inside⟩
    have uncovered : context.space.covers buffer count.toInt.toNat = false :=
      decide_eq_false outside
    rw [if_neg closed, uncovered]
    rfl

theorem handleWrite_eq (small : context.space.size < UInt32.size)
    (opened : context.file? descriptor = some .consoleOut) (counts : 0 ≤ count)
    (inside : buffer.toNat + count.toInt.toNat ≤ context.space.size) :
    kernel.handleWrite context descriptor buffer count =
      (count,
        { kernel with
          console := kernel.console.write
            (context.space.memory.read buffer.toNat count.toInt.toNat) }) := by
  have admitted : ¬(context.file? descriptor ≠ some .consoleOut ∨ count < 0) := by
    rintro (closed | negative)
    · exact closed opened
    · exact Int32.not_le.mpr negative counts
  have covered : context.space.covers buffer count.toInt.toNat = true := decide_eq_true inside
  have same : Int32.ofNat count.toInt.toNat = count := by
    have whole : (count.toInt.toNat : Int) = count.toInt :=
      Int.toNat_of_nonneg (Int32.le_iff_toInt_le.mp counts)
    have back := Int32.ofInt_toInt count
    rwa [← whole] at back
  rw [handleWrite, if_neg admitted, covered, writeChunks_eq small inside (Nat.zero_le _)]
  simp only [Bool.not_true, Bool.false_eq_true, if_false, Nat.add_zero, Nat.sub_zero, same]

theorem syscall_write_eq :
    kernel.syscall context (Syscall.write.registers descriptor buffer.toInt32 count) =
      (.value (kernel.handleWrite context descriptor buffer count).1,
        (kernel.handleWrite context descriptor buffer count).2, context) :=
  rfl

theorem syscall_write (small : context.space.size < UInt32.size)
    (opened : context.file? descriptor = some .consoleOut) (counts : 0 ≤ count)
    (inside : buffer.toNat + count.toInt.toNat ≤ context.space.size) :
    kernel.syscall context (Syscall.write.registers descriptor buffer.toInt32 count) =
      (.value count,
        { kernel with
          console := kernel.console.write
            (context.space.memory.read buffer.toNat count.toInt.toNat) },
        context) := by
  rw [syscall_write_eq, handleWrite_eq small opened counts inside]

theorem syscall_write_of_refused (refused : ¬AdmitsWrite context descriptor buffer count) :
    kernel.syscall context (Syscall.write.registers descriptor buffer.toInt32 count) =
      (.value Limits.syscallFailure, kernel, context) := by
  rw [syscall_write_eq, handleWrite_of_refused refused]

/-- A write fails and changes nothing, or it appends all the bytes that it names to the output. It
does the latter exactly when it is admitted; each round of its loop then gets the whole chunk that
it asks for, and the loop ends after as many rounds as there are pages to write. (A count of -1 is
never admitted, so a write that answers it has failed.) -/
theorem write_is_whole_or_nothing (small : context.space.size < UInt32.size) :
    let length := count.toInt.toNat
    let written := context.space.memory.read buffer.toNat length
    let outcome := kernel.syscall context
      (Syscall.write.registers descriptor buffer.toInt32 count)
    (outcome = (.value Limits.syscallFailure, kernel, context) ∨
      outcome = (.value count,
        { kernel with console.output := kernel.console.output ++ written }, context)) ∧
    (outcome.1 = .value count ∧ outcome.1 ≠ .value Limits.syscallFailure ↔
      AdmitsWrite context descriptor buffer count) ∧
    (AdmitsWrite context descriptor buffer count →
      (∀ rounds total console,
        Writing kernel.console context.space buffer length rounds total console →
          rounds * Limits.pageSize < length + Limits.pageSize ∧
          (total < length →
            (chunkAt context.space buffer total length).length = wantedAt total length)) ∧
      ∃ rounds,
        Writing kernel.console context.space buffer length rounds length outcome.2.1.console) := by
  intro length written outcome
  by_cases admitted : AdmitsWrite context descriptor buffer count
  · obtain ⟨opened, counts, inside⟩ := admitted
    have made : outcome = _ := syscall_write small opened counts inside
    have success : count ≠ Limits.syscallFailure := by
      rintro rfl
      exact absurd counts (by decide)
    refine ⟨.inr made, iff_of_true ?_ ⟨opened, counts, inside⟩, fun _ => ⟨?_, ?_⟩⟩
    · rw [made]
      exact ⟨rfl, fun failed => success (Reply.value.inj failed)⟩
    · intro rounds total console writing
      exact ⟨writing.rounds_lt, fun more => chunkAt_length small inside (Nat.le_of_lt more)⟩
    · rw [made]
      exact writing_ends small inside
  · have refused : outcome = _ := syscall_write_of_refused admitted
    refine ⟨.inl refused, iff_of_false ?_ admitted, fun held => absurd held admitted⟩
    rw [refused]
    exact fun given => given.2 rfl

-- The last byte of memory can still be written, in the third chunk; the one after it cannot.
theorem write_up_to_last_byte :
    let kernel := boot .default ⟨⟨[]⟩, ⟨[]⟩⟩ (.fresh false)
    let context := Context.fresh 1 "p.coff" ⟨.zeros 3, 1, 1⟩ ⟨0, 0⟩
    let call (count : Int32) := kernel.syscall context
      (Syscall.write.registers 1 (572 : UInt32).toInt32 count)
    context.space.size < UInt32.size ∧
      (call 2500).1 = .value 2500 ∧
      (call 2500).2.1.console.output = context.space.memory.read 572 2500 ∧
      (call 2501).1 = .value Limits.syscallFailure ∧ (call 2501).2.1.console.output = [] := by
  intro kernel context call
  have small : context.space.size < UInt32.size := by decide
  obtain ⟨whole, made, -⟩ := @write_is_whole_or_nothing kernel context 572 1 2500 small
  obtain ⟨nothing, refused, -⟩ := @write_is_whole_or_nothing kernel context 572 1 2501 small
  have success := made.mpr ⟨rfl, by decide, by decide⟩
  have written := whole.resolve_left fun failed => success.2 (congrArg Prod.fst failed)
  have outside : ¬AdmitsWrite context 1 572 2501 := fun admitted =>
    absurd admitted.inside (by decide)
  have failed := nothing.resolve_right fun done =>
    outside (refused.mp ⟨congrArg Prod.fst done, fun same =>
      absurd ((congrArg Prod.fst done).symm.trans same) (by decide)⟩)
  have appended : (call 2500).2.1.console.output =
      kernel.console.output ++ context.space.memory.read 572 2500 := by
    rw [show call 2500 = _ from written]
    rfl
  have kept : (call 2501).2.1 = kernel := by rw [show call 2501 = _ from failed]
  rw [show kernel.console.output = [] from rfl, List.nil_append] at appended
  exact ⟨small, success.1, appended, congrArg Prod.fst failed,
    congrArg (fun kernel => kernel.console.output) kept⟩

end Kernel

end Minikernel
