import Minikernel.Proofs.Kernel.ConsoleOutput
import Minikernel.Proofs.Memory.Filling
import Minikernel.Proofs.User.Execution

/-!
Printing a text. The text is put on the stack, written to the console from there, and taken off the
stack again. Nothing of it is left but the bytes below the stack pointer, so a program that has
room for one text has room for any number of them, one after the other.
-/

namespace Minikernel

namespace Context

variable {context later : Context} {data : Bytes} {address : UInt32} {room : Nat}

theorem blockSize_of_small {length : Nat} (small : length + 3 < UInt32.size) :
    blockSize length = .ok (UInt32.ofNat ((length + 3) / 4 * 4)) ∧
      (UInt32.ofNat ((length + 3) / 4 * 4)).toNat = (length + 3) / 4 * 4 := by
  have whole : length % UInt32.size = length := Nat.mod_eq_of_lt (by omega)
  have bound : (length + 3) / 4 * 4 < UInt32.size := by omega
  refine ⟨?_, UInt32.toNat_ofNat_of_lt' bound⟩
  unfold blockSize
  rw [whole]
  exact if_pos bound

theorem blockSize_eq_overflow_iff {length : Nat} :
    blockSize length = .error .overflow ↔
      UInt32.size ≤ (length % UInt32.size + 3) / 4 * 4 := by
  unfold blockSize
  dsimp only
  split <;> simp_all

theorem pushBytes_eq_ok_iff :
    context.pushBytes data = .ok (address, later) ↔
      ∃ size, blockSize data.length = .ok size ∧
        (size ≤ context.stackPointer ∧
          context.space.stackLimit ≤ context.stackPointer - size) ∧
        (context.stackPointer - size).toNat + data.length ≤ context.space.size ∧
        context.stackPointer - size = address ∧
        { context with
          space := context.space.overlaid address.toNat data
          stackPointer := address } = later := by
  unfold pushBytes
  rw [bind_eq_ok_iff]
  refine exists_congr fun size => and_congr_right fun _ => ?_
  generalize context.stackPointer - size = top
  by_cases room : size ≤ context.stackPointer ∧ context.space.stackLimit ≤ top
  · rw [if_pos room]
    unfold writeBytes
    constructor
    · intro pushed
      cases outcome : context.space.writeExact top data with
      | error cause =>
          rw [outcome] at pushed
          cases pushed
      | ok found =>
          rw [outcome] at pushed
          cases pushed
          obtain ⟨inside, rfl⟩ := AddressSpace.writeExact_eq_ok_iff.mp outcome
          exact ⟨room, inside, rfl, rfl⟩
    · rintro ⟨-, inside, rfl, rfl⟩
      rw [AddressSpace.writeExact_eq_ok_iff.mpr ⟨inside, rfl⟩]
      rfl
  · rw [if_neg room]
    exact iff_of_false nofun fun pushed => room pushed.1

structure CanPrint (context : Context) (room : Nat) : Prop where
  opened : context.file? 1 = some .consoleOut
  small : context.space.size < UInt32.size
  inside : context.stackPointer.toNat ≤ context.space.size
  room : context.space.stackLimit.toNat + room ≤ context.stackPointer.toNat

theorem fresh_canPrint {code stack : UInt64} {pool taken : FramePool} {space filled : AddressSpace}
    (created : AddressSpace.create pool code stack = .ok (space, taken))
    (same : filled.SameShape space) (pid : Pid) (name : String) (layout : ArgumentLayout) :
    (fresh pid name filled layout).CanPrint (stack.toNat * Limits.pageSize) := by
  obtain ⟨limit, top, size⟩ := AddressSpace.create_stack created same
  have small := (AddressSpace.create_size created).1
  have above : (fresh pid name filled layout).stackPointer.toNat = _ := top
  refine ⟨rfl, Nat.lt_of_le_of_lt (Nat.le_of_eq same.size) small, ?_, ?_⟩
  · show (fresh pid name filled layout).stackPointer.toNat ≤ filled.size
    rw [above, size, Nat.add_mul _ 1]
    exact Nat.le_add_right _ _
  · show filled.stackLimit.toNat + _ ≤ (fresh pid name filled layout).stackPointer.toNat
    exact Nat.le_of_eq (by rw [above, limit, Nat.add_mul])

theorem CanPrint.mono {less : Nat} (prints : context.CanPrint room) (fewer : less ≤ room) :
    context.CanPrint less where
  opened := prints.opened
  small := prints.small
  inside := prints.inside
  room := Nat.le_trans (Nat.add_le_add_left fewer _) prints.room

def blockStart (context : Context) (length : Nat) : UInt32 :=
  context.stackPointer - UInt32.ofNat ((length + 3) / 4 * 4)

/-- The context after data was put on the stack and taken off again. -/
def scribbled (context : Context) (data : Bytes) : Context :=
  { context with space := context.space.overlaid (context.blockStart data.length).toNat data }

theorem CanPrint.scribbled (prints : context.CanPrint room) (data : Bytes) :
    (context.scribbled data).CanPrint room where
  opened := prints.opened
  small := by
    rw [Context.scribbled, AddressSpace.overlaid_size]
    exact prints.small
  inside := by
    rw [Context.scribbled, AddressSpace.overlaid_size]
    exact prints.inside
  room := prints.room

theorem CanPrint.block (prints : context.CanPrint room) (fits : data.length + 3 ≤ room) :
    blockSize data.length = .ok (UInt32.ofNat ((data.length + 3) / 4 * 4)) ∧
      UInt32.ofNat ((data.length + 3) / 4 * 4) ≤ context.stackPointer ∧
      (context.blockStart data.length).toNat + (data.length + 3) / 4 * 4 =
        context.stackPointer.toNat := by
  have above := prints.room
  have top := context.stackPointer.toNat_lt
  have bound : UInt32.size = 2 ^ 32 := rfl
  obtain ⟨counted, size⟩ := @blockSize_of_small data.length (by omega)
  have low : UInt32.ofNat ((data.length + 3) / 4 * 4) ≤ context.stackPointer := by
    rw [UInt32.le_iff_toNat_le, size]
    omega
  refine ⟨counted, low, ?_⟩
  rw [blockStart, UInt32.toNat_sub_of_le _ _ low, size]
  omega

theorem pushBytes_eq (prints : context.CanPrint room) (fits : data.length + 3 ≤ room) :
    context.pushBytes data =
      .ok (context.blockStart data.length,
        { context.scribbled data with stackPointer := context.blockStart data.length }) := by
  obtain ⟨counted, low, place⟩ := prints.block fits
  have above := prints.room
  have inside := prints.inside
  have limit : context.space.stackLimit ≤ context.blockStart data.length := by
    rw [UInt32.le_iff_toNat_le]
    omega
  exact pushBytes_eq_ok_iff.mpr
    ⟨_, counted, ⟨low, limit⟩, show (context.blockStart data.length).toNat + _ ≤ _ by omega, rfl,
      rfl⟩

end Context

namespace Program

variable {console : Console} {context : Context} {room : Nat}

theorem answered_write {data : Bytes} (prints : context.CanPrint room)
    (fits : data.length + 3 ≤ room) (few : data.length < 0x80000000) :
    let buffer := context.blockStart data.length
    Answered (Syscall.write.registers 1 buffer.toInt32 (Int32.ofNat data.length)) console
      { context.scribbled data with stackPointer := buffer } (Int32.ofNat data.length)
      (console.write data) := by
  intro buffer kernel same
  obtain ⟨-, -, place⟩ := prints.block fits
  have ends : buffer.toNat + (data.length + 3) / 4 * 4 = context.stackPointer.toNat := place
  have top := prints.inside
  have below : buffer.toNat + data.length ≤ context.space.size := by omega
  have held : (context.scribbled data).space.memory.Holds buffer.toNat data :=
    Pages.holds_overlay below
  have later := prints.scribbled data
  have number : (Int32.ofNat data.length).toInt = data.length := Int32.toInt_ofNat_of_lt few
  have counts : 0 ≤ Int32.ofNat data.length := by
    rw [Int32.le_iff_toInt_le, number]
    exact Int.natCast_nonneg _
  have length : (Int32.ofNat data.length).toInt.toNat = data.length := by
    rw [number]
    rfl
  have called := @Kernel.syscall_write kernel
    { context.scribbled data with stackPointer := buffer } buffer 1 (Int32.ofNat data.length)
    later.small later.opened counts (by rw [length]; exact held.inside)
  rw [called, length, same]
  dsimp only
  rw [held.bytes]

theorem print_runs (prints : context.CanPrint room) {text : String}
    (fits : (Text.Utf8.encode text).length + 3 ≤ room)
    (few : (Text.Utf8.encode text).length < 0x80000000) :
    Runs (print text) console context 6 (Int32.ofNat (Text.Utf8.encode text).length)
      (console.write (Text.Utf8.encode text)) (context.scribbled (Text.Utf8.encode text)) := by
  -- One step to note the stack pointer, two to push, one to write, two to restore the pointer.
  have pushed : Runs (pushBytes (Text.Utf8.encode text)) console context 2 _ console _ :=
    push_runs (Context.pushBytes_eq prints fits)
  have written := (invoke_runs (@answered_write console context room _ prints fits few)).catchTrap
  show Runs (bind stackPointer _) console context (1 + (2 + (1 + (2 + 0)))) _ _ _
  refine stackPointer_runs.bind ?_
  refine pushed.bind ?_
  refine written.bind ?_
  exact (restoreStack_runs context.stackPointer).bind (.done _ _ _)

end Program

end Minikernel
