import Minikernel.Kernel.Calls
import Minikernel.Proofs.Memory.Contents

/-!
Reading from the console. A read takes input in chunks of at most a page, each before it is known
whether memory has room for it, so a read that runs past the end of memory has taken the chunk that
did not fit as well, and has written as much of it as there was room for. With room for all of it,
input and memory change by just what is read. For both, memory must have less than 2^32 bytes, as it
has in every space that is created (`AddressSpace.create_argumentsLast`).
-/

namespace Minikernel.Kernel

variable {kernel : Kernel} {console : Console} {space : AddressSpace} {context : Context}
  {buffer : UInt32}

/-- How much input is gone after a read that wants so much and has room for so much: what it wants
if there is room, else all chunks up to the first that does not fit. -/
def consumed (chunk wanted room : Nat) : Nat :=
  if wanted ≤ room then wanted else min wanted ((room / chunk + 1) * chunk)

theorem consumed_of_short {chunk wanted room : Nat} (short : room < min wanted chunk) :
    consumed chunk wanted room = min wanted chunk := by
  have first : room / chunk = 0 := Nat.div_eq_of_lt (by omega)
  rw [consumed, if_neg (by omega), first, Nat.zero_add, Nat.one_mul]

theorem consumed_of_chunk {chunk wanted room : Nat} (positive : 0 < chunk)
    (fits : min wanted chunk ≤ room) :
    consumed chunk wanted room =
      min wanted chunk +
        consumed chunk (wanted - min wanted chunk) (room - min wanted chunk) := by
  unfold consumed
  by_cases whole : wanted ≤ room
  · rw [if_pos whole, if_pos (by omega)]
    omega
  · have full : min wanted chunk = chunk := by omega
    rw [if_neg whole, full, if_neg (by omega), Nat.div_eq_sub_div positive (by omega),
      Nat.add_mul ((room - chunk) / chunk + 1), Nat.one_mul]
    omega

theorem consumed_pos {chunk wanted room : Nat} (positive : 0 < chunk) (short : room < wanted) :
    0 < consumed chunk wanted room := by
  rw [consumed, if_neg (by omega), Nat.add_mul, Nat.one_mul]
  omega

theorem read_eq_take (limit : Nat) :
    console.read limit =
      (console.input.take (min limit console.input.length),
        { console with input := console.input.drop (min limit console.input.length) }) := by
  have taken : console.input.take limit = console.input.take (min limit console.input.length) :=
    List.take_eq_take_iff.mpr (by omega)
  have left : console.input.drop limit = console.input.drop (min limit console.input.length) := by
    rcases Nat.le_total limit console.input.length with enough | short
    · rw [Nat.min_eq_left enough]
    · rw [Nat.min_eq_right short, List.drop_eq_nil_of_le short, List.drop_length]
  rw [Console.read, taken, left]

theorem readChunks_step {total count taken : Nat} (more : total < count)
    (place : (buffer + UInt32.ofNat total).toNat = buffer.toNat + total)
    (asked : min (min (count - total) (min count Limits.pageSize)) console.input.length = taken) :
    let later := { console with input := console.input.drop taken }
    let filled := space.overlaid (buffer.toNat + total) (console.input.take taken)
    readChunks console space buffer total count =
      if taken = 0 then (some total, later, space)
      else if space.size - (buffer.toNat + total) < taken then (none, later, filled)
      else readChunks later filled buffer (total + taken) count := by
  intro later filled
  have length : (console.input.take taken).length = taken := List.length_take_of_le (by omega)
  have moved : space.write (buffer + UInt32.ofNat total) (console.input.take taken) =
      (min taken (space.size - (buffer.toNat + total)), filled) := by
    rw [AddressSpace.write, AddressSpace.room, place, length]
    rfl
  have short : min taken (space.size - (buffer.toNat + total)) ≠ taken ↔
      space.size - (buffer.toNat + total) < taken := by omega
  rw [readChunks, if_pos more]
  dsimp only
  rw [read_eq_take, asked]
  dsimp only
  rw [length, moved]
  simp only [short]
  rfl

theorem readChunks_eq {total count : Nat} (small : space.size < UInt32.size)
    (inside : total = 0 ∨ buffer.toNat + total ≤ space.size) :
    let wanted := min (count - total) console.input.length
    let room := space.size - (buffer.toNat + total)
    let gone := consumed (min count Limits.pageSize) wanted room
    readChunks console space buffer total count =
      (if wanted ≤ room then some (total + wanted) else none,
        { console with input := console.input.drop gone },
        space.overlaid (buffer.toNat + total) (console.input.take gone)) := by
  -- Every round asks for something, so what is left to ask for gets less.
  induction remaining : count - total using Nat.strongRecOn generalizing console space total with
  | ind left ih =>
    intro wanted room gone
    have wantedIs : min left console.input.length = wanted := rfl
    have held : wanted ≤ console.input.length := Nat.min_le_right _ _
    have goneIs : gone = consumed (min count Limits.pageSize) wanted room := rfl
    have roomIs : room = space.size - (buffer.toNat + total) := rfl
    clear_value gone room wanted
    have nothingGone (nothing : wanted = 0) : gone = 0 := by
      rw [goneIs, consumed, if_pos (by omega), nothing]
    by_cases more : total < count
    · have place : (buffer + UInt32.ofNat total).toNat = buffer.toNat + total := by
        rcases inside with rfl | inside
        · exact congrArg UInt32.toNat (UInt32.add_zero buffer)
        · exact toNat_advance (by omega)
      obtain ⟨chunk, chunkIs⟩ : ∃ chunk, min count Limits.pageSize = chunk := ⟨_, rfl⟩
      have positive : 0 < chunk := by
        have page : 0 < Limits.pageSize := by decide
        omega
      obtain ⟨taken, takenIs⟩ : ∃ taken, min wanted chunk = taken := ⟨_, rfl⟩
      rw [chunkIs] at goneIs
      rw [readChunks_step more place
        (by rw [remaining, Nat.min_right_comm, chunkIs, wantedIs, takenIs])]
      by_cases nothing : taken = 0
      · have none : wanted = 0 :=
          (Nat.min_eq_zero_iff.mp (takenIs.trans nothing)).resolve_right (Nat.ne_of_gt positive)
        rw [if_pos nothing, if_pos (by omega), none, nothingGone none, nothing]
        rfl
      have part : taken ≤ wanted := takenIs ▸ Nat.min_le_left _ _
      rw [if_neg nothing]
      by_cases short : room < taken
      · -- The chunk is off the input by now, although it does not fit.
        have lost : gone = taken := by
          rw [goneIs, consumed_of_short (takenIs.symm ▸ short), takenIs]
        rw [if_pos (roomIs ▸ short), if_neg (by omega), lost]
      · have split : gone = taken + consumed chunk (wanted - taken) (room - taken) := by
          rw [goneIs, consumed_of_chunk positive (takenIs.symm ▸ Nat.le_of_not_lt short), takenIs]
        let later := { console with input := console.input.drop taken }
        let filled := space.overlaid (buffer.toNat + total) (console.input.take taken)
        have size : filled.size = space.size := AddressSpace.overlaid_size _ _
        have length : (console.input.take taken).length = taken :=
          List.length_take_of_le (Nat.le_trans part held)
        have wantedLeft : min (count - (total + taken)) later.input.length = wanted - taken := by
          rw [List.length_drop, ← Nat.sub_sub, remaining, Nat.sub_min_sub_right, wantedIs]
        have roomLeft : filled.size - (buffer.toNat + (total + taken)) = room - taken := by
          rw [size, roomIs, ← Nat.add_assoc, Nat.sub_sub]
        have rest := @ih (count - (total + taken)) (by omega) later filled (total + taken)
          (by rwa [size]) (by omega) rfl
        have whole : total + (taken + (wanted - taken)) = total + wanted := by omega
        have same : wanted - taken ≤ room - taken ↔ wanted ≤ room := by omega
        rw [if_neg (roomIs ▸ short), rest]
        simp only [wantedLeft, roomLeft, chunkIs, Nat.add_assoc, whole, same]
        rw [split, List.take_add, AddressSpace.overlaid_append, length, List.drop_drop,
          Nat.add_assoc]
    · have nothing : wanted = 0 := by omega
      rw [readChunks, if_neg more, if_pos (by omega), nothing, nothingGone nothing]
      rfl

/-- A read is refused before it starts unless the descriptor is open for console input and the
count is not negative. -/
structure AdmitsRead (context : Context) (descriptor count : Int32) : Prop where
  opened : context.file? descriptor = some .consoleIn
  counts : 0 ≤ count

variable {descriptor count : Int32}

theorem not_admitsRead_iff :
    ¬AdmitsRead context descriptor count ↔
      context.file? descriptor ≠ some .consoleIn ∨ count < 0 := by
  constructor
  · intro refused
    by_cases opened : context.file? descriptor = some .consoleIn
    · exact .inr (Int32.not_le.mp fun counts => refused ⟨opened, counts⟩)
    · exact .inl opened
  · rintro (closed | negative) admitted
    · exact closed admitted.opened
    · exact Int32.not_le.mpr negative admitted.counts

theorem syscall_read_eq :
    kernel.syscall context (Syscall.read.registers descriptor buffer.toInt32 count) =
      (.value (kernel.handleRead context descriptor buffer count).1,
        (kernel.handleRead context descriptor buffer count).2) :=
  rfl

theorem syscall_read_of_refused (refused : ¬AdmitsRead context descriptor count) :
    kernel.syscall context (Syscall.read.registers descriptor buffer.toInt32 count) =
      (.value Limits.syscallFailure, kernel, context) := by
  rw [syscall_read_eq, handleRead, if_pos (not_admitsRead_iff.mp refused)]

theorem syscall_read_of_admitted (small : context.space.size < UInt32.size)
    (admitted : AdmitsRead context descriptor count) :
    let wanted := min count.toInt.toNat kernel.console.input.length
    let room := context.space.size - buffer.toNat
    let gone := consumed (min count.toInt.toNat Limits.pageSize) wanted room
    kernel.syscall context (Syscall.read.registers descriptor buffer.toInt32 count) =
      (.value (if wanted ≤ room then Int32.ofNat wanted else Limits.syscallFailure),
        { kernel with console.input := kernel.console.input.drop gone },
        { context with
          space := context.space.overlaid buffer.toNat (kernel.console.input.take gone) }) := by
  intro wanted room gone
  have passed : ¬(context.file? descriptor ≠ some .consoleIn ∨ count < 0) :=
    fun refused => not_admitsRead_iff.mpr refused admitted
  rw [syscall_read_eq, handleRead, if_neg passed, readChunks_eq small (.inl rfl)]
  simp only [Nat.sub_zero, Nat.add_zero, Nat.zero_add]
  by_cases fits : wanted ≤ room
  · rw [if_pos fits, if_pos fits]
  · rw [if_neg fits, if_neg fits]

theorem toInt_ofNat_of_le {moved : Nat} (bound : moved ≤ count.toInt.toNat) :
    (Int32.ofNat moved).toInt = moved := by
  have large := Int32.toInt_lt count
  exact Int32.toInt_ofNat_of_lt (by omega)

theorem ofNat_ne_syscallFailure {moved : Nat} (bound : moved ≤ count.toInt.toNat) :
    Int32.ofNat moved ≠ Limits.syscallFailure := by
  intro failed
  have same := congrArg Int32.toInt failed
  rw [toInt_ofNat_of_le bound] at same
  have negative : Limits.syscallFailure.toInt = -1 := rfl
  omega

/-- A read fails when it is refused, and when what it would read has no room in memory. A refused
read changes nothing. One without room always loses input, namely all chunks up to the first that
does not fit, and memory has as much of them as there was room for. -/
theorem failed_read_keeps_input_iff {reply : Reply} {later : Kernel} {changed : Context}
    (small : context.space.size < UInt32.size)
    (called : kernel.syscall context (Syscall.read.registers descriptor buffer.toInt32 count) =
      (reply, later, changed)) :
    let wanted := min count.toInt.toNat kernel.console.input.length
    let room := context.space.size - buffer.toNat
    let gone := consumed (min count.toInt.toNat Limits.pageSize) wanted room
    (reply = .value Limits.syscallFailure ↔
      ¬AdmitsRead context descriptor count ∨ room < wanted) ∧
    (reply = .value Limits.syscallFailure →
      ((later.console.input = kernel.console.input ∧ changed.space = context.space) ↔
        ¬AdmitsRead context descriptor count)) ∧
    (AdmitsRead context descriptor count → room < wanted →
      0 < gone ∧
      later.console.input = kernel.console.input.drop gone ∧
      changed.space = context.space.overlaid buffer.toNat (kernel.console.input.take gone)) := by
  intro wanted room gone
  by_cases admitted : AdmitsRead context descriptor count
  · rw [syscall_read_of_admitted small admitted] at called
    obtain ⟨rfl, rfl, rfl⟩ := called
    have fails : ((if wanted ≤ room then Int32.ofNat wanted else Limits.syscallFailure) =
        Limits.syscallFailure) ↔ room < wanted := by
      by_cases fits : wanted ≤ room
      · rw [if_pos fits]
        exact iff_of_false (ofNat_ne_syscallFailure (Nat.min_le_left _ _)) (by omega)
      · rw [if_neg fits]
        exact iff_of_true rfl (by omega)
    have loses (short : room < wanted) : 0 < gone := by
      have page : 0 < Limits.pageSize := by decide
      exact consumed_pos (by omega) short
    refine ⟨?_, fun failed => iff_of_false ?_ (not_not_intro admitted),
      fun _ short => ⟨loses short, rfl, rfl⟩⟩
    · refine (Iff.of_eq (Reply.value.injEq _ _)).trans (fails.trans ?_)
      exact (or_iff_right (not_not_intro admitted)).symm
    · rintro ⟨kept, -⟩
      have short : room < wanted := fails.mp (Reply.value.inj failed)
      have lost : 0 < gone := loses short
      have length : kernel.console.input.length - gone = kernel.console.input.length :=
        List.length_drop.symm.trans (congrArg List.length kept)
      omega
  · rw [syscall_read_of_refused admitted] at called
    obtain ⟨rfl, rfl, rfl⟩ := called
    exact ⟨iff_of_true rfl (.inl admitted), fun _ => iff_of_true ⟨rfl, rfl⟩ admitted,
      fun held => absurd held admitted⟩

-- The first chunk has room for it and the second has not; the input of both is gone.
theorem second_chunk_without_room :
    let kernel := boot .default ⟨⟨[]⟩, ⟨[]⟩⟩ ⟨List.replicate 3000 97, [], false⟩
    let context := Context.fresh 1 "p.coff" ⟨.zeros 3, 1, 1⟩ ⟨0, 0⟩
    let outcome := kernel.syscall context (Syscall.read.registers 0 (1500 : UInt32).toInt32 3000)
    context.space.size < UInt32.size ∧ outcome.1 = .value Limits.syscallFailure ∧
      outcome.2.1.console.input = List.replicate 952 97 ∧
      outcome.2.2.space = context.space.overlaid 1500 (List.replicate 2048 97) := by
  intro kernel context
  generalize called : kernel.syscall context _ = outcome
  obtain ⟨reply, later, changed⟩ := outcome
  have small : context.space.size < UInt32.size := by decide
  have admitted : AdmitsRead context 0 3000 := ⟨rfl, by decide⟩
  have input : kernel.console.input = List.replicate 3000 97 := rfl
  have wanted : min (3000 : Int32).toInt.toNat kernel.console.input.length = 3000 := by
    rw [input, List.length_replicate]
    decide
  have room : context.space.size - (1500 : UInt32).toNat = 1572 := by decide
  have gone : consumed (min (3000 : Int32).toInt.toNat Limits.pageSize) 3000 1572 = 2048 := by
    decide
  obtain ⟨fails, -, loses⟩ := failed_read_keeps_input_iff small called
  rw [wanted, room] at fails loses
  rw [gone, input] at loses
  obtain ⟨-, left, filled⟩ := loses admitted (by decide)
  rw [List.drop_replicate] at left
  rw [List.take_replicate] at filled
  exact ⟨small, fails.mpr (.inr (by decide)), left, filled⟩

/-- A buffer at the last byte of memory: the read fails, the input is gone, and one byte of it is
in memory. -/
theorem input_lost_to_bad_buffer :
    let kernel := boot .default ⟨⟨[]⟩, ⟨[]⟩⟩ ⟨[97, 98, 99], [], false⟩
    let context := Context.fresh 1 "p.coff" ⟨.zeros 3, 1, 1⟩ ⟨0, 0⟩
    let outcome := kernel.syscall context (Syscall.read.registers 0 (3071 : UInt32).toInt32 3)
    outcome.1 = .value Limits.syscallFailure ∧
      kernel.console.input = [97, 98, 99] ∧ outcome.2.1.console.input = [] ∧
      context.space.read 3071 1 = [0] ∧ outcome.2.2.space.read 3071 1 = [97] := by
  intro kernel context outcome
  have result : outcome = _ :=
    @syscall_read_of_admitted kernel context 3071 0 3 (by decide) ⟨rfl, by decide⟩
  rw [result]
  decide +kernel

/-- A read with room for all that it gets takes the first bytes of the pending input, as many as it
asks for or as there are, and puts them at the buffer in their order. It answers with their number,
and has left the rest of the input and of memory alone. -/
theorem successful_read_is_exact (small : context.space.size < UInt32.size)
    (opened : context.file? descriptor = some .consoleIn) (counts : 0 ≤ count)
    (fits : min count.toInt.toNat kernel.console.input.length ≤
      context.space.size - buffer.toNat) :
    let moved := min count.toInt.toNat kernel.console.input.length
    ∃ value filled,
      kernel.syscall context (Syscall.read.registers descriptor buffer.toInt32 count) =
        (.value value, { kernel with console.input := kernel.console.input.drop moved },
          { context with space := filled }) ∧
      value.toInt = moved ∧
      filled.memory.read buffer.toNat moved = kernel.console.input.take moved ∧
      filled.SameOutside context.space buffer.toNat moved := by
  intro moved
  have gone : consumed (min count.toInt.toNat Limits.pageSize) moved
      (context.space.size - buffer.toNat) = moved := if_pos fits
  have result := @syscall_read_of_admitted kernel context buffer descriptor count small
    ⟨opened, counts⟩
  dsimp only at result
  rw [if_pos fits, gone] at result
  have length : (kernel.console.input.take moved).length = moved :=
    List.length_take_of_le (Nat.min_le_right _ _)
  have outside := AddressSpace.overlaid_sameOutside context.space buffer.toNat
    (kernel.console.input.take moved)
  rw [length] at outside
  refine ⟨_, _, result, toInt_ofNat_of_le (Nat.min_le_left _ _), ?_, outside⟩
  by_cases nothing : moved = 0
  · rw [nothing]
    rfl
  · have inside : buffer.toNat + (kernel.console.input.take moved).length ≤
        context.space.memory.size := by
      have size : context.space.memory.size = context.space.size := rfl
      omega
    have held := (Pages.holds_overlay inside).bytes
    rwa [length] at held

-- Two whole chunks and a part of a third, from an address in the middle of a page.
theorem read_of_three_chunks :
    let pending := (List.range 3000).map UInt8.ofNat
    let kernel := boot .default ⟨⟨[]⟩, ⟨[]⟩⟩ ⟨pending, [], false⟩
    let context := Context.fresh 1 "p.coff" ⟨.zeros 3, 1, 1⟩ ⟨0, 0⟩
    let outcome := kernel.syscall context (Syscall.read.registers 0 (500 : UInt32).toInt32 2500)
    context.space.size < UInt32.size ∧ context.file? 0 = some .consoleIn ∧
      2500 ≤ context.space.size - 500 ∧ outcome.1 = .value 2500 ∧
      outcome.2.1.console.input = pending.drop 2500 ∧
      outcome.2.2.space.memory.read 500 2500 = pending.take 2500 ∧
      outcome.2.2.space.SameOutside context.space 500 2500 := by
  have length : ((List.range 3000).map UInt8.ofNat).length = 3000 := by simp
  generalize (List.range 3000).map UInt8.ofNat = bytes at length ⊢
  intro pending kernel context outcome
  have small : context.space.size < UInt32.size := by decide
  have opened : context.file? 0 = some .consoleIn := rfl
  have room : 2500 ≤ context.space.size - 500 := by decide
  have moved : min (2500 : Int32).toInt.toNat kernel.console.input.length = 2500 := by
    show min _ bytes.length = 2500
    rw [length]
    decide
  obtain ⟨value, filled, called, same, held, outside⟩ :=
    @successful_read_is_exact kernel context 500 0 2500 small opened (by decide)
      (Nat.le_trans (Nat.le_of_eq moved) room)
  rw [moved] at called same held outside
  have whole : value = 2500 := Int32.toInt_inj.mp same
  have result : outcome = _ := called
  rw [result, whole]
  exact ⟨small, opened, room, rfl, rfl, held, outside⟩

end Minikernel.Kernel
