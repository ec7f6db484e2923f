import Minikernel.Memory.AddressSpace
import Minikernel.Proofs.Memory.Reservation

/-!
What is in memory after a write. Memory is its size and its bytes, so writes that do not meet can
be made in either order, and data that lies below the end is read back as it was written. A string
ends at its first zero, wherever in memory that is.
-/

namespace Minikernel

theorem toNat_advance {address : UInt32} {count : Nat}
    (room : address.toNat + count < UInt32.size) :
    (address + UInt32.ofNat count).toNat = address.toNat + count := by
  have small : (UInt32.ofNat count).toNat = count := UInt32.toNat_ofNat_of_lt' (by omega)
  rw [UInt32.toNat_add, small]
  exact Nat.mod_eq_of_lt room

namespace Pages

variable {memory : Pages} {start : Nat}

theorem ext_byte {first second : Pages} (size : first.size = second.size)
    (bytes : ∀ index < first.size, first.byte index = second.byte index) : first = second := by
  obtain ⟨firstPages⟩ := first
  obtain ⟨secondPages⟩ := second
  have pageCount : firstPages.size = secondPages.size :=
    Nat.eq_of_mul_eq_mul_right (by decide) size
  congr 1
  refine Array.ext pageCount fun page firstBound secondBound => Vector.ext fun offset bound => ?_
  have pageOf : (page * Limits.pageSize + offset) / Limits.pageSize = page := by
    rw [Nat.mul_comm, Nat.mul_add_div (by decide), Nat.div_eq_of_lt bound, Nat.add_zero]
  have offsetOf : (page * Limits.pageSize + offset) % Limits.pageSize = offset := by
    rw [Nat.mul_comm, Nat.mul_add_mod, Nat.mod_eq_of_lt bound]
  have inside : page * Limits.pageSize + offset < firstPages.size * Limits.pageSize :=
    calc page * Limits.pageSize + offset < (page + 1) * Limits.pageSize := by
          rw [Nat.add_mul]
          omega
      _ ≤ firstPages.size * Limits.pageSize := Nat.mul_le_mul_right _ firstBound
  have same := bytes (page * Limits.pageSize + offset) inside
  simpa [byte, Page.byteAt, pageOf, offsetOf, firstBound, secondBound] using same

theorem overlay_append (memory : Pages) (start : Nat) (first second : Bytes) :
    memory.overlay start (first ++ second) =
      (memory.overlay start first).overlay (start + first.length) second := by
  induction first generalizing memory start with
  | nil => rfl
  | cons byte rest ih =>
      rw [List.cons_append, overlay, overlay, ih, List.length_cons, Nat.add_assoc,
        Nat.add_comm 1 rest.length]

theorem overlay_comm (memory : Pages) {low high : Nat} {first second : Bytes}
    (apart : low + first.length ≤ high) :
    (memory.overlay low first).overlay high second =
      (memory.overlay high second).overlay low first := by
  refine ext_byte (by simp only [overlay_size]) fun index bound => ?_
  simp only [overlay_size] at bound
  simp only [byte_overlay, overlay_size, bound]
  by_cases covered : low ≤ index ∧ index < low + first.length
  · rw [if_neg (by omega), if_pos covered, if_pos covered]
  · rw [if_neg covered, if_neg covered]

theorem read_add (memory : Pages) (start first second : Nat) :
    memory.read start (first + second) =
      memory.read start first ++ memory.read (start + first) second := by
  rw [read, ← List.range'_append_1, List.map_append]
  rfl

/-- Memory holds data at a place if all of it lies below the end and is read from there. -/
structure Holds (memory : Pages) (start : Nat) (data : Bytes) : Prop where
  inside : start + data.length ≤ memory.size
  bytes : memory.read start data.length = data

theorem holds_overlay {data : Bytes} (inside : start + data.length ≤ memory.size) :
    (memory.overlay start data).Holds start data := by
  refine ⟨by rwa [overlay_size], ?_⟩
  refine List.ext_getElem (read_length _ _ _) fun index readBound bound => ?_
  have covered : start ≤ start + index ∧ start + index < start + data.length := by omega
  simp only [read, List.getElem_map, List.getElem_range', Nat.one_mul]
  rw [byte_overlay _ _ _ _ (by omega), if_pos covered, Nat.add_sub_cancel_left,
    List.getD_eq_getElem?_getD, List.getElem?_eq_getElem bound, Option.getD_some]

theorem holds_append_iff {front back : Bytes} :
    memory.Holds start (front ++ back) ↔
      memory.Holds start front ∧ memory.Holds (start + front.length) back := by
  constructor
  · rintro ⟨inside, bytes⟩
    rw [List.length_append] at inside bytes
    rw [read_add] at bytes
    obtain ⟨first, second⟩ := List.append_inj bytes (read_length _ _ _)
    exact ⟨⟨by omega, first⟩, ⟨by omega, second⟩⟩
  · rintro ⟨⟨-, first⟩, ⟨inside, second⟩⟩
    refine ⟨by rw [List.length_append]; omega, ?_⟩
    rw [List.length_append, read_add, first, second]

end Pages

theorem Bytes.takeWhile_eq_iff {bytes text : Bytes} :
    0 ∈ bytes ∧ bytes.takeWhile (· != 0) = text ↔
      0 ∉ text ∧ ∃ after, bytes = text ++ 0 :: after := by
  induction bytes generalizing text with
  | nil => simp
  | cons byte rest ih =>
      by_cases zero : byte = 0
      · subst zero
        have ends : (0 :: rest).takeWhile (· != 0) = [] := rfl
        rw [ends]
        cases text with
        | nil => simp
        | cons first text =>
            refine iff_of_false nofun ?_
            rintro ⟨noZero, after, same⟩
            cases same
            exact noZero List.mem_cons_self
      · have goesOn : (byte :: rest).takeWhile (· != 0) = byte :: rest.takeWhile (· != 0) := by
          simp [zero]
        rw [goesOn]
        cases text with
        | nil => simp [zero]
        | cons first text =>
            have later := @ih text
            simp only [List.mem_cons, List.cons.injEq, List.cons_append]
            grind

namespace AddressSpace

variable {space : AddressSpace} {address : UInt32}

def overlaid (space : AddressSpace) (start : Nat) (data : Bytes) : AddressSpace :=
  { space with memory := space.memory.overlay start data }

theorem overlaid_size (start : Nat) (data : Bytes) :
    (space.overlaid start data).size = space.size :=
  Pages.overlay_size _ _ _

theorem overlaid_append (start : Nat) (first second : Bytes) :
    space.overlaid start (first ++ second) =
      (space.overlaid start first).overlaid (start + first.length) second :=
  congrArg (fun memory => { space with memory := memory })
    (space.memory.overlay_append start first second)

theorem overlaid_comm {low high : Nat} {first second : Bytes} (apart : low + first.length ≤ high) :
    (space.overlaid low first).overlaid high second =
      (space.overlaid high second).overlaid low first :=
  congrArg (fun memory => { space with memory := memory }) (space.memory.overlay_comm apart)

/-- Outside of a run of `length` bytes nothing of a space has changed. -/
structure SameOutside (later space : AddressSpace) (start length : Nat) : Prop extends
    later.SameShape space where
  bytes : ∀ index < space.size, index < start ∨ start + length ≤ index →
    later.memory.byte index = space.memory.byte index

theorem overlaid_sameOutside (space : AddressSpace) (start : Nat) (data : Bytes) :
    (space.overlaid start data).SameOutside space start data.length := by
  refine ⟨⟨rfl, rfl, overlaid_size _ _⟩, fun index bound outside => ?_⟩
  have uncovered : ¬(start ≤ index ∧ index < start + data.length) := by omega
  exact (Pages.byte_overlay _ _ _ _ bound).trans (if_neg uncovered)

namespace SameOutside

variable {last later : AddressSpace} {start length : Nat}

theorem refl (space : AddressSpace) (start length : Nat) :
    space.SameOutside space start length :=
  ⟨.refl space, fun _ _ _ => rfl⟩

theorem mono {less : Nat} (same : later.SameOutside space start less) (wider : less ≤ length) :
    later.SameOutside space start length :=
  ⟨same.toSameShape, fun index bound outside => same.bytes index bound (by omega)⟩

theorem trans (second : last.SameOutside later start length)
    (first : later.SameOutside space start length) : last.SameOutside space start length := by
  refine ⟨second.toSameShape.trans first.toSameShape, fun index bound outside => ?_⟩
  have size := first.size
  exact (second.bytes index (by omega) outside).trans (first.bytes index bound outside)

theorem widen {low high : Nat} (same : later.SameOutside space start length) (lower : low ≤ start)
    (upper : start + length ≤ high) : later.SameOutside space low (high - low) :=
  ⟨same.toSameShape, fun index bound outside => same.bytes index bound (by omega)⟩

theorem holds {place : Nat} {data : Bytes} (same : later.SameOutside space start length)
    (apart : place + data.length ≤ start ∨ start + length ≤ place)
    (held : space.memory.Holds place data) : later.memory.Holds place data := by
  have size : later.memory.size = space.memory.size := same.size
  have inside := held.inside
  refine ⟨by rwa [size], Eq.trans (List.map_congr_left fun index member => ?_) held.bytes⟩
  obtain ⟨lower, upper⟩ := List.mem_range'_1.mp member
  exact same.bytes index (Nat.lt_of_lt_of_le upper inside) (by omega)

end SameOutside

theorem writeExact_eq_ok_iff {data : Bytes} {later : AddressSpace} :
    space.writeExact address data = .ok later ↔
      address.toNat + data.length ≤ space.size ∧ space.overlaid address.toNat data = later := by
  unfold writeExact
  by_cases inside : address.toNat + data.length ≤ space.size
  · simp [covers, inside, write, overlaid]
  · simp [covers, inside]

theorem readWord_eq_ok_iff {word : UInt32} :
    space.readWord address = .ok word ↔ space.memory.Holds address.toNat (Bytes.ofWord word) := by
  have length := space.read_length address 4
  unfold readWord readExact
  dsimp only
  by_cases inside : address.toNat + 4 ≤ space.size
  · have whole : space.room address 4 = 4 := by
      unfold room
      omega
    rw [if_pos (length.trans whole)]
    unfold AddressSpace.read
    rw [whole]
    constructor
    · rintro ⟨⟩
      have four := space.memory.read_length address.toNat 4
      exact ⟨by rwa [Bytes.ofWord_length], by rw [Bytes.ofWord_word four, four]⟩
    · rintro ⟨-, bytes⟩
      rw [Bytes.ofWord_length] at bytes
      rw [bytes]
      exact congrArg Except.ok (Bytes.word_ofWord word)
  · have short : space.room address 4 ≠ 4 := by
      unfold room
      omega
    rw [if_neg (length.symm ▸ short)]
    refine iff_of_false nofun fun held => inside ?_
    have room := held.inside
    rwa [Bytes.ofWord_length] at room

structure HoldsString (space : AddressSpace) (address : UInt32) (text : Bytes) : Prop where
  noZero : 0 ∉ text
  bytes : space.memory.Holds address.toNat (text ++ [0])

theorem readString_of_large {limit : Nat} (large : Limits.maxBlock ≤ limit) :
    space.readString address limit = .error .overflow :=
  if_neg (Nat.not_lt.mpr large)

theorem readString_of_small (space : AddressSpace) (address : UInt32) {limit : Nat}
    (small : limit < Limits.maxBlock) : ∃ found, space.readString address limit = .ok found :=
  ⟨_, if_pos small⟩

theorem readString_eq_some_iff {limit : Nat} {text : Bytes} (small : limit < Limits.maxBlock) :
    space.readString address limit = .ok (some text) ↔
      text.length ≤ limit ∧ space.HoldsString address text := by
  have window : space.readString address limit = .ok (some text) ↔
      0 ∈ space.read address (limit + 1) ∧
        (space.read address (limit + 1)).takeWhile (· != 0) = text := by
    unfold readString
    rw [if_pos small]
    dsimp only
    split <;> simp_all
  rw [window, Bytes.takeWhile_eq_iff]
  have length := space.read_length address (limit + 1)
  constructor
  · rintro ⟨noZero, after, found⟩
    rw [found, List.length_append, List.length_cons] at length
    have below : address.toNat + (text.length + (after.length + 1)) ≤ space.size := by
      unfold room at length
      omega
    have held : space.memory.Holds address.toNat (text ++ [0] ++ after) := by
      rw [List.append_assoc, List.singleton_append]
      refine ⟨by rwa [List.length_append, List.length_cons], ?_⟩
      rw [← found, space.read_length]
      rfl
    refine ⟨?_, noZero, (Pages.holds_append_iff.mp held).1⟩
    unfold room at length
    omega
  · rintro ⟨short, noZero, held⟩
    refine ⟨noZero, ?_⟩
    have inside : address.toNat + (text ++ [0]).length ≤ space.size := held.inside
    rw [List.length_append, List.length_singleton] at inside
    obtain ⟨more, enough⟩ :
        ∃ more, space.room address (limit + 1) = (text ++ [0]).length + more := by
      refine Nat.exists_eq_add_of_le ?_
      simp only [room, List.length_append, List.length_singleton]
      omega
    refine ⟨space.memory.read (address.toNat + (text ++ [0]).length) more, ?_⟩
    rw [AddressSpace.read, enough, Pages.read_add, held.bytes, List.append_assoc,
      List.singleton_append]

theorem stringAt?_eq_some_iff {text : Bytes} :
    space.stringAt? address = some text ↔
      text.length ≤ Limits.maxStringLength ∧ space.HoldsString address text := by
  have short : Limits.maxStringLength < Limits.maxBlock := by decide
  rw [← readString_eq_some_iff short, stringAt?]
  cases space.readString address Limits.maxStringLength <;> simp [Except.toOption]

end AddressSpace

end Minikernel
