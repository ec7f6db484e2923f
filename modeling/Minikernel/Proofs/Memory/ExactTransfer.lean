import Minikernel.Proofs.Memory.Contents

/-!
Exact transfers and the check of a range. A plain transfer stops at the end of memory, an exact read
looks at how far it came, and an exact write compares the end of the range with the end of memory
before it begins. These are two questions, and they have the same answer for every range but the
empty ones that start past the end: nothing is missing from an empty transfer, wherever it is, but
such a range does not end in memory.
-/

namespace Minikernel.AddressSpace

variable {space later : AddressSpace} {address : UInt32} {length : Nat} {data : Bytes}
  {cause : MemoryError}

def writeExactInPlace (space : AddressSpace) (address : UInt32) (data : Bytes) :
    Except MemoryError Unit × AddressSpace :=
  if space.covers address data.length then (.ok (), (space.write address data).2)
  else (.error (.invalidAddress address data.length), space)

theorem writeExactInPlace_eq :
    space.writeExactInPlace address data =
      match space.writeExact address data with
      | .ok later => (.ok (), later)
      | .error cause => (.error cause, space) := by
  unfold writeExactInPlace writeExact
  split <;> rfl

/-- The exact transfers and the check of a range agree: a read and a write of so many bytes are made
exactly if the range is in memory, and they fail exactly if a plain transfer would come to an end
before it has moved them all. A write that fails has changed nothing. -/
structure TransfersAgree (space : AddressSpace) (address : UInt32) (length : Nat) : Prop where
  reads_iff : (∃ bytes, space.readExact address length = .ok bytes) ↔
    space.covers address length = true
  writes_iff : ∀ data : Bytes, data.length = length →
    ((∃ later, space.writeExactInPlace address data = (.ok (), later)) ↔
      space.covers address length = true)
  read_fails_iff : space.readExact address length = .error (.invalidAddress address length) ↔
    (space.read address length).length < length
  write_fails_iff : ∀ data : Bytes, data.length = length →
    ((∃ later, space.writeExactInPlace address data =
        (.error (.invalidAddress address length), later)) ↔
      (space.write address data).1 < length)
  failed_write_inert : ∀ (data : Bytes) (cause : MemoryError) (later : AddressSpace),
    data.length = length → space.writeExactInPlace address data = (.error cause, later) →
      later = space

theorem covers_iff : space.covers address length = true ↔ address.toNat + length ≤ space.size :=
  decide_eq_true_iff

theorem room_lt_iff : space.room address length < length ↔
    length ≠ 0 ∧ space.size < address.toNat + length := by
  unfold room
  omega

theorem readExact_of_room (whole : ¬space.room address length < length) :
    space.readExact address length = .ok (space.read address length) := by
  have most : space.room address length ≤ length := Nat.min_le_left _ _
  unfold readExact
  exact if_pos (by rw [read_length]; omega)

theorem readExact_of_short (short : space.room address length < length) :
    space.readExact address length = .error (.invalidAddress address length) := by
  unfold readExact
  exact if_neg (by rw [read_length]; omega)

theorem readExact_of_holds (held : space.memory.Holds address.toNat data) :
    space.readExact address data.length = .ok data := by
  have inside : address.toNat + data.length ≤ space.size := held.inside
  have whole : space.room address data.length = data.length := by
    unfold room
    omega
  rw [readExact_of_room (by omega), AddressSpace.read, whole, held.bytes]

theorem writeExactInPlace_of_covers (inside : space.covers address data.length = true) :
    space.writeExactInPlace address data = (.ok (), (space.write address data).2) :=
  if_pos inside

theorem writeExactInPlace_of_not_covers (outside : ¬space.covers address data.length = true) :
    space.writeExactInPlace address data =
      (.error (.invalidAddress address data.length), space) :=
  if_neg outside

theorem readExact_isOk_iff :
    (∃ bytes, space.readExact address length = .ok bytes) ↔
      ¬space.room address length < length := by
  by_cases short : space.room address length < length
  · rw [readExact_of_short short]
    exact iff_of_false nofun (not_not_intro short)
  · exact iff_of_true ⟨_, readExact_of_room short⟩ short

theorem readExact_fails_iff :
    space.readExact address length = .error (.invalidAddress address length) ↔
      space.room address length < length := by
  by_cases short : space.room address length < length
  · exact iff_of_true (readExact_of_short short) short
  · rw [readExact_of_room short]
    exact iff_of_false nofun short

theorem writeExactInPlace_isOk_iff :
    (∃ later, space.writeExactInPlace address data = (.ok (), later)) ↔
      space.covers address data.length = true := by
  by_cases inside : space.covers address data.length = true
  · exact iff_of_true ⟨_, writeExactInPlace_of_covers inside⟩ inside
  · rw [writeExactInPlace_of_not_covers inside]
    exact iff_of_false nofun inside

theorem writeExactInPlace_fails_iff :
    (∃ later, space.writeExactInPlace address data =
        (.error (.invalidAddress address data.length), later)) ↔
      ¬space.covers address data.length = true := by
  by_cases inside : space.covers address data.length = true
  · rw [writeExactInPlace_of_covers inside]
    exact iff_of_false nofun (not_not_intro inside)
  · exact iff_of_true ⟨_, writeExactInPlace_of_not_covers inside⟩ inside

theorem writeExactInPlace_inert
    (failed : space.writeExactInPlace address data = (.error cause, later)) : later = space := by
  by_cases inside : space.covers address data.length = true
  · rw [writeExactInPlace_of_covers inside] at failed
    cases (Prod.mk.inj failed).1
  · rw [writeExactInPlace_of_not_covers inside] at failed
    exact (Prod.mk.inj failed).2.symm

theorem covers_iff_room (ordinary : ¬(length = 0 ∧ space.size < address.toNat)) :
    space.covers address length = true ↔ ¬space.room address length < length := by
  rw [covers_iff, room_lt_iff]
  omega

/-- The exact transfers and the check of a range agree on every range, except on an empty one that
starts past the end of memory. -/
theorem exact_transfers_agree_iff :
    space.TransfersAgree address length ↔ ¬(length = 0 ∧ space.size < address.toNat) := by
  constructor
  · rintro agree ⟨rfl, past⟩
    have read := @readExact_of_room space address 0 (Nat.not_lt_zero _)
    have inside := covers_iff.mp (agree.reads_iff.mp ⟨_, read⟩)
    omega
  · intro ordinary
    have same := covers_iff_room ordinary
    constructor
    · rw [readExact_isOk_iff, same]
    · rintro data rfl
      exact writeExactInPlace_isOk_iff
    · rw [readExact_fails_iff, read_length]
    · rintro data rfl
      rw [writeExactInPlace_fails_iff, same, Decidable.not_not]
      rfl
    · rintro data cause later - failed
      exact writeExactInPlace_inert failed

/-- One address past the end of a space of three pages nothing can be read, and that is no failure;
but writing nothing there is one, although no byte is left over. -/
theorem empty_write_past_end_fails :
    let space : AddressSpace := ⟨.zeros 3, 1, 1⟩
    ¬space.TransfersAgree 3073 0 ∧
      space.readExact 3073 0 = .ok [] ∧
      space.covers 3073 0 = false ∧ (space.write 3073 []).1 = 0 ∧
      space.writeExact 3073 [] = .error (.invalidAddress 3073 0) := by
  intro space
  have outside : ¬space.covers 3073 0 = true := by decide
  have read : space.readExact 3073 0 = .ok [] := rfl
  exact ⟨fun agree => outside (agree.reads_iff.mp ⟨[], read⟩), read,
    Bool.eq_false_iff.mpr outside, rfl, if_neg outside⟩

end Minikernel.AddressSpace
