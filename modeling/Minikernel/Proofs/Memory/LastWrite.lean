import Mathlib.Algebra.GroupWithZero.Nat
import Minikernel.Proofs.Memory.ExactTransfer

/-!
Memory as an array of bytes in which the last write counts. A plain write stores what lies below
the end of memory and an exact one all of its bytes or none, so after any writes each byte is that
of the latest write which stored one there. Reads see just these bytes, and a string is what they
show up to their first zero; only a limit for which there is no block to search in has no answer.
-/

namespace Minikernel.AddressSpace

variable {space : AddressSpace} {index start stop : Nat} {text : Bytes}

inductive Write where
  | plain (address : UInt32) (data : Bytes)
  | exact (address : UInt32) (data : Bytes)
  | word (address value : UInt32)

namespace Write

def address : Write → UInt32
  | plain address _ => address
  | exact address _ => address
  | word address _ => address

def stored (size : Nat) : Write → Bytes
  | plain address data => data.take (size - address.toNat)
  | exact address data => if address.toNat + data.length ≤ size then data else []
  | word address value => if address.toNat + 4 ≤ size then Bytes.ofWord value else []

def byteAt? (size : Nat) (write : Write) (index : Nat) : Option UInt8 :=
  if write.address.toNat ≤ index then (write.stored size)[index - write.address.toNat]? else none

end Write

variable {address : UInt32} {writes : List Write}

def make (space : AddressSpace) : Write → AddressSpace
  | .plain address data => (space.write address data).2
  | .exact address data => (space.writeExactInPlace address data).2
  | .word address value => (space.writeExactInPlace address (Bytes.ofWord value)).2

def makeAll (space : AddressSpace) : List Write → AddressSpace
  | [] => space
  | write :: rest => (space.make write).makeAll rest

/-- The byte of the latest write that stored one at an index, or the byte that was there before. -/
def latest (space : AddressSpace) (writes : List Write) (index : Nat) : UInt8 :=
  (writes.reverse.findSome? fun write => write.byteAt? space.size index).getD
    (space.memory.byte index)

theorem writeExactInPlace_size (space : AddressSpace) (address : UInt32) (data : Bytes) :
    (space.writeExactInPlace address data).2.size = space.size := by
  unfold writeExactInPlace
  split
  · exact overlaid_size _ _
  · rfl

theorem make_size (space : AddressSpace) (write : Write) :
    (space.make write).size = space.size := by
  cases write with
  | plain address data => exact overlaid_size _ _
  | exact address data => exact writeExactInPlace_size _ _ _
  | word address value => exact writeExactInPlace_size _ _ _

theorem byte_write {data : Bytes} (inside : index < space.size) :
    (space.write address data).2.memory.byte index =
      (if address.toNat ≤ index then
        (data.take (space.size - address.toNat))[index - address.toNat]?
        else none).getD (space.memory.byte index) := by
  refine (Pages.byte_overlay _ _ _ _ inside).trans ?_
  by_cases before : address.toNat ≤ index
  · rw [if_pos before]
    by_cases covered : index < address.toNat + data.length
    · have bound : index - address.toNat < data.length := by omega
      have below : index - address.toNat < space.size - address.toNat := by omega
      rw [if_pos ⟨before, covered⟩, List.getElem?_take_of_lt below, List.getD_eq_getElem?_getD,
        List.getElem?_eq_getElem bound]
      rfl
    · have past : data.length ≤ index - address.toNat := by omega
      have none : (data.take (space.size - address.toNat))[index - address.toNat]? = none := by
        rw [List.getElem?_eq_none_iff, List.length_take]
        omega
      rw [if_neg (fun both => covered both.2), none]
      rfl
  · rw [if_neg (fun both => before both.1), if_neg before]
    rfl

theorem byte_writeExactInPlace {data : Bytes} (inside : index < space.size) :
    (space.writeExactInPlace address data).2.memory.byte index =
      (if address.toNat ≤ index then
        (if address.toNat + data.length ≤ space.size then data else [])[index - address.toNat]?
        else none).getD (space.memory.byte index) := by
  by_cases fits : address.toNat + data.length ≤ space.size
  · have whole : data.take (space.size - address.toNat) = data :=
      List.take_of_length_le (by omega)
    rw [writeExactInPlace_of_covers (covers_iff.mpr fits), if_pos fits, byte_write inside, whole]
  · rw [writeExactInPlace_of_not_covers (mt covers_iff.mp fits), if_neg fits]
    simp

theorem byte_make (write : Write) (inside : index < space.size) :
    (space.make write).memory.byte index =
      (write.byteAt? space.size index).getD (space.memory.byte index) := by
  cases write with
  | plain address data => exact byte_write inside
  | exact address data => exact byte_writeExactInPlace inside
  | word address value => exact byte_writeExactInPlace inside

theorem makeAll_size (space : AddressSpace) (writes : List Write) :
    (space.makeAll writes).size = space.size := by
  induction writes generalizing space with
  | nil => rfl
  | cons write rest ih => exact (ih _).trans (make_size _ _)

theorem latest_cons (write : Write) (rest : List Write) (inside : index < space.size) :
    space.latest (write :: rest) index = (space.make write).latest rest index := by
  unfold latest
  rw [make_size, byte_make write inside, List.reverse_cons, List.findSome?_append]
  cases rest.reverse.findSome? fun write => write.byteAt? space.size index <;> simp

theorem byte_makeAll (writes : List Write) (inside : index < space.size) :
    (space.makeAll writes).memory.byte index = space.latest writes index := by
  induction writes generalizing space with
  | nil => rfl
  | cons write rest ih =>
      rw [latest_cons write rest inside]
      exact ih (by rwa [make_size])

structure EndsAt (bytes : Nat → UInt8) (size start stop : Nat) : Prop where
  after : start ≤ stop
  inside : stop < size
  zero : bytes stop = 0
  first : ∀ index, start ≤ index → index < stop → bytes index ≠ 0

theorem EndsAt.congr {bytes other : Nat → UInt8} {size : Nat}
    (same : ∀ index < size, bytes index = other index) (ends : EndsAt bytes size start stop) :
    EndsAt other size start stop := by
  refine ⟨ends.after, ends.inside, (same stop ends.inside).symm.trans ends.zero, ?_⟩
  intro index lower upper
  rw [← same index (Nat.lt_trans upper ends.inside)]
  exact ends.first index lower upper

theorem holdsString_iff :
    space.HoldsString address text ↔ ∃ stop,
      EndsAt space.memory.byte space.size address.toNat stop ∧
        text = (List.range' address.toNat (stop - address.toNat)).map space.memory.byte := by
  constructor
  · rintro ⟨noZero, held⟩
    obtain ⟨front, back⟩ := Pages.holds_append_iff.mp held
    have below : address.toNat + text.length + 1 ≤ space.size := back.inside
    have shown : (List.range' address.toNat text.length).map space.memory.byte = text :=
      front.bytes
    refine ⟨address.toNat + text.length, ⟨by omega, by omega, ?_, ?_⟩, ?_⟩
    · exact (List.cons.inj back.bytes).1
    · intro index lower upper zero
      apply noZero
      rw [← shown, ← zero]
      exact List.mem_map_of_mem (List.mem_range'_1.mpr ⟨lower, upper⟩)
    · rw [Nat.add_sub_cancel_left, shown]
  · rintro ⟨stop, ends, rfl⟩
    have after := ends.after
    have inside := ends.inside
    have length : ((List.range' address.toNat (stop - address.toNat)).map
        space.memory.byte).length = stop - address.toNat := by
      rw [List.length_map, List.length_range']
    constructor
    · intro zero
      obtain ⟨index, member, same⟩ := List.mem_map.mp zero
      obtain ⟨lower, upper⟩ := List.mem_range'_1.mp member
      exact ends.first index lower (by omega) same
    · have place : address.toNat + (stop - address.toNat) = stop := by omega
      refine Pages.holds_append_iff.mpr ⟨⟨?_, ?_⟩, ⟨?_, ?_⟩⟩
      · rw [length, place]
        exact Nat.le_of_lt inside
      · rw [length]
        rfl
      · rw [length, place]
        exact inside
      · rw [length, place]
        exact congrArg (fun byte => [byte]) ends.zero

theorem readString_eq_some_iff_endsAt {limit : Nat} (small : limit < Limits.maxBlock) :
    space.readString address limit = .ok (some text) ↔ ∃ stop,
      EndsAt space.memory.byte space.size address.toNat stop ∧
        stop < address.toNat + (limit + 1) ∧
        text = (List.range' address.toNat (stop - address.toNat)).map space.memory.byte := by
  rw [readString_eq_some_iff small, holdsString_iff]
  constructor
  · rintro ⟨short, stop, ends, rfl⟩
    have after := ends.after
    rw [List.length_map, List.length_range'] at short
    exact ⟨stop, ends, by omega, rfl⟩
  · rintro ⟨stop, ends, near, rfl⟩
    have after := ends.after
    refine ⟨?_, stop, ends, rfl⟩
    rw [List.length_map, List.length_range']
    omega

theorem endsAt_makeAll :
    EndsAt (space.makeAll writes).memory.byte (space.makeAll writes).size start stop ↔
      EndsAt (space.latest writes) space.size start stop := by
  rw [makeAll_size]
  exact ⟨.congr fun index inside => byte_makeAll writes inside,
    .congr fun index inside => (byte_makeAll writes inside).symm⟩

theorem map_byte_makeAll {count : Nat} (inside : start + count ≤ space.size ∨ count = 0) :
    (List.range' start count).map (space.makeAll writes).memory.byte =
      (List.range' start count).map (space.latest writes) := by
  refine List.map_congr_left fun index member => byte_makeAll writes ?_
  obtain ⟨lower, upper⟩ := List.mem_range'_1.mp member
  omega

theorem read_makeAll (space : AddressSpace) (writes : List Write) (address : UInt32)
    (length : Nat) :
    (space.makeAll writes).read address length =
      (List.range' address.toNat (min length (space.size - address.toNat))).map
        (space.latest writes) := by
  rw [AddressSpace.read, room, makeAll_size]
  exact map_byte_makeAll (by omega)

/-- A search for a string gives an answer. There is a string if the first zero from the address on
lies in memory and among the first `limit + 1` bytes, and it is the bytes before that zero. -/
def FindsStrings (space : AddressSpace) (writes : List Write) (address : UInt32)
    (limit : UInt64) : Prop :=
  ∃ found, (space.makeAll writes).readString address limit.toNat = .ok found ∧
    ∀ text, found = some text ↔ ∃ stop,
      EndsAt (space.latest writes) space.size address.toNat stop ∧
        stop < address.toNat + (limit.toNat + 1) ∧
        text = (List.range' address.toNat (stop - address.toNat)).map (space.latest writes)

theorem readString_makeAll_iff {limit : Nat} (small : limit < Limits.maxBlock) :
    (space.makeAll writes).readString address limit = .ok (some text) ↔ ∃ stop,
      EndsAt (space.latest writes) space.size address.toNat stop ∧
        stop < address.toNat + (limit + 1) ∧
        text = (List.range' address.toNat (stop - address.toNat)).map (space.latest writes) := by
  rw [readString_eq_some_iff_endsAt small]
  refine exists_congr fun stop => ?_
  rw [endsAt_makeAll]
  refine and_congr_right fun ends => ?_
  have after := ends.after
  have inside := ends.inside
  rw [map_byte_makeAll (by omega)]

theorem findsStrings_iff {limit : UInt64} :
    space.FindsStrings writes address limit ↔ limit.toNat + 1 < 2 ^ 63 := by
  have block : Limits.maxBlock = 2 ^ 63 - 1 := rfl
  constructor
  · rintro ⟨found, answered, -⟩
    refine Nat.lt_of_not_le fun large => ?_
    rw [readString_of_large (by omega)] at answered
    cases answered
  · intro bound
    have small : limit.toNat < Limits.maxBlock := by omega
    obtain ⟨found, answered⟩ := readString_of_small (space.makeAll writes) address small
    refine ⟨found, answered, fun text => ?_⟩
    rw [← readString_makeAll_iff small, answered, Except.ok.injEq]

structure StoresPrefix (space : AddressSpace) (address : UInt32) (data : Bytes) : Prop where
  count : (space.write address data).1 = (data.take (space.size - address.toNat)).length
  stored : (space.write address data).2.read address data.length =
    data.take (space.size - address.toNat)
  others : (space.write address data).2.SameOutside space address.toNat
    (data.take (space.size - address.toNat)).length

theorem write_storesPrefix (space : AddressSpace) (address : UInt32) (data : Bytes) :
    space.StoresPrefix address data := by
  have length : (data.take (space.size - address.toNat)).length =
      min (space.size - address.toNat) data.length := List.length_take
  have size : (space.write address data).2.size = space.size := overlaid_size _ _
  refine ⟨?_, List.ext_getElem ?_ ?_, ⟨rfl, rfl, size⟩, ?_⟩
  · rw [length]
    exact Nat.min_comm _ _
  · rw [read_length, room, size, length]
    exact Nat.min_comm _ _
  · intro offset bound within
    have inside : address.toNat + offset < space.size := by omega
    have byte := @byte_write space (address.toNat + offset) address data inside
    rw [if_pos (Nat.le_add_right _ _), Nat.add_sub_cancel_left,
      List.getElem?_eq_getElem within] at byte
    simpa [AddressSpace.read, Pages.read] using byte
  · intro index inside outside
    have byte := @byte_write space index address data inside
    rcases outside with before | past
    · rwa [if_neg (Nat.not_le.mpr before)] at byte
    · have none : (data.take (space.size - address.toNat))[index - address.toNat]? = none :=
        List.getElem?_eq_none_iff.mpr (by omega)
      rw [if_pos (by omega), none] at byte
      exact byte

/-- Memory is an array of bytes in which the last write counts, and strings are found in it by their
first zero, as long as a block of `limit + 1` bytes can be asked for. -/
structure LastWriteWins (space : AddressSpace) (writes : List Write) : Prop where
  size : (space.makeAll writes).size = space.size
  stores : ∀ address data, (space.makeAll writes).StoresPrefix address data
  reads : ∀ address length, (space.makeAll writes).read address length =
    (List.range' address.toNat (min length (space.size - address.toNat))).map
      (space.latest writes)
  strings_iff : ∀ address limit, space.FindsStrings writes address limit ↔
    limit.toNat + 1 < 2 ^ 63

theorem memory_is_last_write_wins (space : AddressSpace) (writes : List Write) :
    space.LastWriteWins writes := by
  constructor
  · exact makeAll_size space writes
  · intro address data
    exact write_storesPrefix _ address data
  · exact read_makeAll space writes
  · intro address limit
    exact findsStrings_iff

/-- A string of two bytes is read back under a limit of 256 bytes. Under the largest limit that
there is, the search stops. -/
theorem largest_limit_stops :
    let space : AddressSpace := ⟨.zeros 3, 1, 1⟩
    let writes : List Write := [.plain 100 [104, 105]]
    create (.ofSize 8) 1 1 = .ok (space, ⟨8, 3, by decide⟩) ∧
      (space.makeAll writes).readString 100 256 = .ok (some [104, 105]) ∧
      (space.makeAll writes).readString 100 18446744073709551615 = .error .overflow ∧
      ¬space.FindsStrings writes 100 18446744073709551615 := by
  intro space writes
  have ends : EndsAt (space.latest writes) space.size 100 102 := by
    refine ⟨by decide, by decide, by decide, fun index lower upper => ?_⟩
    obtain rfl | rfl : index = 100 ∨ index = 101 := by omega
    · decide
    · decide
  refine ⟨create_eq_ok_iff.mpr ⟨by decide, rfl, rfl⟩, ?_, readString_of_large (by decide),
    fun finds => absurd (findsStrings_iff.mp finds) (by decide)⟩
  exact (readString_makeAll_iff (by decide)).mpr ⟨102, ends, by decide, by decide⟩

end Minikernel.AddressSpace
