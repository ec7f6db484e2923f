import Minikernel.Proofs.Kernel.ArgumentPassing

/-!
Walking along an array of pointers. Every pointer that was read lies in memory, and memory ends at
least a page before the addresses do, so the address of the next one can still be formed. A walk
that is too long comes to the end of memory first and fails there, however many pointers were asked
for, and it does not matter whether its arithmetic wraps around.
-/

namespace Minikernel

namespace Arguments

variable {space : AddressSpace} {pointers : UInt32} {index count : Nat} {arguments : Arguments}

inductive Overflow where
  | product (index : Nat)
  | sum (index : Nat)
deriving DecidableEq

/-- The address of a pointer in arithmetic that does not wrap around. -/
def exactSlot (pointers : UInt32) (index : Nat) : Except Overflow UInt32 :=
  if index * Limits.pointerSize < UInt32.size then
    if pointers.toNat + index * Limits.pointerSize < UInt32.size then
      .ok (pointers + UInt32.ofNat (index * Limits.pointerSize))
    else .error (.sum index)
  else .error (.product index)

def argumentAt? (space : AddressSpace) (slot : UInt32) : Option Bytes := do
  let pointer ← (space.readWord slot).toOption
  space.stringAt? pointer

/-- The walk that ends with the first overflow, if there is one before a read fails. -/
def readEachExactly (space : AddressSpace) (pointers : UInt32) :
    Nat → Nat → Except Overflow (Option Arguments)
  | _, 0 => .ok (some [])
  | index, count + 1 => do
      let slot ← exactSlot pointers index
      match argumentAt? space slot with
      | none => return none
      | some argument =>
          let rest ← readEachExactly space pointers (index + 1) count
          return rest.map (argument :: ·)

/-- The pointers before an index are in memory, as they are when all of them were read. -/
def Reached (space : AddressSpace) (pointers : UInt32) (index : Nat) : Prop :=
  index = 0 ∨ pointers.toNat + index * Limits.pointerSize ≤ space.size

theorem Reached.fits (reached : Reached space pointers index)
    (small : space.size < UInt32.size) :
    pointers.toNat + index * Limits.pointerSize < UInt32.size := by
  rcases reached with first | inside
  · subst first
    have bound := pointers.toNat_lt_size
    omega
  · omega

theorem Reached.toNat_slot (reached : Reached space pointers index)
    (small : space.size < UInt32.size) :
    (pointers + UInt32.ofNat (index * Limits.pointerSize)).toNat =
      pointers.toNat + index * Limits.pointerSize :=
  toNat_advance (reached.fits small)

theorem Reached.exactSlot_eq (reached : Reached space pointers index)
    (small : space.size < UInt32.size) :
    exactSlot pointers index = .ok (pointers + UInt32.ofNat (index * Limits.pointerSize)) := by
  have fits := reached.fits small
  have product : index * Limits.pointerSize < UInt32.size := by omega
  rw [exactSlot, if_pos product, if_pos fits]

theorem inside_of_argumentAt? {slot : UInt32} {argument : Bytes}
    (found : argumentAt? space slot = some argument) : slot.toNat + 4 ≤ space.size := by
  obtain ⟨pointer, read, -⟩ := Option.bind_eq_some_iff.mp found
  have word : space.readWord slot = .ok pointer := by
    cases outcome : space.readWord slot with
    | error cause => simp [outcome, Except.toOption] at read
    | ok value => simpa [outcome, Except.toOption] using read
  have inside := (AddressSpace.readWord_eq_ok_iff.mp word).inside
  rwa [Bytes.ofWord_length] at inside

theorem Reached.next {argument : Bytes} (reached : Reached space pointers index)
    (small : space.size < UInt32.size)
    (found : argumentAt? space (pointers + UInt32.ofNat (index * Limits.pointerSize)) =
      some argument) : Reached space pointers (index + 1) := by
  have inside := inside_of_argumentAt? found
  rw [reached.toNat_slot small] at inside
  have four : Limits.pointerSize = 4 := rfl
  right
  rw [four] at inside ⊢
  omega

theorem readEach_succ :
    readEach space pointers index (count + 1) =
      (argumentAt? space (pointers + UInt32.ofNat (index * Limits.pointerSize))).bind
        fun argument => (readEach space pointers (index + 1) count).map (argument :: ·) := by
  rw [readEach, argumentAt?]
  simp only [Option.bind_eq_bind, Option.pure_def, Option.bind_assoc, Option.map_eq_bind]
  rfl

theorem readEachExactly_eq (small : space.size < UInt32.size)
    (reached : Reached space pointers index) :
    readEachExactly space pointers index count = .ok (readEach space pointers index count) := by
  induction count generalizing index with
  | zero => rfl
  | succ count ih =>
      have exactly := reached.exactSlot_eq small
      have next : ∀ argument,
          argumentAt? space (pointers + UInt32.ofNat (index * Limits.pointerSize)) = some argument →
            Reached space pointers (index + 1) := fun argument => reached.next small
      rw [readEachExactly, readEach_succ, exactly]
      generalize pointers + UInt32.ofNat (index * Limits.pointerSize) = slot at next
      cases found : argumentAt? space slot with
      | none => simp [found, bind, Except.bind, pure, Except.pure]
      | some argument =>
          have later := ih (next argument found)
          simp [found, later, bind, Except.bind, pure, Except.pure]

theorem reached_of_readEach (small : space.size < UInt32.size)
    (reached : Reached space pointers index)
    (read : readEach space pointers index count = some arguments) :
    arguments.length = count ∧ Reached space pointers (index + count) := by
  induction count generalizing index arguments with
  | zero =>
      cases read
      exact ⟨rfl, reached⟩
  | succ count ih =>
      rw [readEach_succ] at read
      obtain ⟨argument, found, read⟩ := Option.bind_eq_some_iff.mp read
      obtain ⟨rest, others, rfl⟩ := Option.map_eq_some_iff.mp read
      obtain ⟨length, further⟩ := ih (reached.next small found) others
      refine ⟨by rw [List.length_cons, length], ?_⟩
      rwa [Nat.add_assoc, Nat.add_comm 1 count] at further

end Arguments

theorem AddressSpace.size_le_of_create {pool left : FramePool} {code stack : UInt64}
    {space : AddressSpace} (created : create pool code stack = .ok (space, left)) :
    space.size ≤ 2 ^ 32 - 1024 := by
  obtain ⟨small, size⟩ := create_size created
  have page : Limits.pageSize = 1024 := rfl
  have limit : UInt32.size = 2 ^ 32 := rfl
  rw [page] at size
  rw [limit] at small
  omega

namespace Kernel

open Arguments

theorem toNat_toUInt32_of_natural {count : Int32} (natural : 0 ≤ count) :
    count.toUInt32.toNat = count.toInt.toNat := by
  have lower := Int32.le_iff_toInt_le.mp natural
  have same : count.toInt = if 2 * count.toUInt32.toNat < 2 ^ 32 then
      (count.toUInt32.toNat : Int) else count.toUInt32.toNat - (2 ^ 32 : Nat) :=
    BitVec.toInt_eq_toNat_cond count.toBitVec
  have bound := count.toUInt32.toNat_lt
  have zero : (0 : Int32).toInt = 0 := rfl
  split at same <;> omega

theorem execRequest?_eq_unmarshal {context : Context} {name pointers : UInt32} {count : Int32}
    (natural : 0 ≤ count) (few : count ≤ 204) :
    execRequest? context name count pointers =
      (userText? context name).bind fun text =>
        (unmarshal context.space ⟨count.toUInt32, pointers⟩).map fun arguments =>
          (text, arguments) := by
  have most : count.toInt ≤ Limits.maxArguments := Int32.le_iff_toInt_le.mp few
  have counted : 0 ≤ count ∧ count.toInt ≤ Limits.maxArguments := ⟨natural, most⟩
  unfold execRequest? unmarshal
  rw [userArguments?_eq_readEach, toNat_toUInt32_of_natural natural]
  cases userText? context name with
  | none => rfl
  | some text =>
      simp only [guard, if_pos counted, Option.bind_eq_bind, Option.bind_some, Option.map_eq_bind]
      rfl

/-- In every space that was created, whatever was written to it, a walk along pointers never has an
address to form that 32 bits are too few for, whether it ends with the arguments or before them. If
it ends with them they are as many as were asked for and their pointers are in memory, and an exec
reads the same arguments from there or fails with it. -/
theorem walks_never_wrap {pool left : FramePool} {code stack : UInt64} {fresh space : AddressSpace}
    (created : AddressSpace.create pool code stack = .ok (fresh, left))
    (same : space.SameShape fresh) :
    space.size ≤ 2 ^ 32 - 1024 ∧ ∀ layout : ArgumentLayout,
      (∀ index < layout.count.toNat, (readEach space layout.pointers 0 index).isSome →
        index * 4 < 2 ^ 32 ∧ layout.pointers.toNat + index * 4 < 2 ^ 32) ∧
      readEachExactly space layout.pointers 0 layout.count.toNat = .ok (unmarshal space layout) ∧
      (∀ arguments, unmarshal space layout = some arguments →
        arguments.length = layout.count.toNat ∧
          (0 < layout.count → layout.pointers.toNat + 4 * layout.count.toNat ≤ space.size)) ∧
      userArguments? space layout.pointers layout.count.toNat = unmarshal space layout ∧
      ∀ (context : Context) (name : UInt32) (count : Int32), context.space = space →
        0 ≤ count ∧ count ≤ 204 → count.toUInt32 = layout.count →
          execRequest? context name count layout.pointers =
            (userText? context name).bind fun text =>
              (unmarshal space layout).map fun arguments => (text, arguments) := by
  have most : space.size ≤ 2 ^ 32 - 1024 := by
    rw [same.size]
    exact AddressSpace.size_le_of_create created
  have limit : UInt32.size = 2 ^ 32 := rfl
  have small : space.size < UInt32.size := by omega
  refine ⟨most, ?_⟩
  intro layout
  have begun : Reached space layout.pointers 0 := .inl rfl
  have exactly : readEachExactly space layout.pointers 0 layout.count.toNat =
      .ok (unmarshal space layout) := readEachExactly_eq small begun
  refine ⟨?_, exactly, ?_, userArguments?_eq_readEach _ _ _, ?_⟩
  · intro index below walked
    obtain ⟨arguments, read⟩ := Option.isSome_iff_exists.mp walked
    have reached := (reached_of_readEach small begun read).2
    rw [Nat.zero_add] at reached
    have fits := reached.fits small
    have four : Limits.pointerSize = 4 := rfl
    rw [four, limit] at fits
    omega
  · intro arguments read
    obtain ⟨length, reached⟩ := reached_of_readEach small begun read
    refine ⟨length, fun asked => ?_⟩
    have positive : 0 < layout.count.toNat := UInt32.lt_iff_toNat_lt.mp asked
    have four : Limits.pointerSize = 4 := rfl
    rw [Nat.zero_add] at reached
    rcases reached with nothing | inside
    · omega
    · rw [four] at inside
      omega
  · rintro context name count rfl ⟨natural, few⟩ counted
    rw [execRequest?_eq_unmarshal natural few, counted]

-- Memory of zeros is full of pointers to the empty string at address zero. Two of them lie between
-- 3064 and the end, and that is where a walk ends that was to take four billion.
theorem long_walk_ends_with_memory :
    let space : AddressSpace := ⟨.zeros 3, 1, 1⟩
    (∃ left, AddressSpace.create (.ofSize 8) 1 1 = .ok (space, left)) ∧ space.SameShape space ∧
      unmarshal space ⟨2, 3064⟩ = some [[], []] ∧
      userArguments? space 3064 2 = some [[], []] ∧
      readEachExactly space 3064 0 4294967295 = .ok none := by
  intro space
  obtain ⟨left, created⟩ : ∃ left, AddressSpace.create (.ofSize 8) 1 1 = .ok (space, left) :=
    AddressSpace.create_of_room (by decide) (by decide)
  obtain ⟨-, walks⟩ := walks_never_wrap created (.refl space)
  obtain ⟨-, -, -, asked, -⟩ := walks ⟨2, 3064⟩
  obtain ⟨-, exactly, complete, -, -⟩ := walks ⟨4294967295, 3064⟩
  have two : unmarshal space ⟨2, 3064⟩ = some [[], []] := by decide +kernel
  have size : space.size = 3072 := Pages.zeros_size 3
  have short : unmarshal space ⟨4294967295, 3064⟩ = none := by
    rw [Option.eq_none_iff_forall_ne_some]
    intro arguments read
    have inside := (complete arguments read).2 (by decide)
    rw [size] at inside
    exact absurd inside (by decide)
  rw [short] at exactly
  exact ⟨⟨_, created⟩, .refl space, two, asked.trans two, exactly⟩

end Kernel

end Minikernel
