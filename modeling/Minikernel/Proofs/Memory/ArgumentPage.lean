import Minikernel.Proofs.Memory.Filling
import Mathlib.Data.List.Forall2

/-!
The layout of arguments in the last page. Pointers and strings are written turn by turn, but the
two areas do not meet, and so what lies there in the end is a single run of bytes from the start of
the page. Reading follows the pointers, and finds the arguments that were laid out.
-/

namespace Minikernel

namespace AddressSpace

variable {space later : AddressSpace}

structure ArgumentsLast (space : AddressSpace) : Prop where
  small : space.size < UInt32.size
  last : space.argumentPage.toNat + Limits.pageSize = space.size

theorem create_argumentsLast {pool taken : FramePool} {code stack : UInt64}
    (created : create pool code stack = .ok (space, taken)) : space.ArgumentsLast := by
  obtain ⟨small, size⟩ := create_size created
  obtain ⟨-, start, -⟩ := create_stack created (.refl space)
  refine ⟨small, ?_⟩
  rw [argumentPage, start, size, Nat.add_mul _ 1, Nat.one_mul]

theorem SameShape.argumentsLast (same : later.SameShape space) (last : space.ArgumentsLast) :
    later.ArgumentsLast := by
  obtain ⟨small, last⟩ := last
  rw [← same.size, ← same.argumentPage] at *
  exact ⟨small, last⟩

/-- The pointer at a place in an array leads to a string that is short enough to be passed on. -/
def HoldsArgument (space : AddressSpace) (pointers : UInt32) (index : Nat) (text : Bytes) : Prop :=
  ∃ pointer,
    space.memory.Holds (pointers + UInt32.ofNat (index * Limits.pointerSize)).toNat
      (Bytes.ofWord pointer) ∧
    text.length ≤ Limits.maxStringLength ∧ space.HoldsString pointer text

theorem holdsArgument_iff {pointers : UInt32} {index : Nat} {text : Bytes} :
    space.HoldsArgument pointers index text ↔
      ∃ pointer,
        (space.readWord (pointers + UInt32.ofNat (index * Limits.pointerSize))).toOption =
          some pointer ∧
        space.stringAt? pointer = some text := by
  refine exists_congr fun pointer => and_congr ?_ stringAt?_eq_some_iff.symm
  rw [← readWord_eq_ok_iff]
  cases space.readWord _ <;> simp [Except.toOption]

end AddressSpace

namespace Arguments

variable {arguments : Arguments} {space later : AddressSpace} {layout : ArgumentLayout}

theorem checkEach_eq_ok_iff {index : Nat} :
    arguments.checkEach index = .ok () ↔
      ∀ argument ∈ arguments, argument.length ≤ Limits.maxStringLength ∧ 0 ∉ argument := by
  induction arguments generalizing index with
  | nil => simp [checkEach]
  | cons argument rest ih =>
      rw [checkEach, List.forall_mem_cons, ← @ih (index + 1)]
      by_cases long : argument.length > Limits.maxStringLength
      · rw [if_pos long]
        exact iff_of_false nofun fun fits => Nat.not_le_of_gt long fits.1.1
      · rw [if_neg long]
        by_cases zero : 0 ∈ argument
        · rw [if_pos zero]
          exact iff_of_false nofun fun fits => fits.1.2 zero
        · rw [if_neg zero]
          exact ⟨fun checked => ⟨⟨Nat.le_of_not_gt long, zero⟩, checked⟩, And.right⟩

theorem validate_eq_ok_iff :
    arguments.validate = .ok () ↔
      arguments.length ≤ Limits.maxArguments ∧
        (∀ argument ∈ arguments, argument.length ≤ Limits.maxStringLength ∧ 0 ∉ argument) ∧
        arguments.layoutSize ≤ Limits.pageSize := by
  unfold validate
  rw [← @checkEach_eq_ok_iff arguments 0]
  by_cases many : arguments.length > Limits.maxArguments
  · rw [if_pos many]
    exact iff_of_false nofun fun fits => Nat.not_le_of_gt many fits.1
  · rw [if_neg many]
    by_cases large : arguments.layoutSize > Limits.pageSize
    · rw [if_pos large]
      refine iff_of_false ?_ fun fits => Nat.not_le_of_gt large fits.2.2
      intro checked
      obtain ⟨⟨⟩, -, refused⟩ := bind_eq_ok_iff.mp checked
      cases refused
    · rw [if_neg large]
      constructor
      · intro checked
        obtain ⟨⟨⟩, each, -⟩ := bind_eq_ok_iff.mp checked
        exact ⟨Nat.le_of_not_gt many, each, Nat.le_of_not_gt large⟩
      · rintro ⟨-, each, -⟩
        exact bind_eq_ok_iff.mpr ⟨(), each, rfl⟩

def pointerArea (target : UInt32) : Arguments → Bytes
  | [] => []
  | argument :: rest =>
      Bytes.ofWord target ++ pointerArea (target + UInt32.ofNat argument.length + 1) rest

def stringArea : Arguments → Bytes
  | [] => []
  | argument :: rest => (argument ++ [0]) ++ stringArea rest

theorem pointerArea_length (target : UInt32) :
    (pointerArea target arguments).length = arguments.length * Limits.pointerSize := by
  induction arguments generalizing target with
  | nil => rfl
  | cons argument rest ih =>
      rw [pointerArea, List.length_append, Bytes.ofWord_length, ih, List.length_cons, Nat.add_mul,
        Nat.add_comm]
      rfl

theorem areas_length :
    arguments.length * Limits.pointerSize + arguments.stringArea.length = arguments.layoutSize := by
  induction arguments with
  | nil => rfl
  | cons argument rest ih =>
      simp only [stringArea, layoutSize, List.length_append, List.length_cons, List.length_nil,
        Nat.add_mul]
      omega

def laidOut (base : UInt32) (arguments : Arguments) : Bytes :=
  pointerArea (base + UInt32.ofNat (arguments.length * Limits.pointerSize)) arguments ++
    stringArea arguments

theorem laidOut_length (base : UInt32) :
    (arguments.laidOut base).length = arguments.layoutSize := by
  rw [laidOut, List.length_append, pointerArea_length, areas_length]

theorem toNat_next {target : UInt32} {length : Nat}
    (room : target.toNat + length + 1 < UInt32.size) :
    (target + UInt32.ofNat length + 1).toNat = target.toNat + length + 1 := by
  have first : (target + UInt32.ofNat length).toNat = target.toNat + length :=
    toNat_advance (by omega)
  rw [← first] at room ⊢
  exact toNat_advance room

theorem writeEach_cons {pointer target : UInt32} {argument : Bytes} {rest : Arguments}
    (small : space.size < UInt32.size)
    (slot : pointer.toNat + Limits.pointerSize ≤ space.size)
    (room : target.toNat + argument.length + 1 ≤ space.size) :
    writeEach pointer target (argument :: rest) space =
      writeEach (pointer + UInt32.ofNat Limits.pointerSize)
        (target + UInt32.ofNat argument.length + 1) rest
        ((space.overlaid pointer.toNat (Bytes.ofWord target)).overlaid target.toNat
          (argument ++ [0])) := by
  have closing : (target + UInt32.ofNat argument.length).toNat =
      target.toNat + argument.length := toNat_advance (by omega)
  have linked : space.writeWord pointer target =
      .ok (space.overlaid pointer.toNat (Bytes.ofWord target)) :=
    AddressSpace.writeExact_eq_ok_iff.mpr ⟨by rwa [Bytes.ofWord_length], rfl⟩
  generalize isFirst : space.overlaid pointer.toNat (Bytes.ofWord target) = first at linked ⊢
  have firstSize : first.size = space.size := by rw [← isFirst, AddressSpace.overlaid_size]
  have copied : first.writeExact target argument =
      .ok (first.overlaid target.toNat argument) :=
    AddressSpace.writeExact_eq_ok_iff.mpr ⟨by omega, rfl⟩
  have closed : (first.overlaid target.toNat argument).writeExact
      (target + UInt32.ofNat argument.length) [0] =
        .ok (first.overlaid target.toNat (argument ++ [0])) := by
    refine AddressSpace.writeExact_eq_ok_iff.mpr ⟨?_, ?_⟩
    · rw [closing, AddressSpace.overlaid_size, firstSize]
      exact room
    · rw [closing, AddressSpace.overlaid_append]
  simp only [writeEach, linked, copied, closed, bind, Except.bind]

theorem writeEach_of_room {pointer target : UInt32} (small : space.size < UInt32.size)
    (apart : pointer.toNat + arguments.length * Limits.pointerSize ≤ target.toNat)
    (room : target.toNat + (stringArea arguments).length ≤ space.size) :
    writeEach pointer target arguments space =
      .ok ((space.overlaid pointer.toNat (pointerArea target arguments)).overlaid target.toNat
        (stringArea arguments)) := by
  induction arguments generalizing pointer target space with
  | nil => rfl
  | cons argument rest ih =>
      have four : Limits.pointerSize = 4 := rfl
      simp only [stringArea, List.length_append, List.length_singleton] at room
      rw [List.length_cons, Nat.add_mul] at apart
      have nextTarget := @toNat_next target argument.length (by omega)
      have nextPointer : (pointer + UInt32.ofNat Limits.pointerSize).toNat = pointer.toNat + 4 :=
        toNat_advance (by omega)
      rw [writeEach_cons small (by omega) (by omega), ih]
      · rw [nextPointer, nextTarget, pointerArea, stringArea]
        have length := @pointerArea_length rest (target + UInt32.ofNat argument.length + 1)
        generalize pointerArea (target + UInt32.ofNat argument.length + 1) rest = pointers
          at length ⊢
        -- The pointers still to come all lie below the string, so they move past it.
        have past := @AddressSpace.overlaid_comm
          (space.overlaid pointer.toNat (Bytes.ofWord target)) (pointer.toNat + 4) target.toNat
          pointers (argument ++ [0]) (by omega)
        rw [← past, @AddressSpace.overlaid_append space, Bytes.ofWord_length,
          AddressSpace.overlaid_append target.toNat (argument ++ [0]), List.length_append,
          List.length_singleton, Nat.add_assoc]
      · rwa [AddressSpace.overlaid_size, AddressSpace.overlaid_size]
      · omega
      · rw [AddressSpace.overlaid_size, AddressSpace.overlaid_size]
        omega

theorem marshal_of_valid (last : space.ArgumentsLast) (valid : arguments.validate = .ok ()) :
    arguments.marshal space =
      .ok (⟨UInt32.ofNat arguments.length, space.argumentPage⟩,
        space.overlaid space.argumentPage.toNat (arguments.laidOut space.argumentPage)) := by
  obtain ⟨small, last⟩ := last
  have areas := @areas_length arguments
  have fits := (validate_eq_ok_iff.mp valid).2.2
  have target : (space.argumentPage + UInt32.ofNat (arguments.length * Limits.pointerSize)).toNat =
      space.argumentPage.toNat + arguments.length * Limits.pointerSize := toNat_advance (by omega)
  refine marshal_eq_ok_iff.mpr ⟨valid, ?_, rfl⟩
  rw [writeEach_of_room small (by omega) (by omega), laidOut, AddressSpace.overlaid_append,
    pointerArea_length, target]

theorem holdsArguments_of_areas {pointers target : UInt32} {index : Nat}
    (small : space.size < UInt32.size)
    (valid : ∀ argument ∈ arguments, argument.length ≤ Limits.maxStringLength ∧ 0 ∉ argument)
    (slots : space.memory.Holds (pointers.toNat + index * Limits.pointerSize)
      (pointerArea target arguments))
    (strings : space.memory.Holds target.toNat (stringArea arguments)) :
    List.Forall₂ (space.HoldsArgument pointers) (List.range' index arguments.length) arguments := by
  induction arguments generalizing target index with
  | nil => exact .nil
  | cons argument rest ih =>
      rw [List.length_cons, List.range'_succ]
      have slotsInside := slots.inside
      have stringsInside := strings.inside
      obtain ⟨slot, laterSlots⟩ := Pages.holds_append_iff.mp slots
      obtain ⟨string, laterStrings⟩ := Pages.holds_append_iff.mp strings
      have four : Limits.pointerSize = 4 := rfl
      have size : space.memory.size < UInt32.size := small
      simp only [pointerArea, stringArea, List.length_append, Bytes.ofWord_length,
        List.length_singleton] at slotsInside stringsInside laterSlots laterStrings
      have slotAt : (pointers + UInt32.ofNat (index * Limits.pointerSize)).toNat =
          pointers.toNat + index * Limits.pointerSize := toNat_advance (by omega)
      have nextTarget := @toNat_next target argument.length (by omega)
      obtain ⟨⟨short, noZero⟩, others⟩ := List.forall_mem_cons.mp valid
      refine .cons ⟨target, slotAt ▸ slot, short, noZero, string⟩ ?_
      apply @ih (target + UInt32.ofNat argument.length + 1) (index + 1) others
      · rwa [Nat.add_mul, ← Nat.add_assoc]
      · rwa [nextTarget]

theorem holdsArguments_of_laidOut {base : UInt32} (small : space.size < UInt32.size)
    (valid : ∀ argument ∈ arguments, argument.length ≤ Limits.maxStringLength ∧ 0 ∉ argument)
    (held : space.memory.Holds base.toNat (arguments.laidOut base)) :
    List.Forall₂ (space.HoldsArgument base) (List.range' 0 arguments.length) arguments := by
  have size : space.memory.size = space.size := rfl
  obtain ⟨slots, strings⟩ := Pages.holds_append_iff.mp held
  rw [pointerArea_length] at strings
  have inside := strings.inside
  have target : (base + UInt32.ofNat (arguments.length * Limits.pointerSize)).toNat =
      base.toNat + arguments.length * Limits.pointerSize := toNat_advance (by omega)
  rw [← target] at strings
  refine holdsArguments_of_areas small valid ?_ strings
  rwa [Nat.zero_mul, Nat.add_zero]

theorem readEach_eq_some_iff {pointers : UInt32} {index count : Nat} :
    readEach space pointers index count = some arguments ↔
      List.Forall₂ (space.HoldsArgument pointers) (List.range' index count) arguments := by
  induction count generalizing index arguments with
  | zero => simp [readEach, eq_comm]
  | succ count ih =>
      rw [readEach, List.range'_succ, List.forall₂_cons_left_iff]
      simp only [Option.bind_eq_bind, Option.bind_eq_some_iff, ih, Option.pure_def,
        Option.some.injEq]
      constructor
      · rintro ⟨pointer, found, argument, read, rest, others, rfl⟩
        exact ⟨argument, rest, AddressSpace.holdsArgument_iff.mpr ⟨pointer, found, read⟩, others,
          rfl⟩
      · rintro ⟨argument, rest, held, others, rfl⟩
        obtain ⟨pointer, found, read⟩ := AddressSpace.holdsArgument_iff.mp held
        exact ⟨pointer, found, argument, read, rest, others, rfl⟩

theorem unmarshal_marshal (last : space.ArgumentsLast)
    (marshalled : arguments.marshal space = .ok (layout, later)) :
    layout.count.toNat = arguments.length ∧ unmarshal later layout = some arguments := by
  obtain ⟨valid, -, rfl⟩ := marshal_eq_ok_iff.mp marshalled
  obtain ⟨few, each, fits⟩ := validate_eq_ok_iff.mp valid
  have count : (UInt32.ofNat arguments.length).toNat = arguments.length :=
    UInt32.toNat_ofNat_of_lt' (Nat.lt_of_le_of_lt few (by decide))
  refine ⟨count, ?_⟩
  unfold unmarshal
  rw [count, readEach_eq_some_iff]
  have filled := marshal_of_valid last valid
  rw [marshalled] at filled
  cases filled
  obtain ⟨small, last⟩ := last
  refine holdsArguments_of_laidOut (by rwa [AddressSpace.overlaid_size]) each
    (Pages.holds_overlay ?_)
  have size : space.memory.size = space.size := rfl
  rw [laidOut_length]
  omega

end Arguments

end Minikernel
