import Minikernel.Proofs.Memory.ArgumentPage
import Minikernel.Proofs.Memory.Filling

/-!
The argument page byte by byte. Where an argument starts follows from the number of arguments and
the lengths of those before it; its pointer is that address, and from there on stand the argument
and its zero. So the page is known exactly from the arguments alone, up to its last byte.
-/

namespace Minikernel

namespace Arguments

variable {arguments : Arguments} {memory : Pages} {argument : Bytes} {index : Nat}

def sizeBefore (arguments : Arguments) (index : Nat) : Nat :=
  ((arguments.take index).flatMap (· ++ [0])).length

/-- How far from the start of the layout an argument starts: all pointers and the arguments before
it come first. -/
def offset (arguments : Arguments) (index : Nat) : Nat :=
  arguments.length * Limits.pointerSize + arguments.sizeBefore index

theorem sizeBefore_succ (argument : Bytes) (rest : Arguments) (index : Nat) :
    sizeBefore (argument :: rest) (index + 1) = argument.length + 1 + rest.sizeBefore index := by
  rw [sizeBefore, List.take_succ_cons, List.flatMap_cons, List.length_append, List.length_append]
  rfl

theorem stringArea_eq : arguments.stringArea = arguments.flatMap (· ++ [0]) := by
  induction arguments with
  | nil => rfl
  | cons argument rest ih => rw [stringArea, ih, List.flatMap_cons]

theorem pointerArea_eq {target : UInt32}
    (room : target.toNat + arguments.stringArea.length < UInt32.size) :
    pointerArea target arguments =
      (List.range arguments.length).flatMap fun index =>
        Bytes.littleEndian 4 (target.toNat + arguments.sizeBefore index) := by
  induction arguments generalizing target with
  | nil => rfl
  | cons argument rest ih =>
      simp only [stringArea, List.length_append, List.length_singleton] at room
      have next := @toNat_next target argument.length (by omega)
      rw [pointerArea, ih (by omega), next, List.length_cons, List.range_succ_eq_map,
        List.flatMap_cons, List.flatMap_map]
      simp only [sizeBefore_succ, ← Nat.add_assoc]
      rfl

theorem holds_argument {start : Nat} (held : memory.Holds start arguments.stringArea)
    (present : arguments[index]? = some argument) :
    memory.Holds (start + arguments.sizeBefore index) (argument ++ [0]) := by
  induction arguments generalizing start index with
  | nil => cases present
  | cons first rest ih =>
      obtain ⟨here, later⟩ := Pages.holds_append_iff.mp held
      cases index with
      | zero =>
          cases present
          exact here
      | succ index =>
          rw [List.length_append, List.length_singleton] at later
          rw [sizeBefore_succ, ← Nat.add_assoc]
          exact ih later present

theorem laidOut_eq {base : UInt32} (room : base.toNat + arguments.layoutSize < UInt32.size) :
    arguments.laidOut base =
      ((List.range arguments.length).map fun index => base.toNat + arguments.offset index).flatMap
          (Bytes.littleEndian 4) ++
        arguments.flatMap (· ++ [0]) := by
  have areas := @areas_length arguments
  have target : (base + UInt32.ofNat (arguments.length * Limits.pointerSize)).toNat =
      base.toNat + arguments.length * Limits.pointerSize := toNat_advance (by omega)
  rw [laidOut, pointerArea_eq (by omega), target, stringArea_eq, List.flatMap_map]
  simp only [offset, Nat.add_assoc]

/-- Arguments that pass the check are written to the last page of a space, whatever is in it: first
the addresses at which they start, then the arguments with a zero after each. No other byte changes,
and they are read back as they were. -/
theorem marshal_is_exact {pool left : FramePool} {code stack : UInt64}
    {fresh space : AddressSpace} (created : AddressSpace.create pool code stack = .ok (fresh, left))
    (same : space.SameShape fresh) (valid : arguments.validate = .ok ()) :
    let base := space.argumentPage.toNat
    let starts := (List.range arguments.length).map fun index => base + arguments.offset index
    ∃ layout filled, arguments.marshal space = .ok (layout, filled) ∧
      (layout.count.toNat = arguments.length ∧ layout.pointers = space.argumentPage) ∧
      filled.memory.read base arguments.layoutSize =
        starts.flatMap (Bytes.littleEndian 4) ++ arguments.flatMap (· ++ [0]) ∧
      (∀ index argument, arguments[index]? = some argument →
        filled.memory.Holds (base + arguments.offset index) (argument ++ [0])) ∧
      (arguments.layoutSize ≤ Limits.pageSize ∧ base + Limits.pageSize = space.size ∧
        space.size < UInt32.size) ∧
      filled.SameOutside space base arguments.layoutSize ∧
      unmarshal filled layout = some arguments := by
  intro base starts
  have last := same.argumentsLast (AddressSpace.create_argumentsLast created)
  have fits := (validate_eq_ok_iff.mp valid).2.2
  have small := last.small
  have ends : base + Limits.pageSize = space.size := last.last
  have marshalled := marshal_of_valid last valid
  obtain ⟨count, read⟩ := unmarshal_marshal last marshalled
  have length := @laidOut_length arguments space.argumentPage
  have held : (space.memory.overlay base (arguments.laidOut space.argumentPage)).Holds base
      (arguments.laidOut space.argumentPage) := by
    refine Pages.holds_overlay ?_
    have inside : base + arguments.layoutSize ≤ space.size := by omega
    rw [length]
    exact inside
  have outside := AddressSpace.overlaid_sameOutside space base
    (arguments.laidOut space.argumentPage)
  rw [length] at outside
  refine ⟨_, _, marshalled, ⟨count, rfl⟩, ?_, ?_, ⟨fits, ends, small⟩, outside, read⟩
  · have bytes := held.bytes
    rw [length] at bytes
    exact bytes.trans (laidOut_eq (by omega))
  · intro index argument present
    have strings := (Pages.holds_append_iff.mp held).2
    rw [pointerArea_length] at strings
    rw [offset, ← Nat.add_assoc]
    exact holds_argument strings present

-- The longest arguments that there are, an empty one among them, and a last one that ends with the
-- last byte of the page.
theorem full_page_marshalled :
    let arguments : Arguments := [List.replicate 256 97, [], List.replicate 256 98,
      List.replicate 256 99, List.replicate 231 100]
    let fresh : AddressSpace := ⟨.zeros 3, 1, 1⟩
    let space := fresh.overlaid 3000 [7, 7, 7]
    (∃ left, AddressSpace.create (.ofSize 8) 1 1 = .ok (fresh, left)) ∧
      space.SameShape fresh ∧ arguments.validate = .ok () ∧
      arguments.layoutSize = Limits.pageSize ∧
      ∃ layout filled, arguments.marshal space = .ok (layout, filled) ∧
        filled.memory.Holds 2840 (List.replicate 231 100 ++ [0]) ∧ space.size = 2840 + 232 ∧
        unmarshal filled layout = some arguments := by
  intro arguments fresh space
  obtain ⟨left, created⟩ : ∃ left, AddressSpace.create (.ofSize 8) 1 1 = .ok (fresh, left) :=
    AddressSpace.create_of_room (by decide) (by decide)
  have same : space.SameShape fresh := ⟨rfl, rfl, AddressSpace.overlaid_size _ _⟩
  have valid : arguments.validate = .ok () := by decide +kernel
  have full : arguments.layoutSize = Limits.pageSize := by decide +kernel
  obtain ⟨layout, filled, marshalled, -, -, placed, -, -, read⟩ :=
    marshal_is_exact created same valid
  have size : space.size = 2840 + 232 := same.size.trans (Pages.zeros_size 3)
  have start : space.argumentPage.toNat + arguments.offset 4 = 2840 := by decide +kernel
  have held := placed 4 (List.replicate 231 100) rfl
  rw [start] at held
  exact ⟨⟨left, created⟩, same, valid, full, layout, filled, marshalled, held, size, read⟩

end Arguments

end Minikernel
