import Mathlib.Algebra.GroupWithZero.Nat
import Minikernel.Proofs.Memory.ArgumentPage
import Minikernel.Proofs.Memory.Filling

/-!
What an argument page takes. The check counts the arguments, looks at each of them and adds up
their sizes, and it ends at the first rule that is broken. What passes it is a matter of bytes
alone: an argument costs a pointer, its bytes and a zero, and more than 204 of them never fit. The
check is made before the first byte is written, and what passes it fits, so it is all that
marshalling can fail by.
-/

namespace Minikernel

def AddressSpace.writeAll (space : AddressSpace) :
    List (UInt32 × Bytes) → Except MemoryError Unit × AddressSpace
  | [] => (.ok (), space)
  | (address, data) :: rest =>
      match space.writeExact address data with
      | .error cause => (.error cause, space)
      | .ok written => written.writeAll rest

namespace Arguments

variable {arguments : Arguments} {argument : Bytes} {cause : MarshalError}
  {space : AddressSpace}

def writes (pointer target : UInt32) : Arguments → List (UInt32 × Bytes)
  | [] => []
  | argument :: rest =>
      let final := target + UInt32.ofNat argument.length
      (pointer, Bytes.ofWord target) :: (target, argument) :: (final, [0]) ::
        writes (pointer + UInt32.ofNat Limits.pointerSize) (final + 1) rest

/-- Marshalling in place: what comes of it, and the space as it is afterwards in either case. -/
def marshalInPlace (arguments : Arguments) (space : AddressSpace) :
    Except MarshalError ArgumentLayout × AddressSpace :=
  match arguments.validate with
  | .error cause => (.error cause, space)
  | .ok () =>
      let base := space.argumentPage
      let target := base + UInt32.ofNat (arguments.length * Limits.pointerSize)
      match space.writeAll (writes base target arguments) with
      | (.error cause, left) => (.error (.memory cause), left)
      | (.ok (), filled) => (.ok ⟨UInt32.ofNat arguments.length, base⟩, filled)

theorem writeEach_eq_writeAll {pointer target : UInt32} :
    writeEach pointer target arguments space =
      match space.writeAll (writes pointer target arguments) with
      | (.error cause, _) => .error cause
      | (.ok (), filled) => .ok filled := by
  induction arguments generalizing pointer target space with
  | nil => rfl
  | cons argument rest ih =>
      simp only [writeEach, writes, AddressSpace.writeAll, AddressSpace.writeWord]
      cases space.writeExact pointer (Bytes.ofWord target) with
      | error cause => rfl
      | ok linked =>
          dsimp only [bind, Except.bind]
          cases linked.writeExact target argument with
          | error cause => rfl
          | ok copied =>
              dsimp only
              cases copied.writeExact (target + UInt32.ofNat argument.length) [0] with
              | error cause => rfl
              | ok closed => exact ih

theorem marshal_eq_marshalInPlace :
    arguments.marshal space =
      match arguments.marshalInPlace space with
      | (.error cause, _) => .error cause
      | (.ok layout, filled) => .ok (layout, filled) := by
  unfold marshal marshalInPlace
  cases arguments.validate with
  | error cause => rfl
  | ok checked =>
      simp only [writeEach_eq_writeAll, bind, Except.bind]
      generalize space.writeAll _ = run
      obtain ⟨outcome, left⟩ := run
      cases outcome <;> rfl

def Proper (argument : Bytes) : Prop :=
  argument.length ≤ Limits.maxStringLength ∧ 0 ∉ argument

inductive Fault (index : Nat) (argument : Bytes) : MarshalError → Prop
  | tooLong (long : Limits.maxStringLength < argument.length) :
      Fault index argument (.argTooLong index argument.length Limits.maxStringLength)
  | holdsZero (short : argument.length ≤ Limits.maxStringLength) (zero : 0 ∈ argument) :
      Fault index argument (.embeddedNul index)

/-- The first rule that arguments break: their number, each of them in turn, then their size. -/
inductive Refused (arguments : Arguments) : MarshalError → Prop
  | tooMany (many : Limits.maxArguments < arguments.length) :
      Refused arguments (.tooManyArgs arguments.length Limits.maxArguments)
  | improper {before after : Arguments} {argument : Bytes} {cause : MarshalError}
      (few : arguments.length ≤ Limits.maxArguments)
      (split : arguments = before ++ argument :: after) (proper : ∀ other ∈ before, Proper other)
      (fault : Fault before.length argument cause) : Refused arguments cause
  | tooLarge (few : arguments.length ≤ Limits.maxArguments)
      (proper : ∀ argument ∈ arguments, Proper argument)
      (large : Limits.pageSize < arguments.layoutSize) :
      Refused arguments (.argsTooLarge arguments.layoutSize Limits.pageSize)

theorem proper_or_fault (index : Nat) (argument : Bytes) :
    Proper argument ∨ ∃ cause, Fault index argument cause := by
  by_cases long : Limits.maxStringLength < argument.length
  · exact .inr ⟨_, .tooLong long⟩
  · have short := Nat.le_of_not_lt long
    by_cases zero : 0 ∈ argument
    · exact .inr ⟨_, .holdsZero short zero⟩
    · exact .inl ⟨short, zero⟩

theorem checkEach_of_proper {index : Nat} {rest : Arguments} (proper : Proper argument) :
    checkEach index (argument :: rest) = checkEach (index + 1) rest := by
  rw [checkEach, if_neg (Nat.not_lt_of_le proper.1), if_neg proper.2]

theorem checkEach_of_fault {index : Nat} {rest : Arguments} (fault : Fault index argument cause) :
    checkEach index (argument :: rest) = .error cause := by
  rw [checkEach]
  cases fault with
  | tooLong long => rw [if_pos long]
  | holdsZero short zero => rw [if_neg (Nat.not_lt_of_le short), if_pos zero]

theorem checkEach_eq_error_iff {index : Nat} :
    arguments.checkEach index = .error cause ↔
      ∃ before argument after, arguments = before ++ argument :: after ∧
        (∀ other ∈ before, Proper other) ∧ Fault (index + before.length) argument cause := by
  induction arguments generalizing index with
  | nil => simp [checkEach]
  | cons first rest ih =>
      constructor
      · intro refused
        obtain proper | ⟨found, fault⟩ := proper_or_fault index first
        · rw [checkEach_of_proper proper] at refused
          obtain ⟨before, argument, after, rfl, others, fault⟩ := ih.mp refused
          refine ⟨first :: before, argument, after, rfl, ?_, ?_⟩
          · exact List.forall_mem_cons.mpr ⟨proper, others⟩
          · rwa [List.length_cons, Nat.add_comm before.length, ← Nat.add_assoc]
        · rw [checkEach_of_fault fault] at refused
          cases refused
          exact ⟨[], first, rest, rfl, by simp, fault⟩
      · rintro ⟨before, argument, after, split, others, fault⟩
        cases before with
        | nil =>
            cases split
            exact checkEach_of_fault fault
        | cons other before =>
            cases split
            obtain ⟨proper, others⟩ := List.forall_mem_cons.mp others
            rw [List.length_cons, Nat.add_comm before.length, ← Nat.add_assoc] at fault
            rw [checkEach_of_proper proper, ih]
            exact ⟨before, argument, after, rfl, others, fault⟩

theorem validate_of_many (many : Limits.maxArguments < arguments.length) :
    arguments.validate = .error (.tooManyArgs arguments.length Limits.maxArguments) := by
  unfold validate
  rw [if_pos many]
  rfl

theorem validate_of_improper (few : arguments.length ≤ Limits.maxArguments)
    (improper : arguments.checkEach 0 = .error cause) : arguments.validate = .error cause := by
  unfold validate
  rw [if_neg (Nat.not_lt_of_le few), improper]
  rfl

theorem validate_of_large (few : arguments.length ≤ Limits.maxArguments)
    (proper : arguments.checkEach 0 = .ok ()) (large : Limits.pageSize < arguments.layoutSize) :
    arguments.validate = .error (.argsTooLarge arguments.layoutSize Limits.pageSize) := by
  unfold validate
  rw [if_neg (Nat.not_lt_of_le few), proper, if_pos large]
  rfl

theorem validate_eq_error_iff : arguments.validate = .error cause ↔ arguments.Refused cause := by
  constructor
  · intro refused
    by_cases many : Limits.maxArguments < arguments.length
    · rw [validate_of_many many] at refused
      cases refused
      exact .tooMany many
    · have few := Nat.le_of_not_lt many
      cases each : arguments.checkEach 0 with
      | error found =>
          rw [validate_of_improper few each] at refused
          cases refused
          obtain ⟨before, argument, after, split, proper, fault⟩ := checkEach_eq_error_iff.mp each
          rw [Nat.zero_add] at fault
          exact .improper few split proper fault
      | ok checked =>
          have proper := checkEach_eq_ok_iff.mp each
          by_cases large : Limits.pageSize < arguments.layoutSize
          · rw [validate_of_large few each large] at refused
            cases refused
            exact .tooLarge few proper large
          · have valid := validate_eq_ok_iff.mpr ⟨few, proper, Nat.le_of_not_lt large⟩
            rw [valid] at refused
            cases refused
  · intro refused
    cases refused with
    | tooMany many => exact validate_of_many many
    | improper few split proper fault =>
        rw [← Nat.zero_add (List.length _)] at fault
        exact validate_of_improper few (checkEach_eq_error_iff.mpr ⟨_, _, _, split, proper, fault⟩)
    | tooLarge few proper large =>
        exact validate_of_large few (checkEach_eq_ok_iff.mpr proper) large

theorem layoutSize_eq_sum :
    arguments.layoutSize = (arguments.map fun argument => argument.length + 5).sum := by
  induction arguments with
  | nil => rfl
  | cons argument rest ih =>
      rw [layoutSize, ih, List.map_cons, List.sum_cons]
      have four : Limits.pointerSize = 4 := rfl
      omega

theorem five_le_layoutSize : 5 * arguments.length ≤ arguments.layoutSize := by
  induction arguments with
  | nil => exact Nat.le_refl 0
  | cons argument rest ih =>
      have four : Limits.pointerSize = 4 := rfl
      rw [layoutSize, List.length_cons]
      omega

theorem few_of_layoutSize (fits : arguments.layoutSize ≤ Limits.pageSize) :
    arguments.length ≤ Limits.maxArguments := by
  have cost := @five_le_layoutSize arguments
  have most : Limits.maxArguments = 204 := rfl
  have page : Limits.pageSize = 1024 := rfl
  omega

theorem marshalInPlace_of_ok {layout : ArgumentLayout} {filled : AddressSpace}
    (marshalled : arguments.marshal space = .ok (layout, filled)) :
    arguments.marshalInPlace space = (.ok layout, filled) := by
  rw [marshal_eq_marshalInPlace] at marshalled
  generalize arguments.marshalInPlace space = run at marshalled
  obtain ⟨outcome, left⟩ := run
  cases outcome with
  | error cause => cases marshalled
  | ok given =>
      cases marshalled
      rfl

theorem marshal_of_refused (refused : arguments.validate = .error cause) :
    arguments.marshal space = .error cause ∧
      arguments.marshalInPlace space = (.error cause, space) := by
  constructor
  · unfold marshal
    rw [refused]
    rfl
  · unfold marshalInPlace
    rw [refused]

theorem marshal_of_accepted {pool left : FramePool} {code stack : UInt64} {fresh : AddressSpace}
    (created : AddressSpace.create pool code stack = .ok (fresh, left))
    (same : space.SameShape fresh) (valid : arguments.validate = .ok ()) :
    ∃ layout filled, arguments.marshal space = .ok (layout, filled) := by
  have last := same.argumentsLast (AddressSpace.create_argumentsLast created)
  exact ⟨_, _, marshal_of_valid last valid⟩

/-- Arguments pass the check exactly if each is short and without a zero and all of them fit the
page; the bound on their number adds nothing. What does not pass is refused by the first rule that
it breaks. Marshalling into any space that was created fails exactly when the check does, with the
same error and before anything is written. -/
theorem check_is_capacity_rule :
    (arguments.validate = .ok () ↔
      (∀ argument ∈ arguments, argument.length ≤ 256 ∧ 0 ∉ argument) ∧
        (arguments.map fun argument => argument.length + 5).sum ≤ 1024) ∧
    ((arguments.map fun argument => argument.length + 5).sum ≤ 1024 → arguments.length ≤ 204) ∧
    (∀ cause, arguments.validate = .error cause ↔ arguments.Refused cause) ∧
    ∀ {pool left : FramePool} {code stack : UInt64} {fresh space : AddressSpace},
      AddressSpace.create pool code stack = .ok (fresh, left) → space.SameShape fresh →
      ((∃ layout filled, arguments.marshal space = .ok (layout, filled)) ↔
        arguments.validate = .ok ()) ∧
      (∀ cause, arguments.marshal space ≠ .error (.memory cause)) ∧
      (∀ cause, arguments.validate = .error cause →
        arguments.marshal space = .error cause ∧
          arguments.marshalInPlace space = (.error cause, space)) ∧
      ∀ layout filled, arguments.marshal space = .ok (layout, filled) →
        arguments.marshalInPlace space = (.ok layout, filled) := by
  rw [← layoutSize_eq_sum]
  refine ⟨?_, few_of_layoutSize, fun cause => validate_eq_error_iff, ?_⟩
  · rw [validate_eq_ok_iff]
    constructor
    · rintro ⟨-, proper, fits⟩
      exact ⟨proper, fits⟩
    · rintro ⟨proper, fits⟩
      exact ⟨few_of_layoutSize fits, proper, fits⟩
  · intro pool left code stack fresh space created same
    refine ⟨⟨?_, ?_⟩, ?_, fun cause refused => marshal_of_refused refused,
      fun layout filled => marshalInPlace_of_ok⟩
    · rintro ⟨layout, filled, marshalled⟩
      exact (marshal_eq_ok_iff.mp marshalled).1
    · exact marshal_of_accepted created same
    · intro cause failed
      cases checked : arguments.validate with
      | ok valid =>
          obtain ⟨layout, filled, marshalled⟩ := marshal_of_accepted created same checked
          rw [marshalled] at failed
          cases failed
      | error found =>
          rw [(marshal_of_refused checked).1] at failed
          cases failed
          -- No rule of the check is about memory.
          cases validate_eq_error_iff.mp checked with
          | improper _ _ _ fault => cases fault

-- The second argument is too long and full of zeros, the third holds a zero, and all of them are
-- more than a page.
theorem lowest_fault_is_reported :
    let arguments : Arguments := [[1, 2], List.replicate 300 0, [0], List.replicate 900 1]
    let fresh : AddressSpace := ⟨.zeros 3, 1, 1⟩
    let space := fresh.overlaid 3000 [7, 7, 7]
    (∃ left, AddressSpace.create (.ofSize 8) 1 1 = .ok (fresh, left)) ∧
      space.SameShape fresh ∧
      arguments.validate = .error (.argTooLong 1 300 256) ∧
      arguments.marshal space = .error (.argTooLong 1 300 256) ∧
      arguments.marshalInPlace space = (.error (.argTooLong 1 300 256), space) := by
  intro arguments fresh space
  obtain ⟨left, created⟩ : ∃ left, AddressSpace.create (.ofSize 8) 1 1 = .ok (fresh, left) :=
    AddressSpace.create_of_room (by decide) (by decide)
  have same : space.SameShape fresh := ⟨rfl, rfl, AddressSpace.overlaid_size _ _⟩
  obtain ⟨-, -, -, spaces⟩ := @check_is_capacity_rule arguments
  have found : arguments.validate = .error (.argTooLong 1 300 256) := by decide +kernel
  obtain ⟨-, -, failed, -⟩ := spaces created same
  exact ⟨⟨left, created⟩, same, found, failed _ found⟩

end Arguments

end Minikernel
