import Mathlib.Algebra.GroupWithZero.Nat
import Minikernel.Kernel.Config
import Minikernel.Proofs.Memory.Filling

/-!
When a space is created. The number of its pages is a sum of three, and creation is exact for
every sum that 64 bits hold: the space is there if and only if its bytes can be addressed and its
frames are free, and otherwise there is an error. A larger sum stops instead of giving an answer.
-/

namespace Minikernel

theorem FramePool.reserve_isOk_iff {pool : FramePool} {pages : Nat} :
    (∃ taken, pool.reserve pages = .ok taken) ↔ pages ≤ pool.free := by
  have bound := pool.usedBound
  unfold free
  constructor
  · rintro ⟨taken, reserved⟩
    obtain ⟨total, used⟩ := reserve_eq_ok_iff.mp reserved
    have fits := taken.usedBound
    omega
  · intro room
    exact ⟨⟨pool.total, pool.used + pages, by omega⟩, reserve_eq_ok_iff.mpr ⟨rfl, rfl⟩⟩

namespace AddressSpace

variable {pool taken left : FramePool} {code stack : UInt64} {space : AddressSpace}
  {cause : MemoryError}

/-- Creation in place: what comes of it, and the pool as it is afterwards in either case. -/
def createInPlace (pool : FramePool) (code stack : UInt64) :
    Except MemoryError AddressSpace × FramePool :=
  match pagesFor code stack with
  | .error cause => (.error cause, pool)
  | .ok pages =>
      if pages * Limits.pageSize < UInt32.size then
        match pool.reserve pages with
        | .error cause => (.error cause, pool)
        | .ok taken => (.ok ⟨.zeros pages, code, stack⟩, taken)
      else (.error (.spaceTooLarge pages), pool)

structure Fresh (space : AddressSpace) (code pages : Nat) : Prop where
  size : space.size = pages * 1024
  stackLimit : space.stackLimit.toNat = code * 1024
  initialStack : space.initialStack.toNat = (pages - 1) * 1024
  stackAbove : space.stackLimit ≤ space.initialStack
  argumentPage : space.argumentPage = space.initialStack
  argumentsLast : space.argumentPage.toNat + 1024 = space.size
  blank : ∀ address < space.size, space.memory.byte address = 0

/-- Creation goes by the exact number of pages: it succeeds if their bytes have 32-bit addresses
and their frames are free, and takes so many; otherwise it takes none and answers with an error. -/
structure CreatesExactly (pool : FramePool) (code stack : UInt64) (pages : Nat) : Prop where
  granted_iff : (∃ space left, createInPlace pool code stack = (.ok space, left)) ↔
    pages * 1024 ≤ 2 ^ 32 - 1 ∧ pages ≤ pool.free
  granted : ∀ space left, createInPlace pool code stack = (.ok space, left) →
    (left.total = pool.total ∧ left.used = pool.used + pages) ∧ space.Fresh code.toNat pages
  refused : ∀ cause left, createInPlace pool code stack = (.error cause, left) →
    cause ≠ .overflow ∧ left = pool

theorem createInPlace_eq :
    createInPlace pool code stack =
      match create pool code stack with
      | .ok (space, taken) => (.ok space, taken)
      | .error cause => (.error cause, pool) := by
  unfold createInPlace create
  cases pagesFor code stack with
  | error cause => rfl
  | ok pages =>
      dsimp only [bind, Except.bind]
      split
      · cases pool.reserve pages <;> rfl
      · rfl

theorem createInPlace_eq_ok_iff :
    createInPlace pool code stack = (.ok space, left) ↔
      create pool code stack = .ok (space, left) := by
  rw [createInPlace_eq]
  cases create pool code stack <;> simp [Prod.ext_iff]

theorem createInPlace_eq_error_iff :
    createInPlace pool code stack = (.error cause, left) ↔
      create pool code stack = .error cause ∧ left = pool := by
  rw [createInPlace_eq]
  cases create pool code stack <;> simp [eq_comm]

theorem createInPlace_isOk_iff :
    (∃ space left, createInPlace pool code stack = (.ok space, left)) ↔
      (code.toNat + stack.toNat + 1) * 1024 ≤ 2 ^ 32 - 1 ∧
        code.toNat + stack.toNat + 1 ≤ pool.free := by
  have size : UInt32.size = 2 ^ 32 := rfl
  have page : Limits.pageSize = 1024 := rfl
  simp only [createInPlace_eq_ok_iff, create_eq_ok_iff, ← FramePool.reserve_isOk_iff, page, size]
  constructor
  · rintro ⟨space, left, small, reserved, -⟩
    exact ⟨by omega, left, reserved⟩
  · rintro ⟨small, left, reserved⟩
    exact ⟨_, left, by omega, reserved, rfl⟩

theorem fresh_of_create (created : create pool code stack = .ok (space, left)) :
    space.Fresh code.toNat (code.toNat + stack.toNat + 1) := by
  obtain ⟨limit, top, size⟩ := create_stack created (.refl space)
  have page : Limits.pageSize = 1024 := rfl
  rw [page] at limit top size
  have argumentPage : space.argumentPage.toNat = space.initialStack.toNat := rfl
  refine ⟨size, limit, top, ?_, rfl, ?_, ?_⟩
  · rw [UInt32.le_iff_toNat_le, limit, top]
    omega
  · rw [argumentPage, top, size]
    omega
  · obtain ⟨-, -, rfl⟩ := create_eq_ok_iff.mp created
    exact fun address bound => Pages.zeros_byte _ _

theorem createsExactly_of_fits (fits : code.toNat + stack.toNat + 1 < 2 ^ 64) :
    CreatesExactly pool code stack (code.toNat + stack.toNat + 1) := by
  refine ⟨createInPlace_isOk_iff, fun space left granted => ?_, fun cause left refused => ?_⟩
  · have created := createInPlace_eq_ok_iff.mp granted
    obtain ⟨-, reserved, -⟩ := create_eq_ok_iff.mp created
    exact ⟨FramePool.reserve_eq_ok_iff.mp reserved, fresh_of_create created⟩
  · obtain ⟨failed, same⟩ := createInPlace_eq_error_iff.mp refused
    refine ⟨?_, same⟩
    rintro rfl
    exact Nat.not_le.mpr fits (create_eq_overflow_iff.mp failed)

/-- Creation is exact for all numbers of pages, except where their sum is more than a word holds.
There it stops. -/
theorem createsExactly_iff :
    CreatesExactly pool code stack (code.toNat + stack.toNat + 1) ↔
      code.toNat + stack.toNat + 1 < 2 ^ 64 := by
  refine ⟨fun exactly => Nat.lt_of_not_le fun overflows => ?_, createsExactly_of_fits⟩
  have stopped : create pool code stack = .error .overflow :=
    create_eq_overflow_iff.mpr overflows
  exact (exactly.refused _ _ (createInPlace_eq_error_iff.mpr ⟨stopped, rfl⟩)).1 rfl

-- A configuration may ask for that many pages of stack, beside an image of one page.
theorem overflowing_sum_stops :
    let stack : UInt64 := 18446744073709551615
    let environment := fun key =>
      if key = "KERNEL_STACK_PAGES" then some "18446744073709551615" else none
    (Config.ofVariables (fun _ => .error .notFound) .default environment).map
        Config.stackPages = .ok stack ∧
      createInPlace (.ofSize 8) 1 stack = (.error .overflow, .ofSize 8) ∧
      ¬CreatesExactly (.ofSize 8) 1 stack ((1 : UInt64).toNat + stack.toNat + 1) := by
  intro stack environment
  refine ⟨rfl, ?_, fun exactly => absurd (createsExactly_iff.mp exactly) (by decide)⟩
  exact createInPlace_eq_error_iff.mpr ⟨create_eq_overflow_iff.mpr (by decide), rfl⟩

end AddressSpace

end Minikernel
