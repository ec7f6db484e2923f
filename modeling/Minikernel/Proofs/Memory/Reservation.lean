import Minikernel.Executable.Loader
import Minikernel.Process.Arguments

/-!
The frames behind an address space. A new space takes one for each of its pages, filling it
changes nothing about their number, and so a space that is given up hands back exactly what it
took.
-/

namespace Minikernel

theorem bind_eq_ok_iff {ε α β : Type} {first : Except ε α} {rest : α → Except ε β} {result : β} :
    first >>= rest = .ok result ↔ ∃ value, first = .ok value ∧ rest value = .ok result := by
  cases first <;> simp [bind, Except.bind]

theorem bind_eq_error_iff {ε α β : Type} {first : Except ε α} {rest : α → Except ε β} {cause : ε} :
    first >>= rest = .error cause ↔
      first = .error cause ∨ ∃ value, first = .ok value ∧ rest value = .error cause := by
  cases first <;> simp [bind, Except.bind]

namespace FramePool

variable {pool taken : FramePool} {pages : Nat}

theorem ext_used {first second : FramePool} (sameTotal : first.total = second.total)
    (sameUsed : first.used = second.used) : first = second := by
  cases first
  cases second
  cases sameTotal
  cases sameUsed
  rfl

theorem reserve_eq_ok_iff :
    pool.reserve pages = .ok taken ↔
      taken.total = pool.total ∧ taken.used = pool.used + pages := by
  unfold reserve
  constructor
  · intro reserved
    split at reserved
    · cases reserved
      exact ⟨rfl, rfl⟩
    · cases reserved
  · rintro ⟨total, used⟩
    have bound : pool.used + pages ≤ pool.total := by
      have fits := taken.usedBound
      omega
    rw [dif_pos bound]
    exact congrArg Except.ok (ext_used total.symm used.symm)

theorem reserve_ne_overflow : pool.reserve pages ≠ .error .overflow := by
  unfold reserve
  split <;> nofun

theorem release_of_reserve (reserved : pool.reserve pages = .ok taken) :
    taken.release pages = pool := by
  obtain ⟨total, used⟩ := reserve_eq_ok_iff.mp reserved
  refine ext_used total ?_
  show taken.used - pages = pool.used
  omega

end FramePool

namespace AddressSpace

variable {space later : AddressSpace} {pool taken : FramePool} {code stack : UInt64}

theorem pagesFor_of_fits (fits : code.toNat + stack.toNat + 1 < UInt64.size) :
    pagesFor code stack = .ok (code.toNat + stack.toNat + 1) :=
  if_pos fits

theorem pagesFor_of_overflow (overflows : UInt64.size ≤ code.toNat + stack.toNat + 1) :
    pagesFor code stack = .error .overflow :=
  if_neg (Nat.not_lt.mpr overflows)

theorem pagesFor_eq_ok_iff {pages : Nat} :
    pagesFor code stack = .ok pages ↔
      code.toNat + stack.toNat + 1 < UInt64.size ∧ code.toNat + stack.toNat + 1 = pages := by
  by_cases fits : code.toNat + stack.toNat + 1 < UInt64.size
  · simp [pagesFor_of_fits fits, fits]
  · simp [pagesFor_of_overflow (Nat.le_of_not_lt fits), fits]

theorem fits_of_small (small : (code.toNat + stack.toNat + 1) * Limits.pageSize < UInt32.size) :
    code.toNat + stack.toNat + 1 < UInt64.size := by
  have page : 1 ≤ Limits.pageSize := by decide
  have fewer : UInt32.size < UInt64.size := by decide
  exact Nat.lt_trans (Nat.lt_of_le_of_lt (Nat.le_mul_of_pos_right _ page) small) fewer

theorem create_eq_ok_iff :
    create pool code stack = .ok (space, taken) ↔
      (code.toNat + stack.toNat + 1) * Limits.pageSize < UInt32.size ∧
        pool.reserve (code.toNat + stack.toNat + 1) = .ok taken ∧
        (⟨.zeros (code.toNat + stack.toNat + 1), code, stack⟩ : AddressSpace) = space := by
  unfold create
  constructor
  · intro created
    obtain ⟨pages, counted, created⟩ := bind_eq_ok_iff.mp created
    obtain ⟨-, rfl⟩ := pagesFor_eq_ok_iff.mp counted
    split at created
    · rename_i small
      obtain ⟨left, reserved, made⟩ := bind_eq_ok_iff.mp created
      cases made
      exact ⟨small, reserved, rfl⟩
    · cases created
  · rintro ⟨small, reserved, rfl⟩
    refine bind_eq_ok_iff.mpr ⟨_, pagesFor_of_fits (fits_of_small small), ?_⟩
    rw [if_pos small]
    exact bind_eq_ok_iff.mpr ⟨taken, reserved, rfl⟩

theorem create_eq_overflow_iff :
    create pool code stack = .error .overflow ↔
      UInt64.size ≤ code.toNat + stack.toNat + 1 := by
  unfold create
  rw [bind_eq_error_iff]
  constructor
  · rintro (counted | ⟨pages, -, refused⟩)
    · refine Nat.le_of_not_lt fun fits => ?_
      rw [pagesFor_of_fits fits] at counted
      cases counted
    · split at refused
      · obtain reserved | ⟨left, -, made⟩ := bind_eq_error_iff.mp refused
        · exact absurd reserved FramePool.reserve_ne_overflow
        · cases made
      · cases refused
  · exact fun overflows => .inl (pagesFor_of_overflow overflows)

theorem add_toNat_of_fits (fits : code.toNat + stack.toNat + 1 < UInt64.size) :
    (code + stack).toNat = code.toNat + stack.toNat := by
  rw [UInt64.toNat_add]
  exact Nat.mod_eq_of_lt (Nat.lt_of_succ_lt fits)

theorem pages_toNat (fits : space.codePages.toNat + space.stackPages.toNat + 1 < UInt64.size) :
    space.pages.toNat = space.codePages.toNat + space.stackPages.toNat + 1 := by
  have whole : space.pages.toNat = ((space.codePages + space.stackPages).toNat + 1) % 2 ^ 64 :=
    UInt64.toNat_add (space.codePages + space.stackPages) 1
  rw [whole, add_toNat_of_fits fits]
  exact Nat.mod_eq_of_lt fits

theorem create_pages (created : create pool code stack = .ok (space, taken)) :
    space.pages.toNat = code.toNat + stack.toNat + 1 := by
  obtain ⟨small, -, made⟩ := create_eq_ok_iff.mp created
  have codePages : space.codePages = code := made ▸ rfl
  have stackPages : space.stackPages = stack := made ▸ rfl
  have fits := fits_of_small small
  rw [← codePages, ← stackPages] at fits ⊢
  exact pages_toNat fits

theorem create_reserves (created : create pool code stack = .ok (space, taken)) :
    pool.reserve space.pages.toNat = .ok taken := by
  rw [create_pages created]
  exact (create_eq_ok_iff.mp created).2.1

/-- Spaces of the same shape differ in nothing but their bytes. -/
structure SameShape (later space : AddressSpace) : Prop where
  codePages : later.codePages = space.codePages
  stackPages : later.stackPages = space.stackPages
  size : later.size = space.size

namespace SameShape

theorem refl (space : AddressSpace) : space.SameShape space := ⟨rfl, rfl, rfl⟩

theorem trans {last : AddressSpace} (second : last.SameShape later)
    (first : later.SameShape space) : last.SameShape space :=
  ⟨second.codePages.trans first.codePages, second.stackPages.trans first.stackPages,
    second.size.trans first.size⟩

theorem pages (same : later.SameShape space) : later.pages = space.pages := by
  rw [AddressSpace.pages, same.codePages, same.stackPages]
  rfl

theorem stackLimit (same : later.SameShape space) : later.stackLimit = space.stackLimit := by
  unfold AddressSpace.stackLimit
  rw [same.codePages]

theorem initialStack (same : later.SameShape space) : later.initialStack = space.initialStack := by
  unfold AddressSpace.initialStack
  rw [same.codePages, same.stackPages]

theorem argumentPage (same : later.SameShape space) : later.argumentPage = space.argumentPage :=
  same.initialStack

end SameShape

theorem loadPage_shape {page : UInt32} {data : Bytes}
    (loaded : space.loadPage page data = .ok later) : later.SameShape space := by
  simp only [loadPage] at loaded
  split at loaded
  · cases loaded
    exact ⟨rfl, rfl, Pages.setPage_size _ _ _⟩
  · cases loaded

theorem writeExact_shape {address : UInt32} {data : Bytes}
    (written : space.writeExact address data = .ok later) : later.SameShape space := by
  unfold writeExact at written
  split at written
  · cases written
    exact ⟨rfl, rfl, Pages.overlay_size _ _ _⟩
  · cases written

end AddressSpace

namespace LoadedImage

variable {Routine : Type} {loaded : LoadedImage Routine} {space later : AddressSpace}
  {pool left : FramePool} {stack : UInt64} {cause : LoadError}

theorem loadPages_shape {count : Nat} {page : UInt32} {data : Bytes}
    (filled : loadPages page data count space = .ok later) : later.SameShape space := by
  induction count generalizing page data space with
  | zero =>
      cases filled
      exact .refl _
  | succ count ih =>
      obtain ⟨middle, first, rest⟩ := bind_eq_ok_iff.mp filled
      exact (ih rest).trans (AddressSpace.loadPage_shape first)

theorem loadSections_shape {sections : List Section}
    (filled : loadSections sections space = .ok later) : later.SameShape space := by
  induction sections generalizing space with
  | nil =>
      cases filled
      exact .refl _
  | cons part others ih =>
      obtain ⟨middle, first, rest⟩ := bind_eq_ok_iff.mp filled
      exact (ih rest).trans (loadPages_shape first)

theorem build_error (failed : loaded.build pool stack = (.error cause, left)) : left = pool := by
  unfold build at failed
  cases created : AddressSpace.create pool loaded.codePages stack with
  | error fault =>
      rw [created] at failed
      exact (Prod.mk.inj failed).2.symm
  | ok result =>
      obtain ⟨fresh, taken⟩ := result
      rw [created] at failed
      dsimp only at failed
      cases filled : loadSections loaded.image.sections fresh with
      | error fault =>
          rw [filled] at failed
          have released : taken.release fresh.pages.toNat = left := (Prod.mk.inj failed).2
          rw [← released]
          exact FramePool.release_of_reserve (AddressSpace.create_reserves created)
      | ok full =>
          rw [filled] at failed
          cases (Prod.mk.inj failed).1

theorem build_created (built : loaded.build pool stack = (.ok space, left)) :
    ∃ fresh, AddressSpace.create pool loaded.codePages stack = .ok (fresh, left) ∧
      space.SameShape fresh := by
  unfold build at built
  cases created : AddressSpace.create pool loaded.codePages stack with
  | error fault =>
      rw [created] at built
      cases (Prod.mk.inj built).1
  | ok result =>
      obtain ⟨fresh, taken⟩ := result
      rw [created] at built
      dsimp only at built
      cases filled : loadSections loaded.image.sections fresh with
      | error fault =>
          rw [filled] at built
          cases (Prod.mk.inj built).1
      | ok full =>
          rw [filled] at built
          obtain ⟨same, rest⟩ := Prod.mk.inj built
          cases same
          cases rest
          exact ⟨fresh, rfl, loadSections_shape filled⟩

theorem build_ok (built : loaded.build pool stack = (.ok space, left)) :
    pool.reserve space.pages.toNat = .ok left := by
  obtain ⟨fresh, created, same⟩ := build_created built
  rw [same.pages]
  exact AddressSpace.create_reserves created

end LoadedImage

namespace Arguments

variable {space later : AddressSpace} {arguments : Arguments} {layout : ArgumentLayout}

theorem writeEach_shape {pointer target : UInt32}
    (written : writeEach pointer target arguments space = .ok later) : later.SameShape space := by
  induction arguments generalizing pointer target space with
  | nil =>
      cases written
      exact .refl _
  | cons argument rest ih =>
      obtain ⟨linked, first, written⟩ := bind_eq_ok_iff.mp written
      obtain ⟨copied, second, written⟩ := bind_eq_ok_iff.mp written
      obtain ⟨closed, third, written⟩ := bind_eq_ok_iff.mp written
      have both :=
        (AddressSpace.writeExact_shape second).trans (AddressSpace.writeExact_shape first)
      exact (ih written).trans ((AddressSpace.writeExact_shape third).trans both)

theorem marshal_eq_ok_iff :
    arguments.marshal space = .ok (layout, later) ↔
      arguments.validate = .ok () ∧
        writeEach space.argumentPage
          (space.argumentPage + UInt32.ofNat (arguments.length * Limits.pointerSize)) arguments
          space = .ok later ∧
        (⟨UInt32.ofNat arguments.length, space.argumentPage⟩ : ArgumentLayout) = layout := by
  unfold marshal
  constructor
  · intro marshalled
    obtain ⟨⟨⟩, valid, marshalled⟩ := bind_eq_ok_iff.mp marshalled
    obtain ⟨filled, mapped, laidOut⟩ := bind_eq_ok_iff.mp marshalled
    cases laidOut
    refine ⟨valid, ?_, rfl⟩
    generalize writeEach _ _ _ _ = written at mapped
    cases written with
    | error cause => cases mapped
    | ok result =>
        cases mapped
        rfl
  · rintro ⟨valid, written, rfl⟩
    refine bind_eq_ok_iff.mpr ⟨(), valid, bind_eq_ok_iff.mpr ⟨later, ?_, rfl⟩⟩
    exact congrArg (Except.mapError MarshalError.memory) written

theorem marshal_shape (marshalled : arguments.marshal space = .ok (layout, later)) :
    later.SameShape space :=
  writeEach_shape (marshal_eq_ok_iff.mp marshalled).2.1

end Arguments

end Minikernel
