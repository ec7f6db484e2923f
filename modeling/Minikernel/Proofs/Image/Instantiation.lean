import Minikernel.Proofs.Image.Acceptance

/-!
Memory for an image that was loaded. Its sections have pages of their own, all of them below the
stack, so no page of a section is refused or written twice: once there is a space, it is filled
with all sections and zeros between them. Only the space itself can be refused, and then nothing
was taken.
-/

namespace Minikernel

namespace Section

variable {sections : List Section} {part : Section} {page : Nat}

theorem Contiguous.within (contiguous : Contiguous page sections) (member : part ∈ sections) :
    page ≤ part.firstPage.toNat ∧
      part.firstPage.toNat + part.pageCount.toNat ≤ page + totalPages sections := by
  obtain ⟨before, after, rfl⟩ := List.append_of_mem member
  have start := (contiguous_iff_inOrder.mp contiguous before part after rfl).start
  rw [totalPages_append, totalPages]
  omega

theorem Contiguous.pairwise (contiguous : Contiguous page sections) :
    sections.Pairwise fun first second =>
      first.firstPage.toNat + first.pageCount.toNat ≤ second.firstPage.toNat := by
  induction sections generalizing page with
  | nil => exact .nil
  | cons first rest ih =>
      obtain ⟨start, -, -, others⟩ := contiguous
      refine .cons (fun second member => ?_) (ih others)
      rw [start]
      exact (others.within member).1

theorem Contiguous.holds {memory : Pages} (contiguous : Contiguous page sections)
    (held : memory.Holds (page * Limits.pageSize) (sections.flatMap placed))
    (member : part ∈ sections) :
    memory.Holds (part.firstPage.toNat * Limits.pageSize) part.data := by
  induction sections generalizing page with
  | nil => cases member
  | cons first rest ih =>
      obtain ⟨start, -, fits, others⟩ := contiguous
      obtain ⟨front, back⟩ := Pages.holds_append_iff.mp held
      cases member with
      | head =>
          rw [start]
          exact (Pages.holds_append_iff.mp front).1
      | tail _ member =>
          rw [placed, Page.filled_length fits, ← Nat.add_mul] at back
          exact ih others back member

theorem Contiguous.blank {index : Nat} (contiguous : Contiguous page sections)
    (outside : ∀ part ∈ sections,
      ¬(part.firstPage.toNat * Limits.pageSize ≤ page * Limits.pageSize + index ∧
        page * Limits.pageSize + index <
          part.firstPage.toNat * Limits.pageSize + part.data.length)) :
    (sections.flatMap placed).getD index 0 = 0 := by
  induction sections generalizing page index with
  | nil => rfl
  | cons first rest ih =>
      obtain ⟨start, -, fits, others⟩ := contiguous
      have whole := Page.filled_length fits
      rw [List.flatMap_cons, placed]
      by_cases inside : index < first.pageCount.toNat * Limits.pageSize
      · have past := outside first List.mem_cons_self
        rw [start] at past
        have beyond : first.data.length ≤ index := by omega
        rw [List.getD_append _ _ _ _ (by rwa [whole]), Page.getD_filled,
          List.getD_eq_default _ _ beyond]
      · rw [List.getD_append_right _ _ _ _ (by rw [whole]; omega), whole]
        refine ih others fun part member covered => outside part (.tail _ member) ?_
        have place : (page + first.pageCount.toNat) * Limits.pageSize +
            (index - first.pageCount.toNat * Limits.pageSize) = page * Limits.pageSize + index := by
          rw [Nat.add_mul]
          omega
        rwa [place] at covered

end Section

namespace LoadedImage

open Section

variable {space : AddressSpace} {sections : List Section}

def copies (sections : List Section) : List (UInt32 × Bytes) :=
  sections.flatMap fun part =>
    (List.range part.pageCount.toNat).map fun index =>
      (part.firstPage + UInt32.ofNat index, part.pageData index)

def copyAll (space : AddressSpace) (pages : List (UInt32 × Bytes)) :
    Except MemoryError AddressSpace :=
  pages.foldlM (fun space page => space.loadPage page.1 page.2) space

-- The loop cuts the first page off and goes on with a smaller section, so the section is
-- generalized and not only the number of its pages.
theorem loadPages_eq_copyAll {count : Nat} (part : Section) :
    loadPages part.firstPage part.data count space =
      copyAll space ((List.range count).map fun index =>
        (part.firstPage + UInt32.ofNat index, part.pageData index)) := by
  induction count generalizing part space with
  | zero => rfl
  | succ count ih =>
      have first : part.pageData 0 = part.data.take Limits.pageSize := by
        rw [pageData, Nat.zero_mul, List.drop_zero]
      have next : ∀ index : Nat, part.firstPage + UInt32.ofNat (index + 1) =
          part.firstPage + 1 + UInt32.ofNat index := by
        intro index
        rw [UInt32.ofNat_add, UInt32.add_comm (UInt32.ofNat index), ← UInt32.add_assoc]
        rfl
      have start : part.firstPage + UInt32.ofNat 0 = part.firstPage := UInt32.add_zero _
      have later := fun space : AddressSpace => @ih space
        { part with firstPage := part.firstPage + 1, data := part.data.drop Limits.pageSize }
      rw [List.range_succ_eq_map, List.map_cons, List.map_map, loadPages, copyAll,
        List.foldlM_cons, start, first]
      refine congrArg (space.loadPage part.firstPage (part.data.take Limits.pageSize) >>= ·) ?_
      funext space
      rw [later space]
      simp only [copyAll, Function.comp_def, Nat.succ_eq_add_one, next, pageData_succ]
      rfl

theorem loadSections_eq_copyAll :
    loadSections sections space = copyAll space (copies sections) := by
  induction sections generalizing space with
  | nil => rfl
  | cons part rest ih =>
      rw [loadSections, loadPages_eq_copyAll, copies, List.flatMap_cons, copyAll, copyAll,
        List.foldlM_append]
      refine congrArg (_ >>= ·) ?_
      funext space
      exact ih

theorem copy_lands {page : UInt32 × Bytes} (contiguous : Contiguous 0 sections)
    (room : totalPages sections * Limits.pageSize ≤ space.size) (small : space.size < UInt32.size)
    (member : page ∈ copies sections) : ∃ next, space.loadPage page.1 page.2 = .ok next := by
  obtain ⟨part, found, copied⟩ := List.mem_flatMap.mp member
  obtain ⟨index, below, rfl⟩ := List.mem_map.mp copied
  have last := (contiguous.within found).2
  have inside : (part.firstPage.toNat + index + 1) * Limits.pageSize ≤ space.size := by
    refine Nat.le_trans (Nat.mul_le_mul_right _ ?_) room
    have below := List.mem_range.mp below
    omega
  have number : (part.firstPage + UInt32.ofNat index).toNat = part.firstPage.toNat + index := by
    refine toNat_advance (Nat.lt_of_lt_of_le (Nat.lt_succ_self _) ?_)
    exact Nat.le_trans (Nat.le_mul_of_pos_right _ (by decide : 0 < Limits.pageSize))
      (Nat.le_trans inside (Nat.le_of_lt small))
  rw [← number] at inside
  exact ⟨_, AddressSpace.loadPage_eq (List.length_take_le _ _) inside⟩

variable {Routine : Type} {loaded : LoadedImage Routine} {pool taken : FramePool}
  {stackPages : UInt64} {fresh : AddressSpace} {source : MemoryError}

/-- What a new space is filled with: every section from the start of its first page on, and zeros
wherever there is no data of a section. -/
structure Fills (loaded : LoadedImage Routine) (fresh space : AddressSpace) : Prop where
  shape : space.SameShape fresh
  sections : ∀ part ∈ loaded.image.sections,
    space.memory.Holds (part.firstPage.toNat * 1024) part.data
  blank : ∀ address < space.size,
    (∀ part ∈ loaded.image.sections, ¬(part.firstPage.toNat * 1024 ≤ address ∧
      address < part.firstPage.toNat * 1024 + part.data.length)) →
    space.memory.byte address = 0

theorem fills_of_contiguous (contiguous : Contiguous 0 loaded.image.sections)
    (code : loaded.codePages.toNat = loaded.image.pageCount)
    (created : AddressSpace.create pool loaded.codePages stackPages = .ok (fresh, taken)) :
    loaded.Fills fresh (fresh.overlaid 0 (loaded.image.sections.flatMap placed)) := by
  have inside := contents_inside contiguous code created
  have filled := Pages.holds_overlay inside
  refine ⟨⟨rfl, rfl, AddressSpace.overlaid_size _ _⟩, fun part member => ?_, ?_⟩
  · rw [← Nat.zero_mul Limits.pageSize] at filled
    exact contiguous.holds filled member
  · intro address bound outside
    have untouched : fresh.memory.byte address = 0 := by
      obtain ⟨-, -, rfl⟩ := AddressSpace.create_eq_ok_iff.mp created
      exact Pages.zeros_byte _ _
    rw [AddressSpace.overlaid_size] at bound
    have byte := Pages.byte_overlay fresh.memory 0 (loaded.image.sections.flatMap placed) _ bound
    rw [untouched, Nat.sub_zero] at byte
    refine byte.trans ?_
    split
    · refine contiguous.blank fun part member covered => outside part member ?_
      rwa [Nat.zero_mul, Nat.zero_add] at covered
    · rfl

theorem refused_of_create
    (refused : AddressSpace.create pool loaded.codePages stackPages = .error source) :
    loaded.build pool stackPages = (.error (.memory loaded.name source), pool) ∧
      loaded.instantiate pool stackPages = .error (.memory loaded.name source) := by
  rw [instantiate, build, refused]
  exact ⟨rfl, rfl⟩

end LoadedImage

namespace Loader

open LoadedImage

variable {Routine : Type} {loader : Loader Routine} {loaded : LoadedImage Routine} {name : String}
  {pool : FramePool} {stackPages : UInt64}

theorem contiguous_of_load (loads : loader.load name = .ok loaded) :
    Section.Contiguous 0 loaded.image.sections ∧ loaded.image.pageCount < UInt32.size ∧
      loaded.codePages.toNat = loaded.image.pageCount := by
  obtain ⟨-, -, wellFormed, -⟩ := load_eq_ok_iff.mp loads
  obtain ⟨-, -, -, contiguous, numbered⟩ :=
    validateImage_eq_ok_iff.mp ((@Image.validateImage_eq_ok_iff_wellFormed _ name).mpr wellFormed)
  have narrow : UInt32.size < UInt64.size := by decide
  exact ⟨contiguous, numbered, UInt64.toNat_ofNat_of_lt' (Nat.lt_trans numbered narrow)⟩

/-- An image that was loaded fills every space that can be made for it. The pages of its sections
have numbers and are apart, and none of them is refused, whatever was filled before it. Only the
space itself can be refused, and then the pool is as it was. -/
theorem loaded_image_fills_its_space (loads : loader.load name = .ok loaded)
    (fits : loaded.codePages.toNat + stackPages.toNat + 1 < 2 ^ 64) :
    (∀ part ∈ loaded.image.sections,
      part.firstPage.toNat + part.pageCount.toNat < 2 ^ 32) ∧
    (loaded.image.sections.Pairwise fun first second =>
      first.firstPage.toNat + first.pageCount.toNat ≤ second.firstPage.toNat) ∧
    (∀ fresh taken,
      AddressSpace.create pool loaded.codePages stackPages = .ok (fresh, taken) →
      (∀ page ∈ copies loaded.image.sections, ∀ space : AddressSpace, space.SameShape fresh →
        ∃ next, space.loadPage page.1 page.2 = .ok next) ∧
      ∃ space, copyAll fresh (copies loaded.image.sections) = .ok space ∧
        loaded.instantiate pool stackPages = .ok (space, taken) ∧ loaded.Fills fresh space) ∧
    (∀ cause, loaded.instantiate pool stackPages = .error cause ↔
      ∃ source, AddressSpace.create pool loaded.codePages stackPages = .error source ∧
        source ≠ .overflow ∧ cause = .memory name source) ∧
    ∀ cause left, loaded.build pool stackPages = (.error cause, left) → left = pool := by
  obtain ⟨contiguous, numbered, code⟩ := contiguous_of_load loads
  obtain ⟨rfl, -⟩ := load_eq_ok_iff.mp loads
  have runs : ∀ fresh taken,
      AddressSpace.create pool loaded.codePages stackPages = .ok (fresh, taken) →
      loaded.instantiate pool stackPages =
        .ok (fresh.overlaid 0 (loaded.image.sections.flatMap Section.placed), taken) := by
    intro fresh taken created
    rw [instantiate, build_of_contiguous contiguous code created]
  refine ⟨fun part member => ?_, contiguous.pairwise, fun fresh taken created => ?_,
    fun cause => ?_, fun cause left failed => ?_⟩
  · have last := (contiguous.within member).2
    rw [Nat.zero_add] at last
    exact Nat.lt_of_le_of_lt last numbered
  · have inside := contents_inside contiguous code created
    rw [Nat.zero_add, Section.contents_length contiguous] at inside
    have small := (AddressSpace.create_size created).1
    refine ⟨fun page member space same => ?_, _, ?_, runs fresh taken created,
      fills_of_contiguous contiguous code created⟩
    · exact copy_lands contiguous (by rwa [same.size]) (by rwa [same.size]) member
    · have filled := loadSections_eq small contiguous (by rwa [Nat.zero_add])
      rwa [Nat.zero_mul, loadSections_eq_copyAll] at filled
  · cases created : AddressSpace.create pool loaded.codePages stackPages with
    | ok made =>
        rw [runs made.1 made.2 created]
        simp
    | error source =>
        have counted : source ≠ .overflow := by
          rintro rfl
          exact Nat.not_le.mpr fits (AddressSpace.create_eq_overflow_iff.mp created)
        rw [(refused_of_create created).2]
        simp [eq_comm, counted]
  · cases created : AddressSpace.create pool loaded.codePages stackPages with
    | ok made =>
        rw [build_of_contiguous contiguous code created] at failed
        cases failed
    | error source =>
        rw [(refused_of_create created).1] at failed
        cases failed
        rfl

-- The data of the first section goes over to its second page, and the section in the middle has
-- pages but no data. With one frame less there is no space.
theorem sparse_image_fills_eight_frames :
    let image : Image := ⟨0x0162, "main", [⟨".text", 0, 2, List.replicate 1025 7⟩,
      ⟨".bss", 2, 3, []⟩, ⟨".data", 5, 1, List.replicate 1024 9⟩]⟩
    let loader : Loader Unit := ⟨⟨[.memory ⟨[("a.coff", image.bytes)]⟩]⟩, ⟨[("main", ())]⟩⟩
    let loaded : LoadedImage Unit := ⟨"a.coff", image, ()⟩
    loader.load "a.coff" = .ok loaded ∧
      loaded.codePages.toNat + (1 : UInt64).toNat + 1 < 2 ^ 64 ∧
      (∃ space taken, loaded.instantiate (.ofSize 8) 1 = .ok (space, taken) ∧
        space.memory.Holds 0 (List.replicate 1025 7) ∧
        space.memory.Holds 5120 (List.replicate 1024 9) ∧
        space.memory.byte 1025 = 0 ∧ space.memory.byte 6144 = 0) ∧
      loaded.instantiate (.ofSize 7) 1 = .error (.memory "a.coff" (.outOfFrames 8 7 7)) := by
  intro image loader loaded
  have small : image.encodedSize < UInt64.size := by decide +kernel
  have wellFormed : image.WellFormed := by
    refine Image.validateImage_eq_ok_iff_wellFormed.mp (?_ : validateImage "a.coff" image = .ok ())
    decide +kernel
  have loads : loader.load "a.coff" = .ok loaded :=
    load_eq_ok_iff.mpr ⟨rfl, ⟨isValidName_iff.mp (by decide), image.bytes,
      Store.find?_eq_some_iff.mp rfl, Image.decode_eq_ok_iff.mpr (Image.form_bytes small)⟩,
      wellFormed, rfl⟩
  have fits : loaded.codePages.toNat + (1 : UInt64).toNat + 1 < 2 ^ 64 := by decide
  have created : AddressSpace.create (.ofSize 8) loaded.codePages 1 =
      .ok (⟨.zeros 8, 6, 1⟩, ⟨8, 8, by decide⟩) :=
    AddressSpace.create_eq_ok_iff.mpr ⟨by decide, rfl, rfl⟩
  obtain ⟨-, -, granted, -, -⟩ := @loaded_image_fills_its_space _ _ _ _ (.ofSize 8) _ loads fits
  obtain ⟨-, space, -, instantiated, fills⟩ := granted _ _ created
  have short : AddressSpace.create (.ofSize 7) loaded.codePages 1 =
      .error (.outOfFrames 8 7 7) := by
    have counted : AddressSpace.pagesFor loaded.codePages 1 = .ok 8 :=
      AddressSpace.pagesFor_eq_ok_iff.mpr ⟨by decide, by decide⟩
    rw [AddressSpace.create, counted]
    rfl
  obtain ⟨-, -, -, refused, -⟩ := @loaded_image_fills_its_space _ _ _ _ (.ofSize 7) _ loads fits
  have size : space.size = 8192 := fills.shape.size.trans (by decide)
  refine ⟨loads, fits, ⟨space, _, instantiated, ?_, ?_, ?_, ?_⟩, ?_⟩
  · exact fills.sections ⟨".text", 0, 2, List.replicate 1025 7⟩ List.mem_cons_self
  · exact fills.sections ⟨".data", 5, 1, List.replicate 1024 9⟩ (.tail _ (.tail _ (.head _)))
  · refine fills.blank 1025 (by omega) ?_
    simp [loaded, image, -List.reduceReplicate]
  · refine fills.blank 6144 (by omega) ?_
    simp [loaded, image, -List.reduceReplicate]
  · exact (refused _).mpr ⟨_, short, nofun, rfl⟩

end Loader

end Minikernel
