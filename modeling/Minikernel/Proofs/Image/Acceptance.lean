import Minikernel.Proofs.Image.Placement

/-!
What the loader accepts, and what it says of all else. An image is accepted for what it is as a
whole: its sections fill the pages from zero on without a gap, and all their pages have numbers.
The checks are made one after the other, and a load fails with the first that is not passed: the
name, the store, the stored form, the image itself and its sections in turn, and last the entry.
-/

namespace Minikernel

structure NamesExecutable (name : String) : Prop where
  least : 6 ≤ name.utf8ByteSize
  most : name.utf8ByteSize ≤ 256
  noZero : '\x00' ∉ name.toList
  suffix : ∃ stem, name = stem ++ ".coff"

def Store.Finds (store : Store) (name : String) (bytes : Bytes) : Prop :=
  ∃ before layer after, store.layers = before ++ layer :: after ∧
    (∀ other ∈ before, other.find? name = none) ∧ layer.find? name = some bytes

theorem Store.find?_eq_some_iff {store : Store} {name : String} {bytes : Bytes} :
    store.find? name = some bytes ↔ store.Finds name bytes := by
  unfold find? Finds
  rw [List.findSome?_eq_some_iff]
  simp only [and_comm]

theorem Store.find?_eq_none_iff {store : Store} {name : String} :
    store.find? name = none ↔ ∀ layer ∈ store.layers, layer.find? name = none := by
  unfold find?
  rw [List.findSome?_eq_none_iff]

theorem Loader.isValidName_iff {name : String} :
    isValidName name = true ↔ NamesExecutable name := by
  have suffix : Limits.executableSuffix.toList.isSuffixOf name.toList = true ↔
      ∃ stem, name = stem ++ ".coff" := by
    rw [List.isSuffixOf_iff_suffix]
    constructor
    · rintro ⟨stem, whole⟩
      refine ⟨String.ofList stem, String.toList_inj.mp ?_⟩
      rw [String.toList_append, String.toList_ofList]
      exact whole.symm
    · rintro ⟨stem, rfl⟩
      rw [String.toList_append]
      exact ⟨stem.toList, rfl⟩
  have five : Limits.executableSuffix.utf8ByteSize = 5 := by decide
  have most : Limits.maxStringLength = 256 := rfl
  simp only [isValidName, Bool.and_eq_true, decide_eq_true_eq, Bool.not_eq_true', suffix, five,
    most, List.contains_eq_mem, decide_eq_false_iff_not]
  constructor
  · rintro ⟨⟨⟨short, noZero⟩, long⟩, ends⟩
    exact ⟨long, short, noZero, ends⟩
  · rintro ⟨long, short, noZero, ends⟩
    exact ⟨⟨⟨short, noZero⟩, long⟩, ends⟩

namespace Section

variable {part : Section} {sections : List Section} {page : Nat} {name : String}
  {cause : LoadError}

structure InPlace (page : Nat) (part : Section) : Prop where
  start : part.firstPage.toNat = page
  paged : 1 ≤ part.pageCount.toNat
  holds : part.data.length ≤ part.pageCount.toNat * 1024

/-- Each section starts where the pages of those before it end. -/
def InOrder (page : Nat) (sections : List Section) : Prop :=
  ∀ before part after, sections = before ++ part :: after →
    InPlace (page + totalPages before) part

/-- What is wrong with a section that should start at a page: where it starts, then its size, then
the number of the page after it. -/
inductive Fault (name : String) (page : Nat) (part : Section) : LoadError → Prop
  | fragmented (elsewhere : part.firstPage.toNat ≠ page) :
      Fault name page part (.fragmented name part.name part.firstPage (UInt32.ofNat page))
  | overfull (start : part.firstPage.toNat = page)
      (small : part.pageCount.toNat = 0 ∨ part.pageCount.toNat * 1024 < part.data.length) :
      Fault name page part (.malformed name
        (s!"section {part.name} holds {part.data.length} bytes in " ++ s!"{part.pageCount} pages"))
  | overflowing (inPlace : InPlace page part)
      (large : 2 ^ 32 - 1 < page + part.pageCount.toNat) :
      Fault name page part (.malformed name "section pages overflow")

theorem totalPages_append (before after : List Section) :
    totalPages (before ++ after) = totalPages before + totalPages after := by
  induction before with
  | nil => simp [totalPages]
  | cons part rest ih => simp only [List.cons_append, totalPages, ih, Nat.add_assoc]

theorem inOrder_cons {rest : List Section} :
    InOrder page (part :: rest) ↔
      InPlace page part ∧ InOrder (page + part.pageCount.toNat) rest := by
  constructor
  · intro inOrder
    refine ⟨inOrder [] part rest rfl, fun before other after split => ?_⟩
    have later := inOrder (part :: before) other after (by rw [split, List.cons_append])
    rwa [totalPages, ← Nat.add_assoc] at later
  · rintro ⟨inPlace, later⟩ before other after split
    cases before with
    | nil =>
        cases split
        exact inPlace
    | cons first before =>
        cases split
        rw [totalPages, ← Nat.add_assoc]
        exact later before other after rfl

theorem contiguous_iff_inOrder : Contiguous page sections ↔ InOrder page sections := by
  induction sections generalizing page with
  | nil => exact iff_of_true trivial fun before part after split => by simp at split
  | cons part rest ih =>
      rw [Contiguous, ih, inOrder_cons]
      constructor
      · rintro ⟨start, paged, holds, later⟩
        exact ⟨⟨start, paged, holds⟩, later⟩
      · rintro ⟨⟨start, paged, holds⟩, later⟩
        exact ⟨start, paged, holds, later⟩

theorem inPlace_or_fault (name : String) (page : Nat) (part : Section) :
    (InPlace page part ∧ page + part.pageCount.toNat ≤ 2 ^ 32 - 1) ∨
      ∃ cause, Fault name page part cause := by
  by_cases start : part.firstPage.toNat = page
  · by_cases small : part.pageCount.toNat = 0 ∨ part.pageCount.toNat * 1024 < part.data.length
    · exact .inr ⟨_, .overfull start small⟩
    · have inPlace : InPlace page part := ⟨start, by omega, by omega⟩
      by_cases large : 2 ^ 32 - 1 < page + part.pageCount.toNat
      · exact .inr ⟨_, .overflowing inPlace large⟩
      · exact .inl ⟨inPlace, Nat.le_of_not_lt large⟩
  · exact .inr ⟨_, .fragmented start⟩

end Section

namespace Loader

open Section

variable {part : Section} {sections rest : List Section} {expected : UInt32} {name : String}
  {cause : LoadError}

theorem validateSections_of_inPlace (inPlace : InPlace expected.toNat part)
    (room : expected.toNat + part.pageCount.toNat ≤ 2 ^ 32 - 1) :
    validateSections name expected (part :: rest) =
      validateSections name (expected + part.pageCount) rest := by
  obtain ⟨start, paged, holds⟩ := inPlace
  have page : Limits.pageSize = 1024 := rfl
  have size : UInt32.size = 2 ^ 32 := rfl
  have empty : part.pageCount = 0 ↔ part.pageCount.toNat = 0 := UInt32.toNat_inj.symm
  rw [validateSections, if_neg (not_not.mpr (UInt32.toNat_inj.mp start)), if_neg, if_pos (by omega)]
  rw [empty, page]
  omega

theorem validateSections_of_fault (fault : Fault name expected.toNat part cause) :
    validateSections name expected (part :: rest) = .error cause := by
  have page : Limits.pageSize = 1024 := rfl
  have size : UInt32.size = 2 ^ 32 := rfl
  have empty : part.pageCount = 0 ↔ part.pageCount.toNat = 0 := UInt32.toNat_inj.symm
  rw [validateSections]
  cases fault with
  | fragmented elsewhere =>
      rw [if_pos fun same => elsewhere (congrArg UInt32.toNat same), UInt32.ofNat_toNat]
  | overfull start small =>
      rw [if_neg (not_not.mpr (UInt32.toNat_inj.mp start)), if_pos]
      rwa [empty, page]
  | overflowing inPlace large =>
      obtain ⟨start, paged, holds⟩ := inPlace
      rw [if_neg (not_not.mpr (UInt32.toNat_inj.mp start)), if_neg, if_neg (by omega)]
      rw [empty, page]
      omega

theorem toNat_after (room : expected.toNat + part.pageCount.toNat ≤ 2 ^ 32 - 1) :
    (expected + part.pageCount).toNat = expected.toNat + part.pageCount.toNat := by
  rw [UInt32.toNat_add]
  omega

theorem validateSections_eq_error_iff :
    validateSections name expected sections = .error cause ↔
      ∃ before part after, sections = before ++ part :: after ∧
        InOrder expected.toNat before ∧ expected.toNat + totalPages before ≤ 2 ^ 32 - 1 ∧
        Fault name (expected.toNat + totalPages before) part cause := by
  induction sections generalizing expected with
  | nil => simp [validateSections]
  | cons first rest ih =>
      constructor
      · intro refused
        obtain ⟨inPlace, room⟩ | ⟨found, fault⟩ := inPlace_or_fault name expected.toNat first
        · rw [validateSections_of_inPlace inPlace room, ih, toNat_after room] at refused
          obtain ⟨before, part, after, rfl, inOrder, few, fault⟩ := refused
          rw [Nat.add_assoc] at few fault
          exact ⟨first :: before, part, after, rfl, inOrder_cons.mpr ⟨inPlace, inOrder⟩, few, fault⟩
        · rw [validateSections_of_fault fault] at refused
          cases refused
          have bound := expected.toNat_lt
          exact ⟨[], first, rest, rfl, by simp [InOrder], by simp only [totalPages]; omega, fault⟩
      · rintro ⟨before, part, after, split, inOrder, few, fault⟩
        cases before with
        | nil =>
            cases split
            exact validateSections_of_fault fault
        | cons other before =>
            cases split
            obtain ⟨inPlace, inOrder⟩ := inOrder_cons.mp inOrder
            rw [totalPages, ← Nat.add_assoc] at few fault
            have room : expected.toNat + first.pageCount.toNat ≤ 2 ^ 32 - 1 := by omega
            rw [validateSections_of_inPlace inPlace room, ih, toNat_after room]
            exact ⟨before, part, after, rfl, inOrder, few, fault⟩

example : validateSections "a.coff" 0 [⟨".text", 1, 0, [7]⟩] =
    .error (.fragmented "a.coff" ".text" 1 0) := rfl

end Loader

namespace Image

variable {image : Image} {name : String} {cause : LoadError}

structure WellFormed (image : Image) : Prop where
  stamped : image.magic = 0x0162
  parted : image.sections ≠ []
  named : image.entry ≠ ""
  placed : Section.InOrder 0 image.sections
  numbered : Section.totalPages image.sections ≤ 2 ^ 32 - 1

/-- What is wrong with an image: its magic word, that it has no sections, that it has no entry
symbol, then the first section that is not as it should be. -/
inductive Refused (name : String) (image : Image) : LoadError → Prop
  | badMagic (unstamped : image.magic ≠ 0x0162) : Refused name image (.badMagic name image.magic)
  | noSections (stamped : image.magic = 0x0162) (bare : image.sections = []) :
      Refused name image (.malformed name "no sections")
  | noEntry (stamped : image.magic = 0x0162) (parted : image.sections ≠ [])
      (unnamed : image.entry = "") : Refused name image (.malformed name "empty entry symbol")
  | badSection {before after : List Section} {part : Section} {cause : LoadError}
      (stamped : image.magic = 0x0162) (named : image.entry ≠ "")
      (split : image.sections = before ++ part :: after) (placed : Section.InOrder 0 before)
      (numbered : Section.totalPages before ≤ 2 ^ 32 - 1)
      (fault : Section.Fault name (Section.totalPages before) part cause) :
      Refused name image cause

theorem validateImage_eq_ok_iff_wellFormed :
    Loader.validateImage name image = .ok () ↔ image.WellFormed := by
  rw [Loader.validateImage_eq_ok_iff, Section.contiguous_iff_inOrder]
  have size : UInt32.size = 2 ^ 32 := rfl
  have total : image.pageCount = Section.totalPages image.sections := rfl
  constructor
  · rintro ⟨stamped, parted, named, placed, numbered⟩
    exact ⟨stamped, parted, named, placed, by omega⟩
  · rintro ⟨stamped, parted, named, placed, numbered⟩
    exact ⟨stamped, parted, named, placed, by omega⟩

theorem validateImage_of_sections (stamped : image.magic = 0x0162) (parted : image.sections ≠ [])
    (named : image.entry ≠ "") :
    Loader.validateImage name image = Loader.validateSections name 0 image.sections := by
  have magic : Limits.imageMagic = 0x0162 := rfl
  rw [Loader.validateImage, magic, if_neg (not_not.mpr stamped),
    if_neg (by rwa [List.isEmpty_iff]), if_neg named]

theorem validateImage_of_refused (refused : image.Refused name cause) :
    Loader.validateImage name image = .error cause := by
  have magic : Limits.imageMagic = 0x0162 := rfl
  cases refused with
  | badMagic unstamped => rw [Loader.validateImage, magic, if_pos unstamped]
  | noSections stamped bare =>
      rw [Loader.validateImage, magic, if_neg (not_not.mpr stamped),
        if_pos (List.isEmpty_iff.mpr bare)]
  | noEntry stamped parted unnamed =>
      rw [Loader.validateImage, magic, if_neg (not_not.mpr stamped),
        if_neg (by rwa [List.isEmpty_iff]), if_pos unnamed]
  | badSection stamped named split placed numbered fault =>
      have parted : image.sections ≠ [] := by simp [split]
      rw [validateImage_of_sections stamped parted named, Loader.validateSections_eq_error_iff,
        UInt32.toNat_zero]
      rw [← Nat.zero_add (Section.totalPages _)] at numbered fault
      exact ⟨_, _, _, split, placed, numbered, fault⟩

theorem wellFormed_or_refused (name : String) (image : Image) :
    image.WellFormed ∨ ∃ cause, image.Refused name cause := by
  by_cases stamped : image.magic = 0x0162
  · by_cases bare : image.sections = []
    · exact .inr ⟨_, .noSections stamped bare⟩
    · by_cases unnamed : image.entry = ""
      · exact .inr ⟨_, .noEntry stamped bare unnamed⟩
      · have checked := @validateImage_of_sections image name stamped bare unnamed
        cases outcome : Loader.validateSections name 0 image.sections with
        | ok passed =>
            rw [outcome] at checked
            exact .inl (validateImage_eq_ok_iff_wellFormed.mp checked)
        | error found =>
            obtain ⟨before, part, after, split, placed, numbered, fault⟩ :=
              Loader.validateSections_eq_error_iff.mp outcome
            rw [UInt32.toNat_zero, Nat.zero_add] at numbered fault
            exact .inr ⟨found, .badSection stamped unnamed split placed numbered fault⟩
  · exact .inr ⟨_, .badMagic stamped⟩

end Image

namespace Loader

variable {Routine : Type} {loader : Loader Routine} {loaded : LoadedImage Routine}
  {name : String} {image : Image} {cause : LoadError}

structure Reads (loader : Loader Routine) (name : String) (image : Image) : Prop where
  named : NamesExecutable name
  stored : ∃ bytes, loader.store.Finds name bytes ∧ Image.decode bytes = .ok image

/-- What a load fails with: the first thing that is wrong on the way from the name to the routine
of the entry symbol. -/
inductive Refused (loader : Loader Routine) (name : String) : LoadError → Prop
  | invalidName (unnamed : ¬NamesExecutable name) : Refused loader name (.invalidName name)
  | notFound (named : NamesExecutable name)
      (missing : ∀ layer ∈ loader.store.layers, layer.find? name = none) :
      Refused loader name (.notFound name)
  | undecodable {bytes : Bytes} {fault : DecodeError} (named : NamesExecutable name)
      (found : loader.store.Finds name bytes) (failed : Image.decode bytes = .error fault) :
      Refused loader name (.malformed name fault.message)
  | badImage {image : Image} {cause : LoadError} (reads : loader.Reads name image)
      (refused : image.Refused name cause) : Refused loader name cause
  | unknownEntry {image : Image} (reads : loader.Reads name image)
      (wellFormed : image.WellFormed) (unbound : loader.entries.find? image.entry = none) :
      Refused loader name (.unknownEntry name image.entry)

theorem load_of_reads (reads : loader.Reads name image) :
    loader.load name = (do
      validateImage name image
      match loader.entries.find? image.entry with
      | none => throw (.unknownEntry name image.entry)
      | some routine => return ⟨name, image, routine⟩) := by
  obtain ⟨named, bytes, found, decoded⟩ := reads
  have held := load_of_held (isValidName_iff.mpr named) (Store.find?_eq_some_iff.mpr found)
  rw [decoded] at held
  exact held

theorem load_of_wellFormed (reads : loader.Reads name image) (wellFormed : image.WellFormed) :
    loader.load name =
      match loader.entries.find? image.entry with
      | none => .error (.unknownEntry name image.entry)
      | some routine => .ok ⟨name, image, routine⟩ := by
  have read := load_of_reads reads
  rw [Image.validateImage_eq_ok_iff_wellFormed.mpr wellFormed] at read
  exact read

theorem load_of_refused (refused : loader.Refused name cause) :
    loader.load name = .error cause := by
  cases refused with
  | invalidName unnamed =>
      rw [load, validateName, if_neg (mt isValidName_iff.mp unnamed)]
      rfl
  | notFound named missing =>
      rw [load, validateName, if_pos (isValidName_iff.mpr named),
        Store.find?_eq_none_iff.mpr missing]
      rfl
  | undecodable named found failed =>
      rw [load_of_held (isValidName_iff.mpr named) (Store.find?_eq_some_iff.mpr found), failed]
  | badImage reads refused =>
      rw [load_of_reads reads, Image.validateImage_of_refused refused]
      rfl
  | unknownEntry reads wellFormed unbound =>
      rw [load_of_wellFormed reads wellFormed, unbound]

theorem loadable_or_refused (loader : Loader Routine) (name : String) :
    (∃ image routine, loader.Reads name image ∧ image.WellFormed ∧
        loader.entries.find? image.entry = some routine) ∨
      ∃ cause, loader.Refused name cause := by
  by_cases named : NamesExecutable name
  · cases held : loader.store.find? name with
    | none => exact .inr ⟨_, .notFound named (Store.find?_eq_none_iff.mp held)⟩
    | some bytes =>
        have found := Store.find?_eq_some_iff.mp held
        cases decoded : Image.decode bytes with
        | error fault => exact .inr ⟨_, .undecodable named found decoded⟩
        | ok image =>
            have reads : loader.Reads name image := ⟨named, bytes, found, decoded⟩
            obtain wellFormed | ⟨cause, refused⟩ := Image.wellFormed_or_refused name image
            · cases bound : loader.entries.find? image.entry with
              | none => exact .inr ⟨_, .unknownEntry reads wellFormed bound⟩
              | some routine => exact .inl ⟨image, routine, reads, wellFormed, bound⟩
            · exact .inr ⟨cause, .badImage reads refused⟩
  · exact .inr ⟨_, .invalidName named⟩

theorem load_of_loadable {routine : Routine} (reads : loader.Reads name image)
    (wellFormed : image.WellFormed) (bound : loader.entries.find? image.entry = some routine) :
    loader.load name = .ok ⟨name, image, routine⟩ := by
  rw [load_of_wellFormed reads wellFormed, bound]

theorem load_eq_ok_iff :
    loader.load name = .ok loaded ↔
      loaded.name = name ∧ loader.Reads name loaded.image ∧ loaded.image.WellFormed ∧
        loader.entries.find? loaded.image.entry = some loaded.routine := by
  constructor
  · intro loads
    obtain ⟨image, routine, reads, wellFormed, bound⟩ | ⟨cause, refused⟩ :=
      loadable_or_refused loader name
    · rw [load_of_loadable reads wellFormed bound] at loads
      cases loads
      exact ⟨rfl, reads, wellFormed, bound⟩
    · rw [load_of_refused refused] at loads
      cases loads
  · rintro ⟨rfl, reads, wellFormed, bound⟩
    exact load_of_loadable reads wellFormed bound

/-- A load gives an image exactly if the name is that of an executable, the first layer that holds
it has the stored form of a well-formed image, and the entry symbol is bound. Otherwise it fails
with the first of these conditions that does not hold. -/
theorem load_accepts_well_formed :
    (∀ loaded, loader.load name = .ok loaded ↔
      loaded.name = name ∧ loader.Reads name loaded.image ∧ loaded.image.WellFormed ∧
        loader.entries.find? loaded.image.entry = some loaded.routine) ∧
    ∀ cause, loader.load name = .error cause ↔ loader.Refused name cause := by
  refine ⟨fun loaded => load_eq_ok_iff, fun cause => ⟨fun failed => ?_, load_of_refused⟩⟩
  obtain ⟨image, routine, reads, wellFormed, bound⟩ | ⟨found, refused⟩ :=
    loadable_or_refused loader name
  · rw [load_of_loadable reads wellFormed bound] at failed
    cases failed
  · rw [load_of_refused refused] at failed
    cases failed
    exact refused

end Loader

end Minikernel
