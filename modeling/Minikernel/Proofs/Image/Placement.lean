import Mathlib.Algebra.GroupWithZero.Nat
import Mathlib.Data.List.GetD
import Minikernel.Proofs.Image.SizeBound
import Minikernel.Proofs.Memory.Filling

/-!
From parts to memory. The builder lays parts out on pages of their own, the loader accepts what it
laid out, and the copy of the sections puts each part at the start of its first page. All three
count pages in the same way, so no part is refused, moved or cut.
-/

namespace Minikernel

theorem Loader.validateSections_eq_ok_iff {name : String} {expected : UInt32}
    {sections : List Section} :
    validateSections name expected sections = .ok () ↔
      Section.Contiguous expected.toNat sections ∧
        expected.toNat + Section.totalPages sections < UInt32.size := by
  induction sections generalizing expected with
  | nil => simp [validateSections, Section.Contiguous, Section.totalPages, expected.toNat_lt]
  | cons part rest ih =>
      rw [validateSections, Section.Contiguous, Section.totalPages]
      by_cases follows : part.firstPage = expected
      · rw [if_neg (not_not.mpr follows), follows]
        have empty : part.pageCount = 0 ↔ part.pageCount.toNat = 0 := UInt32.toNat_inj.symm
        by_cases small : part.pageCount = 0 ∨
            part.pageCount.toNat * Limits.pageSize < part.data.length
        · rw [if_pos small]
          refine iff_of_false (by simp) ?_
          rintro ⟨⟨-, positive, fits, -⟩, -⟩
          rw [empty] at small
          omega
        · rw [if_neg small]
          rw [empty] at small
          by_cases bound : expected.toNat + part.pageCount.toNat < UInt32.size
          · have next : (expected + part.pageCount).toNat =
                expected.toNat + part.pageCount.toNat := by
              rw [UInt32.toNat_add]
              exact Nat.mod_eq_of_lt bound
            rw [if_pos bound, ih, next, ← Nat.add_assoc]
            exact ⟨fun checked => ⟨⟨rfl, by omega, by omega, checked.1⟩, checked.2⟩,
              fun placed => ⟨placed.1.2.2.2, placed.2⟩⟩
          · rw [if_neg bound]
            refine iff_of_false (by simp) fun placed => bound ?_
            omega
      · rw [if_pos follows]
        refine iff_of_false (by simp) fun placed => follows ?_
        exact UInt32.toNat_inj.mp placed.1.1

theorem Loader.validateImage_eq_ok_iff {name : String} {image : Image} :
    validateImage name image = .ok () ↔
      image.magic = Limits.imageMagic ∧ image.sections ≠ [] ∧ image.entry ≠ "" ∧
        Section.Contiguous 0 image.sections ∧ image.pageCount < UInt32.size := by
  have checked := @validateSections_eq_ok_iff name 0 image.sections
  rw [UInt32.toNat_zero, Nat.zero_add] at checked
  rw [validateImage]
  by_cases stamped : image.magic = Limits.imageMagic
  · rw [if_neg (not_not.mpr stamped)]
    by_cases empty : image.sections = []
    · rw [if_pos (List.isEmpty_iff.mpr empty)]
      exact iff_of_false (by simp) fun fits => fits.2.1 empty
    · rw [if_neg (by rwa [List.isEmpty_iff])]
      by_cases nameless : image.entry = ""
      · rw [if_pos nameless]
        exact iff_of_false (by simp) fun fits => fits.2.2.1 nameless
      · rw [if_neg nameless, checked]
        exact ⟨fun placed => ⟨stamped, empty, nameless, placed⟩, fun fits => fits.2.2.2⟩
  · rw [if_pos stamped]
    exact iff_of_false (by simp) fun fits => stamped fits.1

namespace Image

variable {parts : List (String × Bytes)} {page : UInt32}

def pagesOf (parts : List (String × Bytes)) : Nat :=
  (parts.map fun part => pagesFor part.2.length).sum

theorem pagesFor_pos (length : Nat) : 0 < pagesFor length :=
  Nat.le_max_left _ _

theorem le_pagesFor (length : Nat) : length ≤ pagesFor length * Limits.pageSize := by
  have whole : length ≤ (length + Limits.pageSize - 1) / Limits.pageSize * Limits.pageSize := by
    have split := Nat.div_add_mod (length + Limits.pageSize - 1) Limits.pageSize
    have offset := Page.offset_lt (length + Limits.pageSize - 1)
    rw [Nat.mul_comm] at split
    omega
  exact Nat.le_trans whole (Nat.mul_le_mul_right _ (Nat.le_max_right _ _))

theorem pagesFor_le (length : Nat) : pagesFor length ≤ length + 1 := by
  have kilobyte : Limits.pageSize = 1024 := rfl
  rw [pagesFor, kilobyte]
  omega

-- Every part has a name and numbers in the stored form, so it takes more bytes there than pages.
theorem pagesOf_le (parts : List (String × Bytes)) (page : UInt32) :
    pagesOf parts ≤ Section.totalEncodedSize (layOut page parts) := by
  induction parts generalizing page with
  | nil => exact Nat.le_refl 0
  | cons part rest ih =>
      have least := pagesFor_le part.2.length
      have others := ih (page + UInt32.ofNat (pagesFor part.2.length))
      have size := Section.data_lt_encodedSize
        ⟨part.1, page, UInt32.ofNat (pagesFor part.2.length), part.2⟩
      exact Nat.add_le_add (Nat.le_trans least size) others

theorem room_after_first {first : String × Bytes} {rest : List (String × Bytes)}
    (bound : page.toNat + pagesOf (first :: rest) < UInt32.size) :
    (UInt32.ofNat (pagesFor first.2.length)).toNat = pagesFor first.2.length ∧
      (page + UInt32.ofNat (pagesFor first.2.length)).toNat =
        page.toNat + pagesFor first.2.length ∧
      (page + UInt32.ofNat (pagesFor first.2.length)).toNat + pagesOf rest < UInt32.size := by
  have sum : pagesOf (first :: rest) = pagesFor first.2.length + pagesOf rest := rfl
  have next : (page + UInt32.ofNat (pagesFor first.2.length)).toNat =
      page.toNat + pagesFor first.2.length := toNat_advance (by omega)
  exact ⟨UInt32.toNat_ofNat_of_lt' (by omega), next, by omega⟩

theorem layOut_contiguous (bound : page.toNat + pagesOf parts < UInt32.size) :
    Section.Contiguous page.toNat (layOut page parts) ∧
      Section.totalPages (layOut page parts) = pagesOf parts := by
  induction parts generalizing page with
  | nil => exact ⟨trivial, rfl⟩
  | cons part rest ih =>
      obtain ⟨count, next, room⟩ := room_after_first bound
      obtain ⟨others, total⟩ := ih room
      rw [next] at others
      refine ⟨⟨rfl, ?_, ?_, ?_⟩, ?_⟩
      · rw [count]
        exact pagesFor_pos _
      · rw [count]
        exact le_pagesFor _
      · rwa [count]
      · show (UInt32.ofNat (pagesFor part.2.length)).toNat + _ = _
        rw [count, total]
        rfl

theorem holds_layOut {memory : Pages} {index : Nat} {part : String × Bytes}
    (bound : page.toNat + pagesOf parts < UInt32.size) (found : parts[index]? = some part)
    (held : memory.Holds (page.toNat * Limits.pageSize)
      ((layOut page parts).flatMap Section.placed)) :
    memory.Holds ((page.toNat + pagesOf (parts.take index)) * Limits.pageSize) part.2 := by
  induction parts generalizing page index with
  | nil => cases found
  | cons first rest ih =>
      obtain ⟨count, next, room⟩ := room_after_first bound
      have whole : (Page.filled (pagesFor first.2.length) first.2).length =
          pagesFor first.2.length * Limits.pageSize := Page.filled_length (le_pagesFor _)
      obtain ⟨front, back⟩ := Pages.holds_append_iff.mp held
      rw [Section.placed, count, whole, ← Nat.add_mul, ← next] at back
      rw [Section.placed, count] at front
      cases index with
      | zero =>
          cases found
          exact (Pages.holds_append_iff.mp front).1
      | succ index =>
          have later := ih room found back
          rw [next, Nat.add_assoc] at later
          exact later

theorem getD_layOut {index : Nat} (bound : page.toNat + pagesOf parts < UInt32.size)
    (outside : ∀ place part, parts[place]? = some part →
      ¬(pagesOf (parts.take place) * Limits.pageSize ≤ index ∧
        index < pagesOf (parts.take place) * Limits.pageSize + part.2.length)) :
    ((layOut page parts).flatMap Section.placed).getD index 0 = 0 := by
  induction parts generalizing page index with
  | nil => rfl
  | cons first rest ih =>
      obtain ⟨count, next, room⟩ := room_after_first bound
      have whole : (Page.filled (pagesFor first.2.length) first.2).length =
          pagesFor first.2.length * Limits.pageSize := Page.filled_length (le_pagesFor _)
      rw [layOut, List.flatMap_cons, Section.placed, count]
      by_cases inside : index < pagesFor first.2.length * Limits.pageSize
      · have past := outside 0 first rfl
        have beyond : first.2.length ≤ index := by
          simp only [List.take_zero, pagesOf, List.map_nil, List.sum_nil, Nat.zero_mul] at past
          omega
        rw [List.getD_append _ _ _ _ (by rwa [whole]), Page.getD_filled,
          List.getD_eq_default _ _ beyond]
      · rw [List.getD_append_right _ _ _ _ (by rw [whole]; omega), whole]
        refine ih room fun place part found covered => ?_
        have later := outside (place + 1) part found
        have before : pagesOf ((first :: rest).take (place + 1)) =
            pagesFor first.2.length + pagesOf (rest.take place) := rfl
        rw [before, Nat.add_mul] at later
        omega

/-- The parts that are laid out for an image: an empty one if there are none. -/
def laidParts (parts : List (String × Bytes)) : List (String × Bytes) :=
  if parts.isEmpty then [(".text", [])] else parts

theorem layOut_laidParts_ne_nil (parts : List (String × Bytes)) :
    layOut 0 (laidParts parts) ≠ [] := by
  cases parts <;> nofun

theorem pagesOf_laidParts (parts : List (String × Bytes)) :
    pagesOf (laidParts parts) = if parts = [] then 1 else pagesOf parts := by
  cases parts <;> rfl

theorem covered_of_laidParts {place address : Nat} {part : String × Bytes}
    (found : (laidParts parts)[place]? = some part)
    (covered : pagesOf ((laidParts parts).take place) * Limits.pageSize ≤ address ∧
      address < pagesOf ((laidParts parts).take place) * Limits.pageSize + part.2.length) :
    parts[place]? = some part ∧ (laidParts parts).take place = parts.take place := by
  cases parts with
  | nil =>
      obtain ⟨rfl, rfl⟩ : place = 0 ∧ part = (".text", []) := by
        cases place with
        | zero => exact ⟨rfl, (Option.some.inj found).symm⟩
        | succ place => cases found
      exact absurd covered.2 (Nat.not_lt.mpr covered.1)
  | cons first rest => exact ⟨found, rfl⟩

theorem laidParts_of_found {index : Nat} {part : String × Bytes}
    (found : parts[index]? = some part) : laidParts parts = parts := by
  cases parts with
  | nil => cases found
  | cons first rest => rfl

variable {entry : String} {stored : Bytes}

theorem pages_of_encode (written : (build entry parts).encode = .ok stored) :
    pagesOf (laidParts parts) < UInt32.size := by
  obtain ⟨small, -⟩ := encode_eq_ok_iff.mp written
  have pages : pagesOf (laidParts parts) ≤ (build entry parts).encodedSize :=
    Nat.le_trans (pagesOf_le (laidParts parts) 0) (Nat.le_add_left _ _)
  have bound : Limits.maxImageBytes < UInt32.size := by decide
  exact Nat.lt_of_le_of_lt (Nat.le_trans pages small) bound

theorem build_contiguous (written : (build entry parts).encode = .ok stored) :
    Section.Contiguous 0 (build entry parts).sections ∧
      (build entry parts).pageCount = pagesOf (laidParts parts) := by
  apply @layOut_contiguous (laidParts parts) 0
  rw [UInt32.toNat_zero, Nat.zero_add]
  exact pages_of_encode written

end Image

namespace Loader

open Image

variable {Routine : Type} {loader : Loader Routine} {name entry : String} {routine : Routine}
  {parts : List (String × Bytes)} {stored : Bytes}

theorem load_build (valid : isValidName name = true) (named : entry ≠ "")
    (bound : loader.entries.find? entry = some routine)
    (written : (build entry parts).encode = .ok stored)
    (held : loader.store.find? name = some stored) :
    loader.load name = .ok ⟨name, build entry parts, routine⟩ := by
  obtain ⟨contiguous, counted⟩ := build_contiguous written
  have checked : validateImage name (build entry parts) = .ok () :=
    validateImage_eq_ok_iff.mpr ⟨rfl, layOut_laidParts_ne_nil parts, named, contiguous,
      counted.symm ▸ pages_of_encode written⟩
  obtain ⟨small, rfl⟩ := encode_eq_ok_iff.mp written
  have read : Image.decode (build entry parts).bytes = .ok (build entry parts) :=
    decode_eq_ok_iff.mpr (form_bytes (Nat.lt_of_le_of_lt small (by decide)))
  have bound : loader.entries.find? (build entry parts).entry = some routine := bound
  rw [load_of_held valid held, read]
  dsimp only
  rw [checked, bound]
  rfl

/-- Whatever parts an image is built from, it loads under its name and runs in every space that can
be made for it, with each part at the start of its own pages and zeros everywhere else. -/
theorem built_image_runs (valid : isValidName name = true) (named : entry ≠ "")
    (bound : loader.entries.find? entry = some routine)
    (written : (build entry parts).encode = .ok stored)
    (held : loader.store.find? name = some stored) :
    let pages := fun parts : List (String × Bytes) =>
      (parts.map fun part => max 1 ((part.2.length + 1023) / 1024)).sum
    ∃ loaded, loader.load name = .ok loaded ∧ loaded.image = build entry parts ∧
      loaded.routine = routine ∧
      loaded.codePages.toNat = (if parts = [] then 1 else pages parts) ∧
      ∀ (pool taken : FramePool) (stackPages : UInt64) (fresh : AddressSpace),
        AddressSpace.create pool loaded.codePages stackPages = .ok (fresh, taken) →
        ∃ space, loaded.instantiate pool stackPages = .ok (space, taken) ∧
          space.SameShape fresh ∧
          (∀ (index : Nat) part, parts[index]? = some part →
            space.memory.Holds (1024 * pages (parts.take index)) part.2) ∧
          ∀ address < space.size,
            (∀ (index : Nat) part, parts[index]? = some part →
              ¬(1024 * pages (parts.take index) ≤ address ∧
                address < 1024 * pages (parts.take index) + part.2.length)) →
            space.memory.byte address = 0 := by
  intro pages
  have start : ∀ parts, 1024 * pages parts = pagesOf parts * Limits.pageSize :=
    fun parts => Nat.mul_comm 1024 (pagesOf parts)
  obtain ⟨contiguous, counted⟩ := build_contiguous written
  let loaded : LoadedImage Routine := ⟨name, build entry parts, routine⟩
  have laid : loaded.codePages.toNat = pagesOf (laidParts parts) := by
    rw [← counted]
    refine UInt64.toNat_ofNat_of_lt' ?_
    rw [counted]
    exact Nat.lt_trans (pages_of_encode written) (by decide)
  have code : loaded.codePages.toNat = loaded.image.pageCount := laid.trans counted.symm
  refine ⟨loaded, load_build valid named bound written held, rfl, rfl,
    laid.trans (pagesOf_laidParts parts), ?_⟩
  intro pool taken stackPages fresh created
  have inside := LoadedImage.contents_inside contiguous code created
  have filled := Pages.holds_overlay inside
  have runs : loaded.instantiate pool stackPages =
      .ok (fresh.overlaid 0 (loaded.image.sections.flatMap Section.placed), taken) := by
    rw [LoadedImage.instantiate, LoadedImage.build_of_contiguous contiguous code created]
  refine ⟨_, runs, ⟨rfl, rfl, AddressSpace.overlaid_size _ _⟩, ?_, ?_⟩
  · intro index part found
    have sections : loaded.image.sections = layOut 0 parts :=
      congrArg (layOut 0) (laidParts_of_found found)
    have known := pages_of_encode written
    rw [laidParts_of_found found, ← Nat.zero_add (pagesOf parts)] at known
    have held := @holds_layOut parts 0 _ index part known found (sections ▸ filled)
    rw [UInt32.toNat_zero, Nat.zero_add, ← start] at held
    show (fresh.memory.overlay 0 (loaded.image.sections.flatMap Section.placed)).Holds _ _
    rwa [sections]
  · intro address bound outside
    have blank : fresh.memory.byte address = 0 := by
      obtain ⟨-, -, rfl⟩ := AddressSpace.create_eq_ok_iff.mp created
      exact Pages.zeros_byte _ _
    have known := pages_of_encode written
    rw [← Nat.zero_add (pagesOf (laidParts parts))] at known
    rw [AddressSpace.overlaid_size] at bound
    show (fresh.memory.overlay 0 ((layOut 0 (laidParts parts)).flatMap Section.placed)).byte
      address = 0
    rw [Pages.byte_overlay _ _ _ _ bound, blank, Nat.sub_zero]
    split
    · refine @getD_layOut (laidParts parts) 0 address known fun index part found covered => ?_
      obtain ⟨given, same⟩ := covered_of_laidParts found covered
      rw [same, ← start] at covered
      exact outside index part given covered
    · rfl

-- An empty part, one that fills its page, and one that needs another page for its last byte.
theorem three_parts_run :
    let parts : List (String × Bytes) :=
      [("a", []), ("b", List.replicate 1024 7), ("c", List.replicate 1025 9)]
    let stored := (build "main" parts).bytes
    let loader : Loader Unit := ⟨⟨[.memory ⟨[("a.coff", stored)]⟩]⟩, ⟨[("main", ())]⟩⟩
    isValidName "a.coff" = true ∧ "main" ≠ "" ∧ loader.entries.find? "main" = some () ∧
      (build "main" parts).encode = .ok stored ∧ loader.store.find? "a.coff" = some stored ∧
      ∃ loaded space taken, loader.load "a.coff" = .ok loaded ∧ loaded.codePages.toNat = 4 ∧
        loaded.instantiate (.ofSize 8) 2 = .ok (space, taken) ∧
        space.memory.Holds 1024 (List.replicate 1024 7) ∧
        space.memory.Holds 2048 (List.replicate 1025 9) ∧ space.memory.byte 3073 = 0 := by
  intro parts stored loader
  have valid : isValidName "a.coff" = true := by decide
  have written : (build "main" parts).encode = .ok stored :=
    encode_eq_ok_iff.mpr ⟨by decide +kernel, rfl⟩
  obtain ⟨loaded, loads, -, -, pages, runs⟩ :=
    @built_image_runs Unit loader "a.coff" "main" () parts stored valid (by decide) rfl written rfl
  have code : loaded.codePages = 4 := UInt64.toNat_inj.mp (pages.trans (by decide +kernel))
  have created : AddressSpace.create (.ofSize 8) loaded.codePages 2 =
      .ok (⟨.zeros 7, 4, 2⟩, ⟨8, 7, by decide⟩) := by
    rw [code]
    exact AddressSpace.create_eq_ok_iff.mpr ⟨by decide, rfl, rfl⟩
  obtain ⟨space, instantiated, shape, parted, blank⟩ :=
    runs (.ofSize 8) _ 2 _ created
  refine ⟨valid, by decide, rfl, written, rfl, loaded, space, _, loads, by rw [code]; rfl,
    instantiated, ?_, ?_, ?_⟩
  · simpa [parts, -List.reduceReplicate] using parted 1 ("b", List.replicate 1024 7) rfl
  · simpa [parts, -List.reduceReplicate] using parted 2 ("c", List.replicate 1025 9) rfl
  · refine blank 3073 (by rw [shape.size]; decide) ?_
    intro index part found
    match index, found with
    | 0, rfl => decide +kernel
    | 1, rfl => decide +kernel
    | 2, rfl => decide +kernel

end Loader

end Minikernel
