import Minikernel.Proofs.Memory.Contents
import Minikernel.Proofs.Memory.Reservation

/-!
What filling a space leaves in memory. A page is set as a whole, so a section ends up as its data
with zeros up to the end of its last page; sections that follow each other are one run of bytes.
-/

namespace Minikernel

namespace Page

def filled (count : Nat) (data : Bytes) : Bytes :=
  data ++ List.replicate (count * Limits.pageSize - data.length) 0

theorem filled_length {count : Nat} {data : Bytes} (fits : data.length ≤ count * Limits.pageSize) :
    (filled count data).length = count * Limits.pageSize := by
  rw [filled, List.length_append, List.length_replicate]
  omega

theorem getD_filled (count : Nat) (data : Bytes) (index : Nat) :
    (filled count data).getD index 0 = data.getD index 0 := by
  simp only [filled, List.getD_eq_getElem?_getD]
  by_cases inside : index < data.length
  · rw [List.getElem?_append_left inside]
  · have outside : data.length ≤ index := Nat.le_of_not_lt inside
    rw [List.getElem?_append_right outside, List.getElem?_eq_none outside, List.getElem?_replicate]
    split <;> rfl

theorem filled_succ (count : Nat) (data : Bytes) :
    filled (count + 1) data =
      filled 1 (data.take Limits.pageSize) ++ filled count (data.drop Limits.pageSize) := by
  by_cases short : data.length ≤ Limits.pageSize
  · have zeros : (count + 1) * Limits.pageSize - data.length =
        (1 * Limits.pageSize - data.length) + count * Limits.pageSize := by
      rw [Nat.add_mul]
      omega
    rw [filled, filled, filled, List.take_of_length_le short, List.drop_eq_nil_of_le short, zeros,
      ← List.replicate_append_replicate, List.append_assoc, List.nil_append, List.length_nil,
      Nat.sub_zero]
  · have whole : (data.take Limits.pageSize).length = Limits.pageSize := by
      rw [List.length_take]
      omega
    have zeros : (count + 1) * Limits.pageSize - data.length =
        count * Limits.pageSize - (data.drop Limits.pageSize).length := by
      rw [List.length_drop, Nat.add_mul]
      omega
    rw [filled, filled, filled, whole, Nat.one_mul, Nat.sub_self, List.replicate_zero,
      List.append_nil, zeros, ← List.append_assoc, List.take_append_drop]

end Page

theorem Pages.setPage_ofBytes (memory : Pages) (index : Nat) {data : Bytes}
    (fits : data.length ≤ Limits.pageSize) :
    memory.setPage index (Page.ofBytes data) =
      memory.overlay (index * Limits.pageSize) (Page.filled 1 data) := by
  have length : (Page.filled 1 data).length = Limits.pageSize := by
    rw [Page.filled_length (by rwa [Nat.one_mul]), Nat.one_mul]
  refine ext_byte (by rw [setPage_size, overlay_size]) fun address bound => ?_
  rw [setPage_size] at bound
  rw [byte_setPage _ _ _ _ bound, byte_overlay _ _ _ _ bound, length, Page.getD_filled]
  have split := Nat.div_add_mod address Limits.pageSize
  have offset := Page.offset_lt address
  by_cases here : address / Limits.pageSize = index
  · subst here
    have place : address - address / Limits.pageSize * Limits.pageSize =
        address % Limits.pageSize := by
      rw [Nat.mul_comm]
      omega
    have covered : address / Limits.pageSize * Limits.pageSize ≤ address ∧
        address < address / Limits.pageSize * Limits.pageSize + Limits.pageSize := by
      rw [Nat.mul_comm]
      omega
    rw [if_pos rfl, if_pos covered, place]
    exact Page.getElem_ofBytes data _ offset
  · have outside : ¬(index * Limits.pageSize ≤ address ∧
        address < index * Limits.pageSize + Limits.pageSize) := by
      rintro ⟨lower, upper⟩
      refine here (Nat.div_eq_of_lt_le lower ?_)
      rwa [Nat.add_mul, Nat.one_mul]
    rw [if_neg here, if_neg outside]

namespace AddressSpace

variable {space : AddressSpace}

theorem loadPage_eq {page : UInt32} {data : Bytes} (fits : data.length ≤ Limits.pageSize)
    (room : (page.toNat + 1) * Limits.pageSize ≤ space.size) :
    space.loadPage page data =
      .ok (space.overlaid (page.toNat * Limits.pageSize) (Page.filled 1 data)) := by
  rw [Nat.add_mul, Nat.one_mul] at room
  unfold loadPage
  rw [if_pos ⟨fits, room⟩, Pages.setPage_ofBytes _ _ fits]
  rfl

theorem create_size {code stack : UInt64} {pool taken : FramePool}
    (created : create pool code stack = .ok (space, taken)) :
    space.size < UInt32.size ∧
      space.size = (code.toNat + stack.toNat + 1) * Limits.pageSize := by
  obtain ⟨small, -, rfl⟩ := create_eq_ok_iff.mp created
  have size := Pages.zeros_size (code.toNat + stack.toNat + 1)
  exact ⟨Nat.lt_of_le_of_lt (Nat.le_of_eq size) small, size⟩

theorem create_of_room {code stack : UInt64} {pool : FramePool}
    (small : (code.toNat + stack.toNat + 1) * Limits.pageSize < UInt32.size)
    (room : pool.used + (code.toNat + stack.toNat + 1) ≤ pool.total) :
    ∃ taken, create pool code stack =
      .ok (⟨.zeros (code.toNat + stack.toNat + 1), code, stack⟩, taken) :=
  ⟨⟨pool.total, pool.used + (code.toNat + stack.toNat + 1), room⟩,
    create_eq_ok_iff.mpr ⟨small, FramePool.reserve_eq_ok_iff.mpr ⟨rfl, rfl⟩, rfl⟩⟩

theorem create_stack {code stack : UInt64} {pool taken : FramePool} {filled : AddressSpace}
    (created : create pool code stack = .ok (space, taken)) (same : filled.SameShape space) :
    filled.stackLimit.toNat = code.toNat * Limits.pageSize ∧
      filled.initialStack.toNat = (code.toNat + stack.toNat) * Limits.pageSize ∧
      filled.size = (code.toNat + stack.toNat + 1) * Limits.pageSize := by
  obtain ⟨small, size⟩ := create_size created
  obtain ⟨pages, -, rfl⟩ := create_eq_ok_iff.mp created
  have below : ∀ count, count ≤ code.toNat + stack.toNat →
      (UInt32.ofNat (count * Limits.pageSize)).toNat = count * Limits.pageSize := by
    intro count few
    refine UInt32.toNat_ofNat_of_lt' (Nat.lt_of_le_of_lt ?_ small)
    rw [size]
    exact Nat.mul_le_mul_right _ (Nat.le_succ_of_le few)
  refine ⟨?_, ?_, same.size.trans size⟩
  · rw [stackLimit, same.codePages]
    exact below _ (Nat.le_add_right _ _)
  · rw [initialStack, same.codePages, same.stackPages, add_toNat_of_fits (fits_of_small pages)]
    exact below _ (Nat.le_refl _)

end AddressSpace

namespace Section

def placed (part : Section) : Bytes :=
  Page.filled part.pageCount.toNat part.data

/-- Sections that follow each other from a page on, each of at least one page and large enough for
its data. -/
def Contiguous (page : Nat) : List Section → Prop
  | [] => True
  | part :: rest =>
      part.firstPage.toNat = page ∧ 0 < part.pageCount.toNat ∧
        part.data.length ≤ part.pageCount.toNat * Limits.pageSize ∧
        Contiguous (page + part.pageCount.toNat) rest

theorem contents_length {sections : List Section} {page : Nat}
    (contiguous : Contiguous page sections) :
    (sections.flatMap placed).length = totalPages sections * Limits.pageSize := by
  induction sections generalizing page with
  | nil => exact (Nat.zero_mul _).symm
  | cons part rest ih =>
      obtain ⟨-, -, fits, others⟩ := contiguous
      rw [List.flatMap_cons, List.length_append, ih others, placed, Page.filled_length fits,
        totalPages, Nat.add_mul]

end Section

namespace LoadedImage

variable {space : AddressSpace}

theorem loadPages_eq {count : Nat} {page : UInt32} {data : Bytes}
    (small : space.size < UInt32.size) (fits : data.length ≤ count * Limits.pageSize)
    (room : (page.toNat + count) * Limits.pageSize ≤ space.size) :
    loadPages page data count space =
      .ok (space.overlaid (page.toNat * Limits.pageSize) (Page.filled count data)) := by
  induction count generalizing page data space with
  | zero =>
      have nothing : data = [] := List.length_eq_zero_iff.mp (by omega)
      subst nothing
      rfl
  | succ count ih =>
      have begins : (page.toNat + 1) * Limits.pageSize ≤ space.size :=
        Nat.le_trans (Nat.mul_le_mul_right _ (by omega)) room
      have least := Nat.le_mul_of_pos_right (page.toNat + 1) (by decide : 0 < Limits.pageSize)
      have next : (page + 1).toNat = page.toNat + 1 :=
        toNat_advance (Nat.lt_of_le_of_lt (Nat.le_trans least begins) small)
      have head : (data.take Limits.pageSize).length ≤ Limits.pageSize := List.length_take_le _ _
      have whole : (Page.filled 1 (data.take Limits.pageSize)).length = Limits.pageSize := by
        rw [Page.filled_length (by rwa [Nat.one_mul]), Nat.one_mul]
      have rest : (data.drop Limits.pageSize).length ≤ count * Limits.pageSize := by
        rw [Nat.add_mul] at fits
        rw [List.length_drop]
        omega
      rw [loadPages, AddressSpace.loadPage_eq head begins]
      show loadPages (page + 1) (data.drop Limits.pageSize) count _ = _
      rw [ih _ rest]
      · rw [Page.filled_succ count, AddressSpace.overlaid_append, whole, next, Nat.add_mul,
          Nat.one_mul]
      · rw [AddressSpace.overlaid_size, next, Nat.add_assoc, Nat.add_comm 1]
        exact room
      · rw [AddressSpace.overlaid_size]
        exact small

theorem loadSections_eq {sections : List Section} {page : Nat} (small : space.size < UInt32.size)
    (contiguous : Section.Contiguous page sections)
    (room : (page + Section.totalPages sections) * Limits.pageSize ≤ space.size) :
    loadSections sections space =
      .ok (space.overlaid (page * Limits.pageSize) (sections.flatMap Section.placed)) := by
  induction sections generalizing page space with
  | nil => rfl
  | cons part rest ih =>
      obtain ⟨rfl, -, fits, others⟩ := contiguous
      rw [Section.totalPages, ← Nat.add_assoc] at room
      have first := @loadPages_eq space part.pageCount.toNat part.firstPage part.data small fits
        (Nat.le_trans (Nat.mul_le_mul_right _ (Nat.le_add_right _ _)) room)
      rw [loadSections, first]
      show loadSections rest _ = _
      rw [ih (by rwa [AddressSpace.overlaid_size]) others (by rwa [AddressSpace.overlaid_size]),
        List.flatMap_cons, AddressSpace.overlaid_append, Nat.add_mul, Section.placed,
        Page.filled_length fits]

variable {Routine : Type} {loaded : LoadedImage Routine} {pool taken : FramePool} {stack : UInt64}
  (contiguous : Section.Contiguous 0 loaded.image.sections)
  (code : loaded.codePages.toNat = loaded.image.pageCount)
  (created : AddressSpace.create pool loaded.codePages stack = .ok (space, taken))

include contiguous code created

theorem contents_inside :
    0 + (loaded.image.sections.flatMap Section.placed).length ≤ space.size := by
  have pages : Section.totalPages loaded.image.sections = loaded.codePages.toNat := code.symm
  rw [Nat.zero_add, Section.contents_length contiguous, pages,
    (AddressSpace.create_size created).2]
  exact Nat.mul_le_mul_right _ (Nat.le_trans (Nat.le_add_right _ _) (Nat.le_add_right _ _))

theorem build_of_contiguous :
    loaded.build pool stack =
      (.ok (space.overlaid 0 (loaded.image.sections.flatMap Section.placed)), taken) := by
  have room := contents_inside contiguous code created
  rw [Section.contents_length contiguous, Nat.zero_add] at room
  have filled := loadSections_eq (AddressSpace.create_size created).1 contiguous
    (by rwa [Nat.zero_add])
  rw [Nat.zero_mul] at filled
  simp only [build, created, filled]

theorem build_shape : ∃ filled, loaded.build pool stack = (.ok filled, taken) ∧
    filled.SameShape space :=
  ⟨_, build_of_contiguous contiguous code created, rfl, rfl,
    AddressSpace.overlaid_size _ _⟩

end LoadedImage

end Minikernel
