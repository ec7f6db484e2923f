import Mathlib.Control.Monad.Basic
import Minikernel.Proofs.Image.Format

/-!
Writing an image takes the shortest of its forms. Every number is written in as few bytes as any
form of it has, so the lengths of all parts add up to a least length; the bound on stored images
is a bound on that length.
-/

namespace Minikernel

namespace Varint

theorem form_littleEndian {mark : UInt8} {count number : Nat} (marked : (mark, count) ∈ marks)
    (bound : number < Bytes.capacity count) :
    Form number (mark :: Bytes.littleEndian count number) := by
  have form : Form (Bytes.value (Bytes.littleEndian count number))
      (mark :: Bytes.littleEndian count number) :=
    .marked (by rwa [Bytes.littleEndian_length])
  rwa [Bytes.value_littleEndian count number bound] at form

theorem form_encode {number : Nat} (bound : number < UInt64.size) :
    Form number (encode number) := by
  unfold encode
  split
  · rename_i small
    have same : (UInt8.ofNat number).toNat = number :=
      UInt8.toNat_ofNat_of_lt' (Nat.lt_of_le_of_lt small (by decide))
    have form : Form (UInt8.ofNat number).toNat [UInt8.ofNat number] := .single (by rwa [same])
    rwa [same] at form
  · split
    · exact form_littleEndian (by decide) ‹_›
    · split
      · exact form_littleEndian (by decide) ‹_›
      · exact form_littleEndian (by decide) bound

theorem Form.size_le {number : Nat} {bytes : Bytes} (form : Form number bytes) :
    encodedSize number ≤ bytes.length := by
  cases form with
  | single small =>
      rw [encodedSize, if_pos small]
      exact Nat.le_refl 1
  | @marked mark body marked =>
      have bound := Bytes.value_lt_capacity body
      simp only [marks, List.mem_cons, Prod.mk.injEq, List.not_mem_nil, or_false] at marked
      unfold encodedSize
      rcases marked with ⟨-, width⟩ | ⟨-, width⟩ | ⟨-, width⟩ <;>
        simp only [width, Bytes.capacity, List.length_cons, UInt16.size, UInt32.size] at bound ⊢ <;>
        grind

end Varint

theorem Counted.size_le {block bytes : Bytes} (form : Counted block bytes) :
    Varint.encodedSize block.length + block.length ≤ bytes.length := by
  obtain ⟨written⟩ := form
  have least := written.size_le
  rw [List.length_append]
  omega

namespace Section

theorem Form.size_le {part : Section} {bytes : Bytes} (form : part.Form bytes) :
    part.encodedSize ≤ bytes.length := by
  obtain ⟨named, placed, sized, filled⟩ := form
  have nameLeast := named.size_le
  have placeLeast := placed.size_le
  have countLeast := sized.size_le
  have dataLeast := filled.size_le
  rw [Text.Utf8.encode_length] at nameLeast
  simp only [encodedSize, List.length_append]
  omega

theorem Forms.size_le {sections : List Section} {bytes : Bytes} (forms : Forms sections bytes) :
    totalEncodedSize sections ≤ bytes.length := by
  induction forms with
  | nil => exact Nat.le_refl 0
  | cons form _ ih =>
      have least := form.size_le
      rw [totalEncodedSize, List.length_append]
      omega

theorem encode_length (part : Section) : part.encode.length = part.encodedSize := by
  simp only [encode, encodedSize, List.length_append, Varint.encode_length,
    Text.Utf8.encode_length]

theorem totalEncodedSize_eq (sections : List Section) :
    (sections.flatMap encode).length = totalEncodedSize sections := by
  induction sections with
  | nil => rfl
  | cons part others ih =>
      rw [List.flatMap_cons, List.length_append, encode_length, ih, totalEncodedSize]

theorem form_encode {part : Section} (fits : part.encodedSize < UInt64.size) :
    part.Form part.encode := by
  have name := Text.Utf8.encode_length part.name
  have first := part.firstPage.toNat_lt
  have count := part.pageCount.toNat_lt
  rw [encodedSize] at fits
  simp only [UInt64.size] at fits
  rw [encode, List.append_assoc _ _ part.data]
  refine .fields (.intro (Varint.form_encode ?_)) (Varint.form_encode ?_) (Varint.form_encode ?_)
    (.intro (Varint.form_encode ?_))
  all_goals simp only [UInt64.size]; omega

theorem forms_encode {sections : List Section} (fits : totalEncodedSize sections < UInt64.size) :
    Forms sections (sections.flatMap encode) := by
  induction sections with
  | nil => exact .nil
  | cons part others ih =>
      rw [totalEncodedSize] at fits
      rw [List.flatMap_cons]
      exact .cons (form_encode (by omega)) (ih (by omega))

theorem data_lt_encodedSize (part : Section) : part.data.length < part.encodedSize := by
  have written : 0 < Varint.encodedSize part.data.length := by
    unfold Varint.encodedSize
    grind
  rw [encodedSize]
  omega

theorem length_le_totalEncodedSize (sections : List Section) :
    sections.length ≤ totalEncodedSize sections := by
  induction sections with
  | nil => exact Nat.le_refl 0
  | cons part others ih =>
      have least := part.data_lt_encodedSize
      rw [List.length_cons, totalEncodedSize]
      omega

end Section

namespace Image

variable {image : Image} {stored : Bytes}

theorem Form.size_le (form : image.Form stored) : image.encodedSize ≤ stored.length := by
  obtain ⟨stamped, named, sized, forms⟩ := form
  have magicLeast := stamped.size_le
  have entryLeast := named.size_le
  have countLeast := sized.size_le
  have sectionsLeast := forms.size_le
  rw [Text.Utf8.encode_length] at entryLeast
  simp only [encodedSize, List.length_append]
  omega

theorem bytes_length (image : Image) : image.bytes.length = image.encodedSize := by
  simp only [bytes, encodedSize, List.length_append, Varint.encode_length,
    Text.Utf8.encode_length, Section.totalEncodedSize_eq]

theorem form_bytes (fits : image.encodedSize < UInt64.size) : image.Form image.bytes := by
  have entry := Text.Utf8.encode_length image.entry
  have magic := image.magic.toNat_lt
  have count := Section.length_le_totalEncodedSize image.sections
  rw [encodedSize] at fits
  rw [bytes, List.append_assoc (Varint.encode image.magic.toNat)]
  refine .fields (Varint.form_encode ?_) (.intro (Varint.form_encode ?_)) (Varint.form_encode ?_)
    (Section.forms_encode ?_)
  all_goals simp only [UInt64.size] at fits ⊢; omega

theorem encode_eq_ok_iff :
    image.encode = .ok stored ↔
      image.encodedSize ≤ Limits.maxImageBytes ∧ image.bytes = stored := by
  unfold encode storedSize
  split
  · rename_i small
    exact ⟨fun written => ⟨small, Except.ok.inj written⟩,
      fun written => congrArg Except.ok written.2⟩
  · rename_i large
    exact iff_of_false nofun fun written => large written.1

/-- The bytes that decode to an image are exactly its forms. Within the bound on its length, the
image is written as the shortest of them. -/
theorem shortest_form_is_written (image : Image) :
    ((∃ stored, image.encode = .ok stored) ↔ image.bytes.length ≤ Limits.maxImageBytes) ∧
      (∀ stored, decode stored = .ok image ↔ image.Form stored) ∧
      ∀ stored, image.encode = .ok stored →
        stored = image.bytes ∧ decode stored = .ok image ∧
          ∀ other, decode other = .ok image → stored.length ≤ other.length := by
  refine ⟨?_, fun stored => decode_eq_ok_iff, ?_⟩
  · rw [bytes_length]
    constructor
    · rintro ⟨stored, written⟩
      exact (encode_eq_ok_iff.mp written).1
    · intro small
      exact ⟨image.bytes, encode_eq_ok_iff.mpr ⟨small, rfl⟩⟩
  · intro stored written
    obtain ⟨small, rfl⟩ := encode_eq_ok_iff.mp written
    refine ⟨rfl, decode_eq_ok_iff.mpr (form_bytes (Nat.lt_of_le_of_lt small (by decide))), ?_⟩
    intro other read
    rw [bytes_length]
    exact (decode_eq_ok_iff.mp read).size_le

-- The number of sections, one, is spelled in nine bytes.
theorem wide_form_is_not_written :
    let image : Image := ⟨Limits.imageMagic, "m", [⟨"t", 0, 1, [7]⟩]⟩
    let wide : Bytes := [251, 98, 1, 1, 109, 253, 1, 0, 0, 0, 0, 0, 0, 0, 1, 116, 0, 1, 1, 7]
    decode wide = .ok image ∧
      ∃ stored, image.encode = .ok stored ∧ decode stored = .ok image ∧
        stored.length ≤ wide.length ∧ stored ≠ wide := by
  intro image wide
  obtain ⟨stores, forms, least⟩ := shortest_form_is_written image
  obtain ⟨stored, written⟩ := stores.mpr (by decide)
  have read : decode wide = .ok image := by decide +kernel
  obtain ⟨rfl, back, shortest⟩ := least stored written
  exact ⟨read, image.bytes, written, back, shortest wide read, by decide⟩

end Image

end Minikernel
