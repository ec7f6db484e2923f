import Minikernel.Executable.Loader
import Minikernel.Proofs.Image.ShortestForm

/-!
The bound on the size of stored images. Writing keeps to it; reading does not know of it, so an
image of any size is loaded like every other.
-/

namespace Minikernel

namespace Image

variable {image : Image}

theorem encode_of_large (large : Limits.maxImageBytes < image.encodedSize)
    (fits : image.encodedSize < UInt64.size) :
    image.encode = .error .sizeLimit ∧ decode image.bytes = .ok image := by
  refine ⟨?_, decode_eq_ok_iff.mpr (form_bytes fits)⟩
  unfold encode storedSize
  rw [if_neg (Nat.not_le_of_lt large)]
  rfl

theorem decode_of_formless {stored : Bytes} (formless : ∀ image : Image, ¬image.Form stored) :
    ∃ cause, decode stored = .error cause := by
  cases read : decode stored with
  | error cause => exact ⟨cause, rfl⟩
  | ok image => exact absurd (decode_eq_ok_iff.mp read) (formless image)

end Image

namespace Loader

variable {Routine : Type} {loader : Loader Routine} {name : String} {stored : Bytes}

theorem load_of_held (valid : isValidName name = true)
    (held : loader.store.find? name = some stored) :
    loader.load name =
      match Image.decode stored with
      | .error cause => .error (.malformed name cause.message)
      | .ok image => do
          validateImage name image
          match loader.entries.find? image.entry with
          | none => throw (.unknownEntry name image.entry)
          | some routine => return ⟨name, image, routine⟩ := by
  rw [load, validateName, if_pos valid, held]
  rfl

/-- Both ways of reading an image refuse exactly the bytes that spell none, whatever their
length. Writing does have a bound, so an image above it is read but never written. -/
theorem reading_has_no_size_bound (valid : isValidName name = true)
    (held : loader.store.find? name = some stored) :
    (((∃ cause, Image.decode stored = .error cause) ∧
        ∃ reason, loader.load name = .error (.malformed name reason)) ↔
      ∀ image : Image, ¬image.Form stored) ∧
    ∀ image : Image, Limits.maxImageBytes < image.encodedSize →
      image.encodedSize < UInt64.size →
      image.encode = .error .sizeLimit ∧ Image.decode image.bytes = .ok image := by
  refine ⟨?_, fun image large fits => Image.encode_of_large large fits⟩
  constructor
  · rintro ⟨⟨cause, failed⟩, -⟩ image form
    rw [Image.decode_eq_ok_iff.mpr form] at failed
    cases failed
  · intro formless
    obtain ⟨cause, failed⟩ := Image.decode_of_formless formless
    refine ⟨⟨cause, failed⟩, cause.message, ?_⟩
    rw [load_of_held valid held, failed]

-- Above the bound, and refused for its first byte.
theorem large_garbage_refused :
    let stored : Bytes := 255 :: List.replicate 16777216 0
    let loader : Loader Unit := ⟨⟨[.memory ⟨[("big.coff", stored)]⟩]⟩, ⟨[("main", ())]⟩⟩
    Limits.maxImageBytes < stored.length ∧ isValidName "big.coff" = true ∧
      loader.store.find? "big.coff" = some stored ∧ (∀ image : Image, ¬image.Form stored) ∧
      ∃ reason, loader.load "big.coff" = .error (.malformed "big.coff" reason) := by
  intro stored loader
  have size : stored.length = 16777217 := by rw [List.length_cons, List.length_replicate]
  have valid : isValidName "big.coff" = true := by decide
  have held : loader.store.find? "big.coff" = some stored := rfl
  have formless : ∀ image : Image, ¬image.Form stored := by
    intro image form
    have failed : Image.decode stored = .error .reservedByte := rfl
    rw [Image.decode_eq_ok_iff.mpr form] at failed
    cases failed
  have refused := (reading_has_no_size_bound valid held).1.mpr formless
  exact ⟨by rw [size]; decide, valid, held, formless, refused.2⟩

theorem oversized_image_loads :
    let data : Bytes := List.replicate 16777216 0
    let stored : Bytes :=
      [251, 98, 1, 4, 109, 97, 105, 110, 1, 0, 0, 251, 0, 64, 252, 0, 0, 0, 1] ++ data
    let image : Image := ⟨Limits.imageMagic, "main", [⟨"", 0, 16384, data⟩]⟩
    let loader : Loader Unit := ⟨⟨[.memory ⟨[("big.coff", stored)]⟩]⟩, ⟨[("main", ())]⟩⟩
    Limits.maxImageBytes < stored.length ∧ isValidName "big.coff" = true ∧
      loader.store.find? "big.coff" = some stored ∧ Image.decode stored = .ok image ∧
      loader.load "big.coff" = .ok ⟨"big.coff", image, ()⟩ := by
  intro data stored image loader
  have length : data.length = 16777216 := List.length_replicate
  have spelled : image.bytes = stored := by
    simp only [image, Image.bytes, List.flatMap_cons, List.flatMap_nil, List.append_nil,
      Section.encode, length, ← List.append_assoc]
    refine congrArg (· ++ data) ?_
    decide +kernel
  have size : stored.length = 16777235 := by rw [List.length_append, length]; rfl
  have fits : image.encodedSize < UInt64.size := by
    rw [← Image.bytes_length, spelled, size]
    decide
  have read : Image.decode stored = .ok image := by
    rw [← spelled]
    exact Image.decode_eq_ok_iff.mpr (Image.form_bytes fits)
  have valid : isValidName "big.coff" = true := by decide
  have held : loader.store.find? "big.coff" = some stored := rfl
  have checked : validateImage "big.coff" image = .ok () := by
    simp only [validateImage, validateSections, image, length]
    decide +kernel
  refine ⟨by rw [size]; decide, valid, held, read, ?_⟩
  rw [load_of_held valid held, read]
  dsimp only
  rw [checked]
  rfl

end Loader

end Minikernel
