import Mathlib.Control.Monad.Basic
import Minikernel.Proofs.Image.Format

/-!
Images that were cut off or padded. A reader looks at its input from front to back, so bytes after
the input change nothing for it unless it ran out of bytes. An image that is cut anywhere has
therefore run out, and one that goes on has bytes left over.
-/

namespace Minikernel

def DecodeError.isShortage : DecodeError → Bool
  | .endOfInput | .shortText => true
  | .wideNumber | .reservedByte | .outOfRange .. | .badText _ | .trailing => false

namespace Reader

variable {α β : Type}

/-- A reader is steady if bytes after its input change what it does only where it ran out. -/
structure Steady (reader : Reader α) : Prop where
  found {bytes rest : Bytes} {value : α} (more : Bytes) :
    reader bytes = .ok (value, rest) → reader (bytes ++ more) = .ok (value, rest ++ more)
  failed {bytes : Bytes} {cause : DecodeError} (more : Bytes) :
    reader bytes = .error cause →
      cause.isShortage = true ∨ reader (bytes ++ more) = .error cause

theorem bind_eq_error_iff {first : Reader α} {next : α → Reader β} {bytes : Bytes}
    {cause : DecodeError} :
    (first >>= next) bytes = .error cause ↔
      first bytes = .error cause ∨
        ∃ value middle, first bytes = .ok (value, middle) ∧ next value middle = .error cause := by
  rw [bind_run]
  cases first bytes <;> simp [Except.bind, Prod.ext_iff, and_assoc]

theorem steady_pure (value : α) : Steady (pure value) where
  found more read := by
    cases pure_eq_ok_iff.mp read
    rfl
  failed more read := by cases read

theorem steady_throw (cause : DecodeError) : Steady (throw cause : Reader α) where
  found more read := by cases read
  failed more read := .inr read

theorem Steady.bind {first : Reader α} {next : α → Reader β} (steady : Steady first)
    (steadyNext : ∀ value, Steady (next value)) : Steady (first >>= next) where
  found more read := by
    obtain ⟨value, middle, begun, ended⟩ := bind_eq_ok_iff.mp read
    exact bind_eq_ok_iff.mpr
      ⟨value, middle ++ more, steady.found more begun, (steadyNext value).found more ended⟩
  failed more read := by
    rcases bind_eq_error_iff.mp read with stopped | ⟨value, middle, begun, stopped⟩
    · refine (steady.failed more stopped).imp_right fun again => ?_
      exact bind_eq_error_iff.mpr (.inl again)
    · refine ((steadyNext value).failed more stopped).imp_right fun again => ?_
      exact bind_eq_error_iff.mpr (.inr ⟨value, middle ++ more, steady.found more begun, again⟩)

theorem steady_number : Steady number where
  found more read := by
    obtain ⟨front, form, rfl⟩ := number_eq_ok_iff.mp read
    exact number_eq_ok_iff.mpr ⟨front, form, (List.append_assoc _ _ _).symm⟩
  failed {bytes cause} more read := by
    cases bytes with
    | nil =>
        cases read
        exact .inl rfl
    | cons byte after =>
        rcases Varint.first_cases byte with small | ⟨count, marked⟩ | rfl | rfl
        · rw [number, Varint.decode_single small] at read
          cases read
        · rw [number, Varint.decode_marked marked, Varint.fixed] at read
          split at read <;> grind [DecodeError.isShortage]
        · exact .inr read
        · exact .inr read

theorem steady_bounded (bits : Nat) : Steady (bounded bits) :=
  steady_number.bind fun value => by
    split
    · exact steady_pure value
    · exact steady_throw _

theorem steady_block {missing : DecodeError} (shortage : missing.isShortage = true)
    (length : Nat) : Steady (block length missing) where
  found more read := by
    obtain ⟨enough, rfl⟩ := block_eq_ok_iff.mp read
    exact block_eq_ok_iff.mpr ⟨enough, (List.append_assoc _ _ _).symm⟩
  failed more read := by
    unfold block at read
    dsimp only at read
    split at read
    · cases read
    · cases read
      exact .inl shortage

theorem steady_text : Steady text :=
  steady_number.bind fun length => (steady_block rfl length).bind fun bytes => by
    split
    · exact steady_pure _
    · exact steady_throw _

theorem steady_data : Steady data :=
  steady_number.bind fun length => steady_block rfl length

theorem steady_part : Steady part :=
  steady_text.bind fun _ => (steady_bounded 32).bind fun _ => (steady_bounded 32).bind fun _ =>
    steady_data.bind fun _ => steady_pure _

theorem steady_parts (count : Nat) : Steady (parts count) := by
  induction count with
  | zero => exact steady_pure []
  | succ count ih => exact steady_part.bind fun _ => ih.bind fun _ => steady_pure _

theorem steady_image : Steady image :=
  (steady_bounded 16).bind fun _ => steady_text.bind fun _ => steady_number.bind fun count =>
    (steady_parts count).bind fun _ => steady_pure _

end Reader

namespace Image

/-- Whatever spells an image, no shorter beginning of it and no continuation does. A beginning is
refused for want of bytes, not for what is in it. -/
theorem truncated_and_padded_refused {stored : Bytes} {image : Image}
    (read : decode stored = .ok image) :
    (∀ front, front <+: stored → front ≠ stored →
        ∃ cause, decode front = .error cause ∧ cause.isShortage = true) ∧
      ∀ longer, stored <+: longer → longer ≠ stored → decode longer = .error .trailing := by
  have whole := decode_eq_ok_iff_read.mp read
  constructor
  · rintro front ⟨more, rfl⟩ proper
    cases begun : Reader.image front with
    | ok result =>
        obtain ⟨other, rest⟩ := result
        have again := Reader.steady_image.found more begun
        rw [whole] at again
        obtain ⟨-, nothing⟩ := Prod.mk.inj (Except.ok.inj again)
        have noMore : more = [] := (List.append_eq_nil_iff.mp nothing.symm).2
        rw [noMore, List.append_nil] at proper
        exact absurd rfl proper
    | error cause =>
        refine ⟨cause, by rw [decode, begun], ?_⟩
        refine (Reader.steady_image.failed more begun).resolve_right ?_
        rw [whole]
        nofun
  · rintro longer ⟨more, rfl⟩ proper
    have begun := Reader.steady_image.found more whole
    cases more with
    | nil => exact absurd (List.append_nil stored) proper
    | cons byte more => rw [decode, begun, List.nil_append]

-- The beginning holds one of the two sections in full.
theorem cut_between_sections_refused :
    let image := build "a" [("t", [1]), ("d", [2])]
    let stored := image.bytes
    decode stored = .ok image ∧
      (∃ cause, decode (stored.take 12) = .error cause ∧ cause.isShortage = true) ∧
      decode (stored ++ [0]) = .error .trailing := by
  intro image stored
  have read : decode stored = .ok image := by decide +kernel
  obtain ⟨truncated, padded⟩ := truncated_and_padded_refused read
  exact ⟨read, truncated _ (List.take_prefix 12 stored) (by decide),
    padded _ (List.prefix_append stored [0]) (by decide)⟩

end Image

end Minikernel
