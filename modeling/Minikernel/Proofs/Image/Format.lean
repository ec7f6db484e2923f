import Minikernel.Image.Encoding
import Minikernel.Proofs.Text.Encoding

/-!
The format of stored images as a relation: which byte strings are forms of a number, of a text, of
data, of a section, of an image. A number has up to four forms, so an image has many. Every reader
accepts exactly the forms of its values, whatever bytes come after them.
-/

namespace Minikernel

namespace Varint

/-- The marks of the longer forms, each with the number of bytes after it. -/
def marks : List (UInt8 × Nat) := [(251, 2), (252, 4), (253, 8)]

inductive Form : Nat → Bytes → Prop
  | single {byte : UInt8} : byte.toNat ≤ maxSingle → Form byte.toNat [byte]
  | marked {mark : UInt8} {body : Bytes} :
      (mark, body.length) ∈ marks → Form (Bytes.value body) (mark :: body)

theorem fixed_eq_ok_iff {count number : Nat} {bytes rest : Bytes} :
    fixed count bytes = .ok (number, rest) ↔
      ∃ body, body.length = count ∧ Bytes.value body = number ∧ body ++ rest = bytes := by
  unfold fixed
  constructor
  · intro read
    split at read
    · rename_i enough
      cases read
      exact ⟨bytes.take count, enough, rfl, List.take_append_drop count bytes⟩
    · cases read
  · rintro ⟨body, rfl, rfl, rfl⟩
    rw [List.take_left, if_pos rfl, List.drop_left]

theorem decode_single {byte : UInt8} (small : byte.toNat ≤ maxSingle) (rest : Bytes) :
    decode (byte :: rest) = .ok (byte.toNat, rest) := by
  unfold decode
  split <;> simp_all [maxSingle]

theorem decode_marked {mark : UInt8} {count : Nat} (marked : (mark, count) ∈ marks)
    (rest : Bytes) : decode (mark :: rest) = fixed count rest := by
  simp only [marks, List.mem_cons, Prod.mk.injEq, List.not_mem_nil, or_false] at marked
  rcases marked with ⟨rfl, rfl⟩ | ⟨rfl, rfl⟩ | ⟨rfl, rfl⟩ <;> rfl

theorem first_cases (byte : UInt8) :
    byte.toNat ≤ maxSingle ∨ (∃ count, (byte, count) ∈ marks) ∨ byte = 254 ∨ byte = 255 := by
  by_cases small : byte.toNat ≤ maxSingle
  · exact .inl small
  · have large : byte = 251 ∨ byte = 252 ∨ byte = 253 ∨ byte = 254 ∨ byte = 255 := by
      have bound := byte.toNat_lt
      rw [maxSingle] at small
      simp only [← UInt8.toNat_inj, UInt8.reduceToNat]
      omega
    rcases large with rfl | rfl | rfl | rfl | rfl
    · exact .inr (.inl ⟨2, by decide⟩)
    · exact .inr (.inl ⟨4, by decide⟩)
    · exact .inr (.inl ⟨8, by decide⟩)
    · exact .inr (.inr (.inl rfl))
    · exact .inr (.inr (.inr rfl))

theorem decode_eq_ok_iff {number : Nat} {bytes rest : Bytes} :
    decode bytes = .ok (number, rest) ↔ ∃ front, Form number front ∧ front ++ rest = bytes := by
  constructor
  · intro read
    cases bytes with
    | nil => cases read
    | cons byte after =>
        rcases first_cases byte with small | ⟨count, marked⟩ | rfl | rfl
        · rw [decode_single small] at read
          cases read
          exact ⟨[byte], .single small, rfl⟩
        · rw [decode_marked marked, fixed_eq_ok_iff] at read
          obtain ⟨body, rfl, rfl, rfl⟩ := read
          exact ⟨byte :: body, .marked marked, rfl⟩
        · cases read
        · cases read
  · rintro ⟨front, form, rfl⟩
    cases form with
    | single small => exact decode_single small rest
    | @marked mark body marked =>
        rw [List.cons_append, decode_marked marked]
        exact fixed_eq_ok_iff.mpr ⟨body, rfl, rfl, rfl⟩

end Varint

inductive Counted : Bytes → Bytes → Prop
  | intro {block size : Bytes} : Varint.Form block.length size → Counted block (size ++ block)

inductive Section.Form : Section → Bytes → Prop
  | fields {part : Section} {name first count data : Bytes} :
      Counted (Text.Utf8.encode part.name) name → Varint.Form part.firstPage.toNat first →
      Varint.Form part.pageCount.toNat count → Counted part.data data →
      Form part (name ++ first ++ count ++ data)

inductive Section.Forms : List Section → Bytes → Prop
  | nil : Forms [] []
  | cons {part : Section} {others : List Section} {front back : Bytes} :
      Form part front → Forms others back → Forms (part :: others) (front ++ back)

inductive Image.Form : Image → Bytes → Prop
  | fields {image : Image} {magic entry count sections : Bytes} :
      Varint.Form image.magic.toNat magic → Counted (Text.Utf8.encode image.entry) entry →
      Varint.Form image.sections.length count → Section.Forms image.sections sections →
      Form image (magic ++ entry ++ count ++ sections)

namespace Reader

variable {α β : Type} {bytes rest : Bytes}

theorem bind_run (first : Reader α) (next : α → Reader β) (bytes : Bytes) :
    (first >>= next) bytes = (first bytes).bind fun found => next found.1 found.2 :=
  rfl

theorem bind_eq_ok_iff {first : Reader α} {next : α → Reader β} {result : β × Bytes} :
    (first >>= next) bytes = .ok result ↔
      ∃ value middle, first bytes = .ok (value, middle) ∧ next value middle = .ok result := by
  rw [bind_run]
  cases first bytes <;> simp [Except.bind, Prod.ext_iff, and_assoc]

theorem pure_eq_ok_iff {value : α} {result : α × Bytes} :
    (pure value : Reader α) bytes = .ok result ↔ result = (value, bytes) := by
  show Except.ok (value, bytes) = .ok result ↔ _
  rw [Except.ok.injEq, eq_comm]

theorem number_eq_ok_iff {value : Nat} :
    number bytes = .ok (value, rest) ↔
      ∃ front, Varint.Form value front ∧ front ++ rest = bytes := by
  rw [← Varint.decode_eq_ok_iff, number]
  split <;> simp_all

theorem bounded_eq_ok_iff {bits value : Nat} :
    bounded bits bytes = .ok (value, rest) ↔
      value < 1 <<< bits ∧ ∃ front, Varint.Form value front ∧ front ++ rest = bytes := by
  rw [← number_eq_ok_iff]
  constructor
  · intro read
    obtain ⟨found, middle, first, checked⟩ := bind_eq_ok_iff.mp read
    split at checked
    · rename_i bound
      cases pure_eq_ok_iff.mp checked
      exact ⟨bound, first⟩
    · cases checked
  · rintro ⟨bound, first⟩
    refine bind_eq_ok_iff.mpr ⟨value, rest, first, ?_⟩
    rw [if_pos bound]
    rfl

theorem block_eq_ok_iff {length : Nat} {missing : DecodeError} {taken : Bytes} :
    block length missing bytes = .ok (taken, rest) ↔
      taken.length = length ∧ taken ++ rest = bytes := by
  unfold block
  constructor
  · intro read
    dsimp only at read
    split at read
    · rename_i enough
      cases read
      exact ⟨enough, List.take_append_drop length bytes⟩
    · cases read
  · rintro ⟨rfl, rfl⟩
    rw [List.take_left, if_pos rfl, List.drop_left]

theorem text_eq_ok_iff {value : String} :
    text bytes = .ok (value, rest) ↔
      ∃ front, Counted (Text.Utf8.encode value) front ∧ front ++ rest = bytes := by
  simp only [text, bind_eq_ok_iff, number_eq_ok_iff, block_eq_ok_iff]
  constructor
  · rintro ⟨length, _, ⟨size, form, rfl⟩, taken, _, ⟨rfl, rfl⟩, read⟩
    cases decoded : Text.Utf8.decode taken with
    | error fault =>
        rw [decoded] at read
        cases read
    | ok spelled =>
        rw [decoded] at read
        cases pure_eq_ok_iff.mp read
        obtain rfl := Text.Utf8.decode_eq_ok_iff.mp decoded
        exact ⟨_, .intro form, List.append_assoc _ _ _⟩
  · rintro ⟨_, ⟨form⟩, rfl⟩
    refine ⟨_, _, ⟨_, form, (List.append_assoc _ _ _).symm⟩, _, rest, ⟨rfl, rfl⟩, ?_⟩
    rw [Text.Utf8.decode_eq_ok_iff.mpr rfl]
    rfl

theorem data_eq_ok_iff {contents : Bytes} :
    data bytes = .ok (contents, rest) ↔
      ∃ front, Counted contents front ∧ front ++ rest = bytes := by
  simp only [data, bind_eq_ok_iff, number_eq_ok_iff, block_eq_ok_iff]
  constructor
  · rintro ⟨length, _, ⟨size, form, rfl⟩, rfl, rfl⟩
    exact ⟨_, .intro form, List.append_assoc _ _ _⟩
  · rintro ⟨_, ⟨form⟩, rfl⟩
    exact ⟨_, _, ⟨_, form, (List.append_assoc _ _ _).symm⟩, rfl, rfl⟩

theorem part_eq_ok_iff {found : Section} :
    part bytes = .ok (found, rest) ↔ ∃ front, found.Form front ∧ front ++ rest = bytes := by
  simp only [part, bind_eq_ok_iff, text_eq_ok_iff, bounded_eq_ok_iff, data_eq_ok_iff,
    pure_eq_ok_iff]
  constructor
  · rintro ⟨name, _, ⟨front, named, rfl⟩, first, _, ⟨firstBound, place, placed, rfl⟩,
      count, _, ⟨countBound, size, sized, rfl⟩, contents, _, ⟨filling, filled, rfl⟩, same⟩
    cases same
    refine ⟨front ++ place ++ size ++ filling, .fields named ?_ ?_ filled, by simp⟩
    · rwa [UInt32.toNat_ofNat_of_lt' firstBound]
    · rwa [UInt32.toNat_ofNat_of_lt' countBound]
  · rintro ⟨_, form, rfl⟩
    cases form with
    | @fields name first count contents named placed sized filled =>
        refine ⟨_, _, ⟨name, named, by simp only [List.append_assoc]; rfl⟩, _, _,
          ⟨found.firstPage.toNat_lt, first, placed, rfl⟩, _, _,
          ⟨found.pageCount.toNat_lt, count, sized, rfl⟩, _, _, ⟨contents, filled, rfl⟩, ?_⟩
        simp

theorem parts_eq_ok_iff {count : Nat} {sections : List Section} :
    parts count bytes = .ok (sections, rest) ↔
      sections.length = count ∧ ∃ front, Section.Forms sections front ∧ front ++ rest = bytes := by
  induction count generalizing bytes rest sections with
  | zero =>
      rw [parts, pure_eq_ok_iff]
      constructor
      · rintro ⟨⟩
        exact ⟨rfl, [], .nil, rfl⟩
      · rintro ⟨none, _, forms, rfl⟩
        obtain rfl := List.length_eq_zero_iff.mp none
        cases forms
        rfl
  | succ count ih =>
      simp only [parts, bind_eq_ok_iff, part_eq_ok_iff, ih, pure_eq_ok_iff]
      constructor
      · rintro ⟨first, _, ⟨front, form, rfl⟩, others, _, ⟨rfl, back, forms, rfl⟩, same⟩
        cases same
        exact ⟨rfl, _, .cons form forms, List.append_assoc _ _ _⟩
      · rintro ⟨length, _, forms, rfl⟩
        cases forms with
        | nil => cases length
        | @cons first others front back form forms =>
            exact ⟨first, _, ⟨front, form, (List.append_assoc _ _ _).symm⟩, others, rest,
              ⟨Nat.succ.inj length, back, forms, rfl⟩, rfl⟩

theorem image_eq_ok_iff {found : Image} :
    image bytes = .ok (found, rest) ↔ ∃ front, found.Form front ∧ front ++ rest = bytes := by
  simp only [image, bind_eq_ok_iff, text_eq_ok_iff, bounded_eq_ok_iff, number_eq_ok_iff,
    parts_eq_ok_iff, pure_eq_ok_iff]
  constructor
  · rintro ⟨magic, _, ⟨bound, stamp, stamped, rfl⟩, symbol, _, ⟨entry, named, rfl⟩,
      count, _, ⟨size, sized, rfl⟩, sections, _, ⟨rfl, body, forms, rfl⟩, same⟩
    cases same
    refine ⟨stamp ++ entry ++ size ++ body, .fields ?_ named sized forms, by simp⟩
    rwa [UInt16.toNat_ofNat_of_lt' bound]
  · rintro ⟨_, form, rfl⟩
    cases form with
    | @fields magic entry count sections stamped named sized forms =>
        refine ⟨_, _, ⟨found.magic.toNat_lt, magic, stamped, by simp only [List.append_assoc]; rfl⟩,
          _, _, ⟨entry, named, rfl⟩, _, _, ⟨count, sized, rfl⟩, _, _,
          ⟨rfl, sections, forms, rfl⟩, ?_⟩
        simp

end Reader

namespace Image

variable {stored : Bytes} {image : Image}

theorem decode_eq_ok_iff_read :
    decode stored = .ok image ↔ Reader.image stored = .ok (image, []) := by
  unfold decode
  split <;> simp_all

theorem decode_eq_ok_iff : decode stored = .ok image ↔ image.Form stored := by
  rw [decode_eq_ok_iff_read, Reader.image_eq_ok_iff]
  constructor
  · rintro ⟨front, form, rfl⟩
    rwa [List.append_nil]
  · intro form
    exact ⟨stored, form, List.append_nil stored⟩

end Image

end Minikernel
