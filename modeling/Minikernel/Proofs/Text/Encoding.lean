import Minikernel.Text.Utf8

/-!
Reading text is the exact inverse of writing it: bytes spell a text when they are the bytes that
the text is written as, and no others do. So a text is as long as the bytes that it was read from.
-/

namespace Minikernel.Text.Utf8

theorem toByteArray_toList (bytes : ByteArray) : bytes.data.toList.toByteArray = bytes := by
  apply ByteArray.ext
  rw [List.data_toByteArray, Array.toArray_toList]

theorem follow_ne_character (width length : Nat) (rest : Bytes) (value : Char) :
    follow width length rest ≠ .character value := by
  induction rest generalizing length with
  | nil =>
      unfold follow
      split <;> nofun
  | cons byte rest ih =>
      unfold follow
      split
      · exact ih (length + 1)
      · nofun

theorem fault_ne_character (byte : UInt8) (rest : Bytes) (value : Char) :
    fault byte rest ≠ .character value := by
  unfold fault
  cases lead? byte with
  | none => nofun
  | some range =>
      obtain ⟨width, low, high⟩ := range
      cases rest with
      | nil => nofun
      | cons second others =>
          dsimp only
          split
          · exact follow_ne_character _ _ _ value
          · nofun

theorem piece_eq_character_iff {byte : UInt8} {rest : Bytes} {value : Char} :
    piece byte rest = .character value ↔ String.utf8EncodeChar value <+: byte :: rest := by
  have window : byte :: rest.take 3 = (byte :: rest).take 4 := rfl
  unfold piece
  constructor
  · intro read
    split at read
    · rename_i found decoded
      cases read
      obtain ⟨after, same⟩ := ByteArray.exists_of_utf8DecodeChar?_eq_some decoded
      rw [← toByteArray_toList after, ← List.toByteArray_append, List.toByteArray_inj,
        window] at same
      exact (List.prefix_append _ _).trans (same ▸ List.take_prefix 4 (byte :: rest))
    · exact absurd read (fault_ne_character byte rest value)
  · rintro ⟨after, same⟩
    have width : (String.utf8EncodeChar value).length ≤ 4 := by
      rw [String.length_utf8EncodeChar]
      exact value.utf8Size_le_four
    have decoded : (byte :: rest.take 3).toByteArray.utf8DecodeChar? 0 = some value := by
      rw [window, ← same, List.take_append, List.take_of_length_le width, List.toByteArray_append]
      exact ByteArray.utf8DecodeChar?_utf8EncodeChar_append
    rw [decoded]

theorem piece_of_flatMap {byte : UInt8} {rest : Bytes} {later : List Char}
    (spelled : byte :: rest = later.flatMap String.utf8EncodeChar) :
    ∃ value others, later = value :: others ∧ piece byte rest = .character value := by
  cases later with
  | nil => cases spelled
  | cons value others =>
      refine ⟨value, others, rfl, piece_eq_character_iff.mpr ?_⟩
      rw [spelled, List.flatMap_cons]
      exact List.prefix_append _ _

theorem decodeFrom_eq_ok_iff {index : Nat} {before : List Char} {bytes : Bytes} {text : String} :
    decodeFrom index before bytes = .ok text ↔
      ∃ later, bytes = later.flatMap String.utf8EncodeChar ∧
        text = String.ofList (before.reverse ++ later) := by
  fun_induction decodeFrom index before bytes with
  | case1 index before =>
      constructor
      · rintro ⟨⟩
        exact ⟨[], rfl, by rw [List.append_nil]⟩
      · rintro ⟨later, nothing, rfl⟩
        cases later with
        | nil => rw [List.append_nil]
        | cons value later => simp at nothing
  | case2 index before byte rest value read ih =>
      obtain ⟨after, same⟩ := piece_eq_character_iff.mp read
      have remaining : rest.drop (value.utf8Size - 1) = after := by
        have shift : value.utf8Size = value.utf8Size - 1 + 1 :=
          (Nat.sub_add_cancel value.utf8Size_pos).symm
        rw [← List.drop_succ_cons (a := byte), ← shift, ← same, ← String.length_utf8EncodeChar,
          List.drop_left]
      rw [ih, remaining]
      simp only [List.reverse_cons, List.append_assoc, List.singleton_append]
      constructor
      · rintro ⟨later, rfl, rfl⟩
        exact ⟨value :: later, by rw [← same, List.flatMap_cons], rfl⟩
      · rintro ⟨later, spelled, rfl⟩
        obtain ⟨first, others, rfl, found⟩ := piece_of_flatMap spelled
        obtain rfl : value = first := Piece.character.inj (read.symm.trans found)
        rw [← same, List.flatMap_cons] at spelled
        exact ⟨others, List.append_cancel_left spelled, rfl⟩
  | case3 index before byte rest length read | case4 index before byte rest read =>
      refine iff_of_false nofun ?_
      rintro ⟨later, spelled, -⟩
      obtain ⟨value, others, -, found⟩ := piece_of_flatMap spelled
      rw [read] at found
      cases found

theorem decode_eq_ok_iff {bytes : Bytes} {text : String} :
    decode bytes = .ok text ↔ bytes = encode text := by
  rw [decode, decodeFrom_eq_ok_iff, encode]
  constructor
  · rintro ⟨later, rfl, rfl⟩
    rw [List.reverse_nil, List.nil_append, String.toList_ofList]
  · intro spelled
    exact ⟨text.toList, spelled, by rw [List.reverse_nil, List.nil_append, String.ofList_toList]⟩

theorem encode_length (text : String) : (encode text).length = text.utf8ByteSize := by
  rw [encode, ← List.size_toByteArray]
  show text.toList.utf8Encode.size = text.toByteArray.size
  rw [← String.toByteArray_ofList, String.ofList_toList]

theorem encode_append (first second : String) :
    encode (first ++ second) = encode first ++ encode second := by
  rw [encode, String.toList_append, List.flatMap_append]
  rfl

theorem zero_mem_utf8EncodeChar_iff {value : Char} :
    0 ∈ String.utf8EncodeChar value ↔ value = '\x00' := by
  have byte (number : Nat) : 0 = UInt8.ofNat number ↔ number % 256 = 0 := by
    rw [← UInt8.toNat_inj, UInt8.toNat_ofNat']
    exact eq_comm
  have zero : value = '\x00' ↔ value.val.toNat = 0 := by
    rw [← Char.toNat_inj]
    rfl
  rw [zero]
  simp only [String.utf8EncodeChar]
  generalize value.val.toNat = number
  split
  · rw [List.mem_singleton, byte]
    omega
  · split
    · simp only [List.mem_cons, List.not_mem_nil, or_false, byte]
      omega
    · split
      · simp only [List.mem_cons, List.not_mem_nil, or_false, byte]
        omega
      · simp only [List.mem_cons, List.not_mem_nil, or_false, byte]
        omega

theorem zero_mem_encode_iff {text : String} : 0 ∈ encode text ↔ '\x00' ∈ text.toList := by
  rw [encode, List.mem_flatMap]
  constructor
  · rintro ⟨value, member, zero⟩
    exact zero_mem_utf8EncodeChar_iff.mp zero ▸ member
  · intro member
    exact ⟨_, member, zero_mem_utf8EncodeChar_iff.mpr rfl⟩

theorem encode_length_le (text : String) : (encode text).length ≤ 4 * text.toList.length := by
  rw [encode]
  induction text.toList with
  | nil => exact Nat.zero_le _
  | cons value rest ih =>
      have width := value.utf8Size_le_four
      rw [List.flatMap_cons, List.length_append, String.length_utf8EncodeChar, List.length_cons]
      omega

theorem shown_length (byte : UInt8) (rest : Bytes) :
    (match piece byte rest with
      | .character value => value
      | .invalid _ | .truncated => replacement).utf8Size +
        3 * (rest.drop ((piece byte rest).extra rest)).length ≤ 3 * (rest.length + 1) := by
  have three : replacement.utf8Size = 3 := by decide
  rw [List.length_drop]
  cases read : piece byte rest with
  | character value =>
      have inside := (piece_eq_character_iff.mp read).length_le
      have positive := value.utf8Size_pos
      rw [String.length_utf8EncodeChar, List.length_cons] at inside
      simp only [Piece.extra]
      omega
  | invalid length =>
      simp only [three]
      omega
  | truncated =>
      simp only [three]
      omega

theorem lossyFrom_length (before : List Char) (bytes : Bytes) :
    ((lossyFrom before bytes).flatMap String.utf8EncodeChar).length ≤
      (before.flatMap String.utf8EncodeChar).length + 3 * bytes.length := by
  fun_induction lossyFrom before bytes with
  | case1 before => simp
  | case2 before byte rest found shown ih =>
      have step : shown.utf8Size + 3 * (rest.drop (found.extra rest)).length ≤
          3 * (rest.length + 1) := shown_length byte rest
      rw [List.flatMap_cons, List.length_append, String.length_utf8EncodeChar] at ih
      rw [List.length_cons]
      omega

theorem encode_lossy_length (bytes : Bytes) :
    (encode (lossy bytes)).length ≤ 3 * bytes.length := by
  have bound := lossyFrom_length [] bytes
  rw [List.flatMap_nil, List.length_nil, Nat.zero_add] at bound
  rwa [encode, lossy, String.toList_ofList]

end Minikernel.Text.Utf8
