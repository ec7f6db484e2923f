import Minikernel.Json.Record
import Minikernel.Proofs.Json.RoundTrip

/-!
Types that lose nothing in a document. A type is kept when all that it writes is plain and decoded
to the same again; its text is read back then. Lists and optional values keep what their elements
keep, and a record with its fields under different names is found field by field.
-/

namespace Minikernel.Json

structure Keeps (encode : α → Value) (decode : Value → Option α) : Prop where
  plain : ∀ content, (encode content).Plain
  decoded : ∀ content, decode (encode content) = some content

variable {encode : α → Value} {decode : Value → Option α}

theorem Keeps.reads_back (kept : Keeps encode decode) (content : α) :
    (read? (encode content).write).bind decode = some content := by
  rw [read?_write (kept.plain content), Option.bind_some, kept.decoded content]

namespace Value

theorem natural_plain {number : Nat} (bound : number < UInt64.size) : (natural number).Plain :=
  .integer ⟨by omega, Int.ofNat_lt.mpr bound⟩

theorem natural?_natural {bound number : Nat} (below : number < bound) :
    natural? bound (natural number) = some number :=
  if_pos below

theorem keeps_word {α : Type} {size : Nat} {toNat : α → Nat} {ofNat : Nat → α}
    (below : ∀ number, toNat number < size) (narrow : size ≤ UInt64.size)
    (same : ∀ number, ofNat (toNat number) = number) :
    Keeps (fun number => natural (toNat number))
      (fun value => (natural? size value).map ofNat) where
  plain number := natural_plain (Nat.lt_of_lt_of_le (below number) narrow)
  decoded number := by
    rw [natural?_natural (below number), Option.map_some, same]

theorem keeps_uint8 : Keeps (fun number : UInt8 => natural number.toNat) uint8? :=
  keeps_word UInt8.toNat_lt (by decide) fun _ => UInt8.ofNat_toNat

theorem keeps_uint16 : Keeps (fun number : UInt16 => natural number.toNat) uint16? :=
  keeps_word UInt16.toNat_lt (by decide) fun _ => UInt16.ofNat_toNat

theorem keeps_uint32 : Keeps (fun number : UInt32 => natural number.toNat) uint32? :=
  keeps_word UInt32.toNat_lt (by decide) fun _ => UInt32.ofNat_toNat

theorem keeps_uint64 : Keeps (fun number : UInt64 => natural number.toNat) uint64? :=
  keeps_word UInt64.toNat_lt (by decide) fun _ => UInt64.ofNat_toNat

theorem keeps_int32 : Keeps (fun number : Int32 => integer number.toInt) int32? where
  plain number := by
    have low := number.le_toInt
    have high := number.toInt_lt
    have size : UInt64.size = 2 ^ 64 := rfl
    exact .integer ⟨by omega, by omega⟩
  decoded number := by
    have inside : Int32.minValue.toInt ≤ number.toInt ∧ number.toInt ≤ Int32.maxValue.toInt :=
      ⟨number.minValue_le_toInt, number.toInt_le⟩
    rw [int32?, integer?, if_pos inside, Option.map_some, Int32.ofInt_toInt]

theorem keeps_bool : Keeps bool bool? where
  plain := .bool
  decoded _ := rfl

theorem keeps_string : Keeps string string? where
  plain := .text
  decoded _ := rfl

theorem keeps_list (kept : Keeps encode decode) :
    Keeps (fun contents => array (contents.map encode)) (list? decode) where
  plain contents := by
    refine .array fun item member => ?_
    obtain ⟨content, -, rfl⟩ := List.mem_map.mp member
    exact kept.plain content
  decoded contents := by
    rw [list?]
    induction contents with
    | nil => rfl
    | cons content contents ih =>
        rw [List.map_cons, List.mapM_cons, kept.decoded, ih]
        rfl

theorem keeps_option (kept : Keeps encode decode) (present : ∀ content, encode content ≠ null) :
    Keeps (ofOption encode) (nullable? decode) where
  plain
    | none => .null
    | some content => kept.plain content
  decoded
    | none => rfl
    | some content => by
        have decoded := kept.decoded content
        have given := present content
        rw [ofOption]
        unfold nullable?
        split
        · rename_i isNull
          exact absurd isNull given
        · rw [decoded, Option.map_some]

theorem record_plain {fields : List (String × Value)}
    (each : ∀ field ∈ fields, field.2.Plain) : (record fields).Plain := by
  refine .object ?_ ?_
  · intro member among
    obtain ⟨field, -, rfl⟩ := List.mem_map.mp among
    exact ⟨field.1, rfl⟩
  · intro member among
    obtain ⟨field, given, rfl⟩ := List.mem_map.mp among
    exact each field given

end Value

namespace Record

theorem ofValue?_record {names : List String} {fields : List (String × Value)}
    (known : ∀ field ∈ fields, field.1 ∈ names) (distinct : (fields.map Prod.fst).Nodup) :
    ofValue? names (.record fields) = some ⟨false, fields⟩ := by
  have all : known? names (fields.map fun field => (Text.plain field.1, field.2)) =
      some fields := by
    induction fields with
    | nil => rfl
    | cons field fields ih =>
        rw [List.map_cons, List.nodup_cons] at distinct
        have fresh : (fields.any fun other => other.1 = field.1) = false := by
          refine List.any_eq_false.mpr fun other member same => distinct.1 ?_
          exact of_decide_eq_true same ▸ List.mem_map_of_mem member
        rw [List.map_cons, known?, ih (fun other member => known other (.tail _ member)) distinct.2]
        dsimp only
        rw [if_neg (not_not_intro (known field (.head _))), fresh]
        rfl
  rw [Value.record, ofValue?, all]
  rfl

end Record

end Minikernel.Json
