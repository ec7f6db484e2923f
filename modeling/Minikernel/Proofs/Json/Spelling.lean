import Minikernel.Json.Token
import Minikernel.Json.Writing

/-!
Numbers and strings as a document spells them. An integer of 64 bits is read back from its digits,
as long as what follows does not go on with the number; a text is read back from its escapes,
whatever follows the closing quote.
-/

namespace Minikernel.Json.Token

inductive Ends : List Char → Prop where
  | done : Ends []
  | comma {after : List Char} : Ends (',' :: after)
  | closeArray {after : List Char} : Ends (']' :: after)
  | closeObject {after : List Char} : Ends ('\x7d' :: after)

theorem le_ofDigitChars (digits : List Char) (number : Nat) :
    number ≤ Nat.ofDigitChars 10 digits number := by
  induction digits generalizing number with
  | nil => exact Nat.le_refl _
  | cons digit digits ih =>
      rw [Nat.ofDigitChars_cons]
      have later := ih (10 * number + (digit.toNat - '0'.toNat))
      omega

theorem appendDigits_eq {limit number : Nat} {digits : List Char}
    (below : Nat.ofDigitChars 10 digits number < limit) :
    appendDigits limit number digits = (Nat.ofDigitChars 10 digits number, []) := by
  induction digits generalizing number with
  | nil => rfl
  | cons digit digits ih =>
      have longer : number * 10 + (digit.toNat - 48) = 10 * number + (digit.toNat - '0'.toNat) := by
        rw [Nat.mul_comm]
        rfl
      rw [Nat.ofDigitChars_cons] at below ⊢
      have reached := le_ofDigitChars digits (10 * number + (digit.toNat - '0'.toNat))
      rw [appendDigits, longer, if_pos (by omega), ih below]

theorem integer?_toDigits {number : Nat} (below : number < UInt64.size) :
    integer? false (Nat.toDigits 10 number) = some (number : Int) := by
  have value : Nat.ofDigitChars 10 (Nat.toDigits 10 number) 0 = number :=
    Nat.ofDigitChars_ten_toDigits
  rw [integer?, appendDigits_eq (by rwa [value]), value]
  rfl

theorem integer?_toDigits_neg {number : Nat} (positive : 0 < number)
    (bound : number ≤ UInt64.size / 2) :
    integer? true (Nat.toDigits 10 number) = some (-(number : Int)) := by
  have value : Nat.ofDigitChars 10 (Nat.toDigits 10 number) 0 = number :=
    Nat.ofDigitChars_ten_toDigits
  have half : UInt64.size / 2 < UInt64.size := by decide
  rw [integer?, appendDigits_eq (by rw [value]; exact Nat.lt_of_le_of_lt bound half), value]
  show (if 0 < number ∧ number ≤ UInt64.size / 2 then some (-(number : Int)) else none) = _
  rw [if_pos ⟨positive, bound⟩]

theorem takeWhile_digits {digits rest : List Char} (all : ∀ digit ∈ digits, isDigit digit = true)
    (ends : Ends rest) :
    (digits ++ rest).takeWhile isDigit = digits ∧ (digits ++ rest).dropWhile isDigit = rest := by
  rw [List.takeWhile_append_of_pos all, List.dropWhile_append_of_pos all]
  cases ends <;> exact ⟨List.append_nil _, rfl⟩

theorem isDigit_of_mem_toDigits {number : Nat} :
    ∀ digit ∈ Nat.toDigits 10 number, isDigit digit = true :=
  fun _ member => Nat.isDigit_of_mem_toDigits (by decide) (by decide) member

theorem toDigits_eq (number : Nat) (positive : 0 < number) :
    ∃ first others, Nat.toDigits 10 number = first :: others ∧ first ≠ '0' := by
  induction number using Nat.strongRecOn with
  | ind number ih =>
      by_cases short : number < 10
      · refine ⟨number.digitChar, [], Nat.toDigits_of_lt_base short, fun zero => ?_⟩
        have value := Nat.toNat_digitChar_of_lt_ten short
        rw [zero] at value
        have code : '0'.toNat = 48 := rfl
        omega
      · obtain ⟨first, others, spelled, nonzero⟩ := ih (number / 10) (by omega) (by omega)
        refine ⟨first, others ++ [(number % 10).digitChar], ?_, nonzero⟩
        rw [Nat.toDigits_of_base_le (by decide) (by omega), spelled]
        rfl

theorem whole?_toDigits {number : Nat} {rest : List Char} (ends : Ends rest) :
    whole? (Nat.toDigits 10 number ++ rest) = some (Nat.toDigits 10 number, rest) := by
  rcases Nat.eq_zero_or_pos number with rfl | positive
  · rfl
  · obtain ⟨first, others, spelled, nonzero⟩ := toDigits_eq number positive
    have parts := takeWhile_digits (@isDigit_of_mem_toDigits number) ends
    rw [spelled] at parts ⊢
    unfold whole?
    split
    · rename_i same
      cases same
      exact absurd rfl nonzero
    · rw [parts.1, parts.2]

theorem number?_of_integer {negative : Bool} {number : Nat} {value : Int} {rest : List Char}
    (ends : Ends rest) (spelled : integer? negative (Nat.toDigits 10 number) = some value) :
    number? negative (Nat.toDigits 10 number ++ rest) = some (.integer value, rest) := by
  have noFraction : fraction? rest = some ([], rest) := by cases ends <;> rfl
  have noExponent : exponent? rest = some ([], rest) := by cases ends <;> rfl
  rw [number?, whole?_toDigits ends]
  simp only [Option.bind_eq_bind, Option.bind_some, noFraction, noExponent, spelled]
  rfl

structure Fits (value : Int) : Prop where
  low : -((UInt64.size / 2 : Nat) : Int) ≤ value
  high : value < (UInt64.size : Int)

theorem read?_of_digit {first : Char} {rest : List Char} (digit : isDigit first = true) :
    read? (first :: rest) = number? false (first :: rest) := by
  unfold read?
  split <;> rename_i same <;> first
    | rfl
    | (cases same; exact absurd digit (by decide))

theorem toList_toString (value : Int) :
    (toString value).toList =
      if value < 0 then '-' :: Nat.toDigits 10 value.natAbs else Nat.toDigits 10 value.natAbs := by
  cases value with
  | ofNat number => exact Nat.toList_repr
  | negSucc less =>
      rw [if_pos (Int.negSucc_lt_zero less)]
      show ("-" ++ Nat.repr (less + 1)).toList = '-' :: Nat.toDigits 10 (less + 1)
      rw [String.toList_append, Nat.toList_repr]
      rfl

theorem toList_toString_ne_nil (value : Int) : (toString value).toList ≠ [] := by
  rw [toList_toString]
  split
  · exact List.cons_ne_nil _ _
  · exact Nat.toDigits_ne_nil

theorem read?_integer {value : Int} {rest : List Char} (fits : Fits value) (ends : Ends rest) :
    read? ((toString value).toList ++ rest) = some (.integer value, rest) := by
  have low := fits.low
  have high := fits.high
  rw [toList_toString]
  by_cases negative : value < 0
  · rw [if_pos negative]
    have spelled := integer?_toDigits_neg (show 0 < value.natAbs by omega) (by omega)
    have same : -(value.natAbs : Int) = value := by omega
    rw [same] at spelled
    exact number?_of_integer ends spelled
  · rw [if_neg negative]
    have spelled := integer?_toDigits (show value.natAbs < UInt64.size by omega)
    have same : (value.natAbs : Int) = value := by omega
    rw [same] at spelled
    have read := number?_of_integer ends spelled
    obtain ⟨first, others, digits⟩ :=
      List.exists_cons_of_ne_nil (@Nat.toDigits_ne_nil value.natAbs 10)
    have digit : isDigit first = true :=
      isDigit_of_mem_toDigits first (digits ▸ List.mem_cons_self)
    rw [digits] at read ⊢
    exact (read?_of_digit digit).trans read

theorem escapedUnit_toList : ∀ unit < 0x20,
    (escapedUnit unit).toList =
        ['\\', 'u', '0', '0', (unit / 16).digitChar, (unit % 16).digitChar] ∧
      unit? '0' '0' (unit / 16).digitChar (unit % 16).digitChar = some unit := by
  decide +kernel

theorem units?_escapedCharacter (before : List Nat) (character : Char) (rest : List Char) :
    units? before ((escapedCharacter character).toList ++ rest) =
      units? (character.toNat :: before) rest := by
  unfold escapedCharacter
  -- The seven characters that have an escape of one letter.
  iterate 7
    split
    · subst character; rfl
  split
  · rename_i control
    obtain ⟨spelled, value⟩ := escapedUnit_toList character.toNat control
    rw [spelled]
    simp only [List.cons_append, List.nil_append]
    rw [units?, value]
  · rename_i notQuote notBackslash _ _ _ _ _ visible
    have itself : character.toString.toList = [character] :=
      String.toList_singleton character
    rw [itself, List.singleton_append]
    conv => lhs; unfold units?
    split
    · rename_i nothing; cases nothing
    · rename_i same; cases same; exact absurd rfl notQuote
    · rename_i same; cases same; exact absurd rfl notBackslash
    · rename_i same; cases same; exact absurd rfl notBackslash
    · rename_i same
      cases same
      rw [if_neg (not_or.mpr ⟨visible, notBackslash⟩)]

theorem units?_plain (before : List Nat) (characters rest : List Char) :
    units? before ((String.join (characters.map escapedCharacter)).toList ++ '"' :: rest) =
      some (before.reverse ++ characters.map Char.toNat, rest) := by
  induction characters generalizing before with
  | nil => simp [units?]
  | cons character characters ih =>
      rw [List.map_cons, String.join_cons, String.toList_append, List.append_assoc,
        units?_escapedCharacter, ih, List.reverse_cons, List.append_assoc]
      rfl

theorem characters?_map_toNat (before characters : List Char) :
    characters? before (characters.map Char.toNat) = some (before.reverse ++ characters) := by
  induction characters generalizing before with
  | nil => simp [characters?]
  | cons character characters ih =>
      have valid : character.toNat < 0xd800 ∨
          0xdfff < character.toNat ∧ character.toNat < 0x110000 := character.valid
      have noHigh : isHighSurrogate character.toNat = false := by
        rw [isHighSurrogate, Bool.and_eq_false_iff, decide_eq_false_iff_not,
          decide_eq_false_iff_not]
        omega
      have noLow : isLowSurrogate character.toNat = false := by
        rw [isLowSurrogate, Bool.and_eq_false_iff, decide_eq_false_iff_not,
          decide_eq_false_iff_not]
        omega
      rw [List.map_cons]
      unfold characters?
      simp only [noHigh, noLow, Bool.false_eq_true, if_false]
      rw [Char.ofNat_toNat, ih, List.reverse_cons, List.append_assoc]
      rfl

theorem toList_write (text : String) :
    (Text.plain text).write.toList =
      '"' :: ((String.join (text.toList.map escapedCharacter)).toList ++ ['"']) := by
  rw [Text.write, String.toList_append, String.toList_append]
  rfl

theorem toList_write_ne_nil (text : String) : (Text.plain text).write.toList ≠ [] := by
  rw [toList_write]
  exact List.cons_ne_nil _ _

theorem read?_text (text : String) (rest : List Char) :
    read? ((Text.plain text).write.toList ++ rest) = some (.text (.plain text), rest) := by
  have units : textOf (text.toList.map Char.toNat) = .plain text := by
    rw [textOf, characters?_map_toNat, List.reverse_nil, List.nil_append]
    exact congrArg Text.plain String.ofList_toList
  rw [toList_write, List.cons_append, List.append_assoc, List.singleton_append, read?,
    units?_plain, Option.map_some, List.reverse_nil, List.nil_append]
  dsimp only
  rw [units]

theorem isBlank_of_read? {character : Char} {rest : List Char} {found : Token × List Char}
    (read : read? (character :: rest) = some found) : isBlank character = false := by
  cases blank : isBlank character with
  | false => rfl
  | true =>
      have nothing : read? (character :: rest) = none := by
        simp only [isBlank, Bool.or_eq_true, decide_eq_true_eq] at blank
        rcases blank with ((rfl | rfl) | rfl) | rfl <;> rfl
      rw [nothing] at read
      cases read

end Minikernel.Json.Token
