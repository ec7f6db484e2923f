/-!
Byte strings, and numbers written in them lowest byte first.
-/

namespace Minikernel

abbrev Bytes := List UInt8

namespace Bytes

def littleEndian : Nat → Nat → Bytes
  | 0, _ => []
  | count + 1, value => UInt8.ofNat value :: littleEndian count (value / 256)

def value : Bytes → Nat
  | [] => 0
  | byte :: rest => byte.toNat + 256 * value rest

def capacity : Nat → Nat
  | 0 => 1
  | count + 1 => 256 * capacity count

def ofWord (word : UInt32) : Bytes :=
  littleEndian 4 word.toNat

def word (bytes : Bytes) : UInt32 :=
  UInt32.ofNat (value (bytes.take 4))

theorem littleEndian_length (count number : Nat) :
    (littleEndian count number).length = count := by
  induction count generalizing number with
  | zero => rfl
  | succ count ih => simp [littleEndian, ih]

theorem value_littleEndian (count number : Nat) (bound : number < capacity count) :
    value (littleEndian count number) = number := by
  induction count generalizing number with
  | zero =>
      simp only [capacity] at bound
      simp only [littleEndian, value]
      omega
  | succ count ih =>
      have quotientBound : number / 256 < capacity count := by
        rw [capacity] at bound
        omega
      have remainder : (UInt8.ofNat number).toNat = number % 256 := by simp
      simp only [littleEndian, value, ih (number / 256) quotientBound, remainder]
      omega

theorem value_lt_capacity (bytes : Bytes) : value bytes < capacity bytes.length := by
  induction bytes with
  | nil => decide
  | cons byte rest ih =>
      have bound := byte.toNat_lt
      rw [value, List.length_cons, capacity]
      omega

theorem littleEndian_value (bytes : Bytes) :
    littleEndian bytes.length (value bytes) = bytes := by
  induction bytes with
  | nil => rfl
  | cons byte rest ih =>
      have bound := byte.toNat_lt
      have low : UInt8.ofNat (byte.toNat + 256 * value rest) = byte := by
        rw [← UInt8.toNat_inj, UInt8.toNat_ofNat']
        omega
      have high : (byte.toNat + 256 * value rest) / 256 = value rest := by omega
      rw [value, List.length_cons, littleEndian, low, high, ih]

theorem ofWord_length (word : UInt32) : (ofWord word).length = 4 :=
  littleEndian_length 4 word.toNat

theorem word_ofWord (number : UInt32) : word (ofWord number) = number := by
  have whole : (ofWord number).take 4 = ofWord number :=
    List.take_of_length_le (Nat.le_of_eq (ofWord_length number))
  have bound : number.toNat < capacity 4 := number.toNat_lt
  rw [word, whole, ofWord, value_littleEndian 4 number.toNat bound]
  simp

theorem ofWord_word {bytes : Bytes} (four : bytes.length = 4) :
    ofWord (word bytes) = bytes := by
  have number : (word bytes).toNat = value bytes := by
    rw [word, List.take_of_length_le (Nat.le_of_eq four)]
    refine UInt32.toNat_ofNat_of_lt' ?_
    have bound := value_lt_capacity bytes
    rwa [four] at bound
  have spelled := littleEndian_value bytes
  rwa [four, ← number] at spelled

end Bytes

end Minikernel
