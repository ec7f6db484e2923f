import Minikernel.Bytes
import Minikernel.Limits

/-!
Bytes from address zero on, in whole pages. A byte is set on its own page only, so pages that
were never written stay one and the same. Bytes past the end are read as zero, and setting them
changes nothing.
-/

namespace Minikernel

abbrev Page := Vector UInt8 Limits.pageSize

namespace Page

theorem offset_lt (address : Nat) : address % Limits.pageSize < Limits.pageSize :=
  Nat.mod_lt address (by decide)

def byteAt (page : Page) (address : Nat) : UInt8 :=
  have := offset_lt address
  page[address % Limits.pageSize]

def zeros : Page := Vector.replicate Limits.pageSize 0

/-- A page with `data` laid over it from `start` on; what lies past the end is dropped. -/
def overlay (page : Page) (start : Nat) : Bytes → Page
  | [] => page
  | byte :: rest => overlay (page.setIfInBounds start byte) (start + 1) rest

def ofBytes (data : Bytes) : Page :=
  overlay zeros 0 data

theorem getElem_overlay (page : Page) (start : Nat) (data : Bytes) (index : Nat)
    (bound : index < Limits.pageSize) :
    (overlay page start data)[index] =
      if start ≤ index ∧ index < start + data.length then data.getD (index - start) 0
      else page[index] := by
  induction data generalizing page start with
  | nil =>
      have outside : ¬(start ≤ index ∧ index < start + 0) := by omega
      simp only [overlay, List.length_nil, outside, if_false]
  | cons byte rest ih =>
      rw [overlay, ih, Vector.getElem_setIfInBounds]
      by_cases first : start = index
      · subst first
        have before : ¬(start + 1 ≤ start ∧ start < start + 1 + rest.length) := by omega
        have covered : start ≤ start ∧ start < start + (byte :: rest).length := by
          simp only [List.length_cons]; omega
        rw [if_neg before, if_pos rfl, if_pos covered, Nat.sub_self, List.getD_cons_zero]
      · by_cases inside : start + 1 ≤ index ∧ index < start + 1 + rest.length
        · have covered : start ≤ index ∧ index < start + (byte :: rest).length := by
            simp only [List.length_cons]; omega
          have shift : index - start = (index - (start + 1)) + 1 := by omega
          rw [if_pos inside, if_pos covered, shift, List.getD_cons_succ]
        · have outside : ¬(start ≤ index ∧ index < start + (byte :: rest).length) := by
            simp only [List.length_cons]; omega
          rw [if_neg inside, if_neg first, if_neg outside]

theorem getElem_ofBytes (data : Bytes) (index : Nat) (bound : index < Limits.pageSize) :
    (ofBytes data)[index] = data.getD index 0 := by
  rw [ofBytes, getElem_overlay]
  by_cases inside : index < data.length
  · simp [inside]
  · simp [inside, zeros, List.getD_eq_getElem?_getD]

end Page

structure Pages where
  pages : Array Page
deriving DecidableEq

namespace Pages

def zeros (count : Nat) : Pages :=
  ⟨Array.replicate count Page.zeros⟩

def size (memory : Pages) : Nat :=
  memory.pages.size * Limits.pageSize

def byte (memory : Pages) (address : Nat) : UInt8 :=
  match memory.pages[address / Limits.pageSize]? with
  | some page => Page.byteAt page address
  | none => 0

def setByte (memory : Pages) (address : Nat) (byte : UInt8) : Pages :=
  ⟨memory.pages.modify (address / Limits.pageSize) fun page =>
    page.set (address % Limits.pageSize) byte (Page.offset_lt address)⟩

def setPage (memory : Pages) (index : Nat) (page : Page) : Pages :=
  ⟨memory.pages.setIfInBounds index page⟩

def read (memory : Pages) (start length : Nat) : Bytes :=
  (List.range' start length).map memory.byte

def overlay (memory : Pages) (start : Nat) : Bytes → Pages
  | [] => memory
  | byte :: rest => overlay (memory.setByte start byte) (start + 1) rest

def foldr (step : UInt8 → α → α) (start : α) (memory : Pages) : α :=
  memory.pages.foldr (fun page state => page.foldr step state) start

theorem zeros_size (count : Nat) : (zeros count).size = count * Limits.pageSize := by
  simp [zeros, size]

theorem zeros_byte (count address : Nat) : (zeros count).byte address = 0 := by
  unfold byte zeros Page.zeros Page.byteAt
  split
  · rename_i page found
    rw [Array.getElem?_replicate] at found
    split at found
    · cases found
      simp
    · cases found
  · rfl

theorem setByte_size (memory : Pages) (address : Nat) (byte : UInt8) :
    (memory.setByte address byte).size = memory.size := by
  simp [setByte, size]

theorem byte_setByte (memory : Pages) (address : Nat) (byte : UInt8) (index : Nat)
    (bound : index < memory.size) :
    (memory.setByte address byte).byte index =
      if index = address then byte else memory.byte index := by
  have page : index / Limits.pageSize < memory.pages.size :=
    Nat.div_lt_of_lt_mul (by rwa [Nat.mul_comm])
  have splitIndex := Nat.div_add_mod index Limits.pageSize
  have splitAddress := Nat.div_add_mod address Limits.pageSize
  simp only [Pages.byte, Page.byteAt, setByte, Array.getElem?_modify,
    Array.getElem?_eq_getElem page]
  by_cases same : address / Limits.pageSize = index / Limits.pageSize
  · by_cases here : index = address
    · subst here
      simp
    · have apart : address % Limits.pageSize ≠ index % Limits.pageSize := by
        intro equal
        rw [same, equal] at splitAddress
        omega
      simp [same, here, apart]
  · have here : index ≠ address := fun equal => same (by rw [equal])
    simp [same, here]

theorem setPage_size (memory : Pages) (index : Nat) (page : Page) :
    (memory.setPage index page).size = memory.size := by
  simp [setPage, size]

theorem byte_setPage (memory : Pages) (position : Nat) (page : Page) (index : Nat)
    (bound : index < memory.size) :
    (memory.setPage position page).byte index =
      if index / Limits.pageSize = position then
        Page.byteAt page index
      else memory.byte index := by
  have inside : index / Limits.pageSize < memory.pages.size :=
    Nat.div_lt_of_lt_mul (by rwa [Nat.mul_comm])
  by_cases here : index / Limits.pageSize = position
  · subst here
    simp [Pages.byte, setPage, inside]
  · have apart : position ≠ index / Limits.pageSize := Ne.symm here
    rw [if_neg here]
    simp only [Pages.byte, setPage, Array.getElem?_setIfInBounds_ne apart]

theorem overlay_size (memory : Pages) (start : Nat) (data : Bytes) :
    (memory.overlay start data).size = memory.size := by
  induction data generalizing memory start with
  | nil => rfl
  | cons byte rest ih => rw [overlay, ih, setByte_size]

theorem byte_overlay (memory : Pages) (start : Nat) (data : Bytes) (index : Nat)
    (bound : index < memory.size) :
    (memory.overlay start data).byte index =
      if start ≤ index ∧ index < start + data.length then data.getD (index - start) 0
      else memory.byte index := by
  induction data generalizing memory start with
  | nil =>
      have outside : ¬(start ≤ index ∧ index < start + 0) := by omega
      simp only [overlay, List.length_nil, outside, if_false]
  | cons byte rest ih =>
      have written := ih (memory.setByte start byte) (start + 1) (by rwa [setByte_size])
      rw [overlay, written, byte_setByte memory start byte index bound]
      by_cases first : index = start
      · subst first
        have before : ¬(index + 1 ≤ index ∧ index < index + 1 + rest.length) := by omega
        have covered : index ≤ index ∧ index < index + (byte :: rest).length := by
          simp only [List.length_cons]; omega
        rw [if_neg before, if_pos rfl, if_pos covered, Nat.sub_self, List.getD_cons_zero]
      · by_cases inside : start + 1 ≤ index ∧ index < start + 1 + rest.length
        · have covered : start ≤ index ∧ index < start + (byte :: rest).length := by
            simp only [List.length_cons]; omega
          have shift : index - start = (index - (start + 1)) + 1 := by omega
          rw [if_pos inside, if_pos covered, shift, List.getD_cons_succ]
        · have outside : ¬(start ≤ index ∧ index < start + (byte :: rest).length) := by
            simp only [List.length_cons]; omega
          rw [if_neg inside, if_neg first, if_neg outside]

theorem read_length (memory : Pages) (start length : Nat) :
    (memory.read start length).length = length := by
  simp [read]

end Pages

end Minikernel
