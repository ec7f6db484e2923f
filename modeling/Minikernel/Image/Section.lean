import Minikernel.Bytes
import Minikernel.Limits

/-!
Executable images: a magic word, the symbol of the routine to run, and sections that fill
whole pages. `Image.build` lays sections out back to back from page zero.
-/

namespace Minikernel

structure Section where
  name : String
  firstPage : UInt32
  pageCount : UInt32
  data : Bytes
deriving DecidableEq

def Section.pageData (part : Section) (index : Nat) : Bytes :=
  (part.data.drop (index * Limits.pageSize)).take Limits.pageSize

/-- The bytes that belong on a page, unless the end of the page does not fit in a word. -/
def Section.pageData? (part : Section) (index : Nat) : Option Bytes :=
  if (index + 1) * Limits.pageSize < UInt64.size then some (part.pageData index) else none

theorem Section.pageData_succ (part : Section) (index : Nat) :
    part.pageData (index + 1) =
      { part with data := part.data.drop Limits.pageSize }.pageData index := by
  simp [pageData, List.drop_drop, Nat.add_mul, Nat.add_comm]

def Section.totalPages : List Section → Nat
  | [] => 0
  | part :: rest => part.pageCount.toNat + totalPages rest

structure Image where
  magic : UInt16
  entry : String
  sections : List Section
deriving DecidableEq

namespace Image

def pageCount (image : Image) : Nat :=
  Section.totalPages image.sections

/-- Pages that hold so many bytes; a section has at least one. -/
def pagesFor (length : Nat) : Nat :=
  max 1 ((length + Limits.pageSize - 1) / Limits.pageSize)

def layOut (firstPage : UInt32) : List (String × Bytes) → List Section
  | [] => []
  | (name, data) :: rest =>
      let count := UInt32.ofNat (pagesFor data.length)
      ⟨name, firstPage, count, data⟩ :: layOut (firstPage + count) rest

/-- A well-formed image; without sections it gets an empty one of a single page. -/
def build (entry : String) (parts : List (String × Bytes)) : Image :=
  ⟨Limits.imageMagic, entry, layOut 0 (if parts.isEmpty then [(".text", [])] else parts)⟩

end Image

end Minikernel
