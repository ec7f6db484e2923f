import Minikernel.Executable.Error
import Minikernel.Executable.Store
import Minikernel.Image.Encoding
import Minikernel.Memory.AddressSpace

/-!
From a name to an address space: the name is checked, the image looked up, decoded and
checked, its entry symbol bound to a routine, and its sections copied into fresh memory.
Nothing is taken from the frame pool before every check has passed.
-/

namespace Minikernel

structure LoadedImage (Routine : Type) where
  name : String
  image : Image
  routine : Routine

namespace LoadedImage

def codePages (loaded : LoadedImage Routine) : UInt64 :=
  UInt64.ofNat loaded.image.pageCount

/-- Fills `count` pages from a page on with as much of `data` as each of them holds. -/
def loadPages (page : UInt32) (data : Bytes) :
    Nat → AddressSpace → Except MemoryError AddressSpace
  | 0, space => .ok space
  | count + 1, space => do
      let space ← space.loadPage page (data.take Limits.pageSize)
      loadPages (page + 1) (data.drop Limits.pageSize) count space

def loadSections : List Section → AddressSpace → Except MemoryError AddressSpace
  | [], space => .ok space
  | part :: rest, space => do
      let space ← loadPages part.firstPage part.data part.pageCount.toNat space
      loadSections rest space

/-- A new address space that holds the image, and the frames left. A space that cannot be
filled is given up, and its frames go back. -/
def build (loaded : LoadedImage Routine) (pool : FramePool) (stackPages : UInt64) :
    Except LoadError AddressSpace × FramePool :=
  match AddressSpace.create pool loaded.codePages stackPages with
  | .error cause => (.error (.memory loaded.name cause), pool)
  | .ok (space, taken) =>
      match loadSections loaded.image.sections space with
      | .error cause => (.error (.memory loaded.name cause), taken.release space.pages.toNat)
      | .ok filled => (.ok filled, taken)

def instantiate (loaded : LoadedImage Routine) (pool : FramePool) (stackPages : UInt64) :
    Except LoadError (AddressSpace × FramePool) :=
  match loaded.build pool stackPages with
  | (.ok space, left) => .ok (space, left)
  | (.error cause, _) => .error cause

end LoadedImage

structure Loader (Routine : Type) where
  store : Store
  entries : Registry Routine

namespace Loader

/-- Whether a name may name an executable: more than the suffix, at most
`Limits.maxStringLength` bytes, without a zero byte, and with the suffix at its end. -/
def isValidName (name : String) : Bool :=
  name.utf8ByteSize ≤ Limits.maxStringLength &&
    !name.toList.contains '\x00' &&
    Limits.executableSuffix.utf8ByteSize < name.utf8ByteSize &&
    Limits.executableSuffix.toList.isSuffixOf name.toList

def validateName (name : String) : Except LoadError Unit :=
  if isValidName name then .ok () else .error (.invalidName name)

def validateSections (name : String) (expected : UInt32) :
    List Section → Except LoadError Unit
  | [] => .ok ()
  | part :: rest =>
      if part.firstPage ≠ expected then
        .error (.fragmented name part.name part.firstPage expected)
      else if part.pageCount = 0 ∨ part.pageCount.toNat * Limits.pageSize < part.data.length then
        .error (.malformed name
          (s!"section {part.name} holds {part.data.length} bytes in " ++
            s!"{part.pageCount} pages"))
      else if expected.toNat + part.pageCount.toNat < UInt32.size then
        validateSections name (expected + part.pageCount) rest
      else .error (.malformed name "section pages overflow")

def validateImage (name : String) (image : Image) : Except LoadError Unit :=
  if image.magic ≠ Limits.imageMagic then .error (.badMagic name image.magic)
  else if image.sections.isEmpty then .error (.malformed name "no sections")
  else if image.entry = "" then .error (.malformed name "empty entry symbol")
  else validateSections name 0 image.sections

def load (loader : Loader Routine) (name : String) :
    Except LoadError (LoadedImage Routine) := do
  validateName name
  match loader.store.find? name with
  | none => throw (.notFound name)
  | some bytes =>
      match Image.decode bytes with
      | .error cause => throw (.malformed name cause.message)
      | .ok image => do
          validateImage name image
          match loader.entries.find? image.entry with
          | none => throw (.unknownEntry name image.entry)
          | some routine => return ⟨name, image, routine⟩

end Loader

end Minikernel
