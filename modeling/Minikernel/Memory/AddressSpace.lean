import Minikernel.Memory.Frames
import Minikernel.Memory.Pages

/-!
The private memory of one process, a run of whole pages from address zero. The image comes
first, the stack after it grows down towards the image, and the last page holds the
arguments.

A plain transfer moves as many bytes as lie below the end and says how many; an exact one
either moves them all or fails.
-/

namespace Minikernel

structure AddressSpace where
  memory : Pages
  codePages : UInt64
  stackPages : UInt64
deriving DecidableEq

namespace AddressSpace

/-- The pages of a space with so many code and stack pages, if a word of 64 bits can count them. -/
def pagesFor (codePages stackPages : UInt64) : Except MemoryError Nat :=
  let pages := codePages.toNat + stackPages.toNat + Limits.argumentPages
  if pages < UInt64.size then .ok pages else .error .overflow

/-- A space of zeros, with its frames taken from the pool. Addresses have 32 bits, so the
size of a space has 32 bits too. -/
def create (pool : FramePool) (codePages stackPages : UInt64) :
    Except MemoryError (AddressSpace × FramePool) := do
  let pages ← pagesFor codePages stackPages
  if pages * Limits.pageSize < UInt32.size then
    let pool ← pool.reserve pages
    return (⟨.zeros pages, codePages, stackPages⟩, pool)
  else
    throw (.spaceTooLarge pages)

def pages (space : AddressSpace) : UInt64 :=
  space.codePages + space.stackPages + UInt64.ofNat Limits.argumentPages

def size (space : AddressSpace) : Nat :=
  space.memory.size

/-- The first address above the image, below which the stack does not grow. -/
def stackLimit (space : AddressSpace) : UInt32 :=
  UInt32.ofNat (space.codePages.toNat * Limits.pageSize)

def initialStack (space : AddressSpace) : UInt32 :=
  UInt32.ofNat ((space.codePages + space.stackPages).toNat * Limits.pageSize)

def argumentPage (space : AddressSpace) : UInt32 :=
  space.initialStack

def room (space : AddressSpace) (address : UInt32) (length : Nat) : Nat :=
  min length (space.size - address.toNat)

def read (space : AddressSpace) (address : UInt32) (length : Nat) : Bytes :=
  space.memory.read address.toNat (space.room address length)

def write (space : AddressSpace) (address : UInt32) (data : Bytes) : Nat × AddressSpace :=
  (space.room address data.length,
    { space with memory := space.memory.overlay address.toNat data })

def covers (space : AddressSpace) (address : UInt32) (length : Nat) : Bool :=
  address.toNat + length ≤ space.size

/-- The bytes before the first zero at or after an address, when that zero is among the first
`limit + 1` bytes. A block of so many bytes is asked for to search in. -/
def readString (space : AddressSpace) (address : UInt32) (limit : Nat) :
    Except MemoryError (Option Bytes) :=
  if limit < Limits.maxBlock then
    let bytes := space.read address (limit + 1)
    .ok (if 0 ∈ bytes then some (bytes.takeWhile (· != 0)) else none)
  else .error .overflow

def stringAt? (space : AddressSpace) (address : UInt32) : Option Bytes :=
  (space.readString address Limits.maxStringLength).toOption.join

def readExact (space : AddressSpace) (address : UInt32) (length : Nat) :
    Except MemoryError Bytes :=
  let bytes := space.read address length
  if bytes.length = length then .ok bytes else .error (.invalidAddress address length)

def writeExact (space : AddressSpace) (address : UInt32) (data : Bytes) :
    Except MemoryError AddressSpace :=
  if space.covers address data.length then .ok (space.write address data).2
  else .error (.invalidAddress address data.length)

def readWord (space : AddressSpace) (address : UInt32) : Except MemoryError UInt32 :=
  (space.readExact address 4).map Bytes.word

def writeWord (space : AddressSpace) (address word : UInt32) :
    Except MemoryError AddressSpace :=
  space.writeExact address (Bytes.ofWord word)

def loadPage (space : AddressSpace) (page : UInt32) (data : Bytes) :
    Except MemoryError AddressSpace :=
  let start := page.toNat * Limits.pageSize
  if data.length ≤ Limits.pageSize ∧ start + Limits.pageSize ≤ space.size then
    .ok { space with memory := space.memory.setPage page.toNat (Page.ofBytes data) }
  else
    .error (.invalidAddress (UInt32.ofNat start) data.length)

def prependRun (address : Nat) (byte : UInt8) (runs : List (Nat × Bytes)) :
    List (Nat × Bytes) :=
  if byte = 0 then runs
  else
    match runs with
    | (start, run) :: others =>
        if start = address + 1 then (address, byte :: run) :: others
        else (address, [byte]) :: runs
    | [] => [(address, [byte])]

def occupied (space : AddressSpace) : List (Nat × Bytes) :=
  (space.memory.foldr
    (fun byte (address, runs) => (address - 1, prependRun (address - 1) byte runs))
    (space.size, [])).2

theorem read_length (space : AddressSpace) (address : UInt32) (length : Nat) :
    (space.read address length).length = space.room address length :=
  space.memory.read_length address.toNat (space.room address length)

end AddressSpace

end Minikernel
