import Minikernel.Limits
import Minikernel.Text.Hex

/-!
The frames of physical memory: a budget that address spaces reserve from and give back to.
A pool never has more frames in use than it holds.
-/

namespace Minikernel

inductive MemoryError where
  | outOfFrames (requested available total : Nat)
  | invalidAddress (address : UInt32) (length : Nat)
  | spaceTooLarge (pages : Nat)
  /-- A size does not fit in its word. This is not an answer: it stops whoever asked. -/
  | overflow
deriving DecidableEq

namespace MemoryError

def message : MemoryError → String
  | outOfFrames requested available total =>
      s!"Out of physical memory: requested {requested} pages, {available} free of {total}"
  | invalidAddress address length =>
      s!"Invalid virtual address: 0x{Text.Hex.digits address.toNat} (+{length} bytes)"
  | spaceTooLarge pages => s!"Address space too large: {pages} pages"
  | overflow => "Arithmetic overflow"

def code : MemoryError → String
  | outOfFrames .. => "memory::out_of_frames"
  | invalidAddress .. => "memory::invalid_address"
  | spaceTooLarge .. => "memory::too_large"
  | overflow => "memory::overflow"

def help : MemoryError → Option String
  | outOfFrames .. => some "Join finished processes or raise KERNEL_PHYS_PAGES."
  | invalidAddress .. | spaceTooLarge .. | overflow => none

end MemoryError

structure FrameStats where
  totalFrames : UInt64
  usedFrames : UInt64
  freeFrames : UInt64
deriving DecidableEq

structure FramePool where
  total : Nat
  used : Nat
  usedBound : used ≤ total

namespace FramePool

def ofSize (total : Nat) : FramePool :=
  ⟨total, 0, Nat.zero_le total⟩

def free (pool : FramePool) : Nat :=
  pool.total - pool.used

def reserve (pool : FramePool) (pages : Nat) : Except MemoryError FramePool :=
  if bound : pool.used + pages ≤ pool.total then
    .ok ⟨pool.total, pool.used + pages, bound⟩
  else
    .error (.outOfFrames pages pool.free pool.total)

def release (pool : FramePool) (pages : Nat) : FramePool :=
  ⟨pool.total, pool.used - pages, Nat.le_trans (Nat.sub_le _ _) pool.usedBound⟩

def stats (pool : FramePool) : FrameStats :=
  ⟨UInt64.ofNat pool.total, UInt64.ofNat pool.used, UInt64.ofNat pool.free⟩

end FramePool

end Minikernel
