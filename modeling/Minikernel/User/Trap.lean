import Minikernel.Memory.Frames
import Minikernel.Process.Status

/-!
The ways in which a program stops other than by returning. It asks for an exit or a halt
itself; every other trap is a fault and ends it abnormally.
-/

namespace Minikernel

inductive Trap where
  | exit (code : Int32)
  | halt
  | addressError (address : UInt32) (length : Nat)
  | stackOverflow (requested : Nat)
  | illegalSyscall (number : UInt32)
deriving DecidableEq

namespace Trap

def message : Trap → String
  | exit code => s!"exit({code})"
  | halt => "halt"
  | addressError address length =>
      s!"Address error at 0x{Text.Hex.digits address.toNat} (+{length} bytes)"
  | stackOverflow requested => s!"Stack overflow: {requested} bytes requested"
  | illegalSyscall number => s!"Illegal syscall {number}"

def exitStatus : Trap → ExitStatus
  | exit code => .normal code
  | halt => .normal 0
  | addressError .. | stackOverflow _ | illegalSyscall _ => .abnormal

/-- The trap of a program that used memory wrongly. A running program only ever fails on an
address; the other causes have no address to report. -/
def ofMemoryError : MemoryError → Trap
  | .invalidAddress address length => .addressError address length
  | .outOfFrames .. | .spaceTooLarge _ | .overflow => .addressError 0 0

end Trap

/-- Why a program does not go on: for a trap, which it can catch, or because a size does not fit in
its word. -/
inductive Stop where
  | trap (cause : Trap)
  | overflow
deriving DecidableEq

end Minikernel
