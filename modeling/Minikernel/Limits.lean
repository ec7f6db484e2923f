/-!
Sizes and bounds that every part of the kernel shares. The three defaults are what a
configuration starts from; the rest is fixed.
-/

namespace Minikernel.Limits

def pageSize : Nat := 1024

def defaultStackPages : Nat := 8

def argumentPages : Nat := 1

def defaultPhysicalPages : Nat := 1024

def pointerSize : Nat := 4

/-- Longest string taken from user memory, its terminator not counted. -/
def maxStringLength : Nat := 256

/-- Most arguments a process is given: each costs at least a pointer and a terminator. -/
def maxArguments : Nat := pageSize / (pointerSize + 1)

def defaultMaxProcesses : Nat := 256

def maxOpenFiles : Nat := 16

def imageMagic : UInt16 := 0x0162

def executableSuffix : String := ".coff"

def maxImageBytes : Nat := 16 * 1024 * 1024

/-- Longest block of bytes that can be asked for. -/
def maxBlock : Nat := 0x7fffffffffffffff

def syscallFailure : Int32 := -1

end Minikernel.Limits
