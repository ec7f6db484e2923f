import Minikernel.User.Program

/-!
Programs written as lists of instructions. Each instruction gives a reading, which is noted,
and a later one can use the number of an earlier reading. An instruction that traps ends the
program, unless it is marked to be caught; then its reading counts as zero and the program
goes on. After the last instruction the program returns zero.

A script never waits in a join: where it would have to, the instruction says so instead.
-/

namespace Minikernel.Script

inductive Operand where
  | literal (value : Int)
  | reading (index : Nat) (added : Int)

def Operand.eval (readings : List Reading) : Operand → Int
  | literal value => value
  | reading index added => (readings[index]?.elim 0 Reading.toInt) + added

def wordOf (number : Int) : UInt32 :=
  UInt32.ofInt number

def intOf (number : Int) : Int32 :=
  (wordOf number).toInt32

inductive Action where
  | pid
  | name
  | argumentCount
  | argumentPointers
  | stackPointer
  | textArguments
  | rawArguments
  | shape
  | memory
  | describe
  | syscall (number a0 a1 a2 a3 : Operand)
  | pushBytes (data : Bytes)
  | pushString (text : String)
  | pushInt (value : Operand)
  | pushPointers (values : List Operand)
  | pushArguments (texts : List String)
  | print (text : String)
  | readBytes (address length : Operand)
  | writeBytes (address : Operand) (data : Bytes)
  | poke (address : Operand) (data : Bytes)
  | readInt (address : Operand)
  | writeInt (address value : Operand)
  | readString (address : Operand)
  | restore (address : Operand)
  | gate

inductive Instruction where
  | act (action : Action) (caught : Bool)
  | give (value : Operand)
  | crash

def attempt (call : Registers) : Program Reading :=
  .attempt call fun reply =>
    match reply with
    | .value result => .done (.number result.toInt)
    | .trap cause => .fault cause
    | .blocked _ => .done .wouldBlock

def address (pushed : Program UInt32) : Program Reading :=
  return .number (← pushed).toNat

def Action.run (readings : List Reading) : Action → Program Reading
  | pid => return .number (← Program.context).pid.toNat
  | name => return .text (← Program.context).name
  | argumentCount => return .number (← Program.context).arguments.count.toNat
  | argumentPointers => return .number (← Program.context).arguments.pointers.toNat
  | stackPointer => return .number (← Program.context).stackPointer.toNat
  | textArguments => return .texts (← Program.observe Context.textArguments)
  | rawArguments => return .byteStrings (← Program.observe Context.rawArguments)
  | shape => return .shape (← Program.context).space
  | memory => return .memory (← Program.context).space.occupied
  | describe => return .text (← Program.context).describe
  | syscall number a0 a1 a2 a3 =>
      attempt ⟨wordOf (number.eval readings), intOf (a0.eval readings), intOf (a1.eval readings),
        intOf (a2.eval readings), intOf (a3.eval readings)⟩
  | pushBytes data => address (Program.pushBytes data)
  | pushString text => address (Program.pushString text)
  | pushInt value => address (Program.pushInt (intOf (value.eval readings)))
  | pushPointers values =>
      address (Program.pushPointers (values.map fun value => wordOf (value.eval readings)))
  | pushArguments texts => address (Program.pushArguments texts)
  | print text => return .number (← Program.print text).toInt
  | readBytes start length => do
      let count := (length.eval readings % UInt64.size).toNat
      if count ≤ Limits.maxBlock then
        return .bytes (← Program.observe (·.readBytes (wordOf (start.eval readings)) count))
      else .crash
  | writeBytes start data => Program.change fun context =>
      (context.writeBytes (wordOf (start.eval readings)) data).map fun changed =>
        (.number 0, changed)
  | poke start data => Program.change fun context =>
      let (count, space) := context.space.write (wordOf (start.eval readings)) data
      .ok (.number count, { context with space := space })
  | readInt start => return .number (← Program.readInt (wordOf (start.eval readings))).toInt
  | writeInt start value => Program.change fun context =>
      (context.writeInt (wordOf (start.eval readings)) (intOf (value.eval readings))).map
        fun changed => (.number 0, changed)
  | readString start =>
      return .bytes (← Program.observe (·.readString (wordOf (start.eval readings))))
  | restore pointer => do
      Program.restoreStack (wordOf (pointer.eval readings))
      return .number 0
  | gate => .gate (.done (.number 0))

def runFrom (readings : List Reading) : List Instruction → Program Int32
  | [] => .done 0
  | .give value :: _ => .done (intOf (value.eval readings))
  | .crash :: _ => .crash
  | .act action caught :: rest => do
      match ← (action.run readings).catchTrap with
      | .ok reading => .note reading (runFrom (readings ++ [reading]) rest)
      | .error cause =>
          .note (.trap cause)
            (if caught then runFrom (readings ++ [.trap cause]) rest else .fault cause)

def program (instructions : List Instruction) : Program Int32 :=
  runFrom [] instructions

end Minikernel.Script
