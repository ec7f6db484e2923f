import Minikernel.Kernel.Machine
import Minikernel.User.Builtin

/-!
The command line: boots the named executable with the arguments after it, and exits with the
code of its status. Executables are looked up in the configured directory and then among the
programs that come with the kernel. Console output is shown unless that is switched off.
-/

namespace Minikernel.CommandLine

structure Result where
  code : UInt8
  output : Bytes
  errors : String
deriving DecidableEq

def defaultProgram : String := "exec_test.coff"

def causeLines (mark indent cause : String) : String :=
  mark ++ String.intercalate ("\n" ++ indent) ((pieces '\n' cause.toList).map String.ofList)

def numberedCauses (index : Nat) : List String → String
  | [] => ""
  | cause :: rest =>
      let number := toString index
      let mark := String.ofList (List.replicate (5 - number.length) ' ') ++ number ++ ": "
      "\n" ++ causeLines mark "       " cause ++ numberedCauses (index + 1) rest

/-- The report of a failure: what was under way, and the causes from the nearest on. They are
numbered if there is more than one. -/
def report (activity : String) (causes : List String) : String :=
  let shown := match causes with
    | [] => ""
    | [cause] => "\n\nCaused by:\n" ++ causeLines "    " "    " cause
    | _ => "\n\nCaused by:" ++ numberedCauses 0 causes
  "Error: " ++ activity ++ shown ++ "\n"

def configCauses (error : ConfigError) : List String :=
  error.message ::
    match error with
    | .unreadable _ cause => [cause.message]
    | .unparsable _ fault => [fault.message]
    | .invalidValue .. => []

def execCauses (error : ExecError) : List String :=
  error.message ::
    match error with
    | .load (.memory _ cause) => [cause.message]
    | .marshal (.memory cause) => [cause.message]
    | _ => []

def storeOf (reader : FileReader) (config : Config) : Store :=
  ⟨(config.imageDirectory.map fun root => Layer.directory root reader).toList ++
    [.memory Builtin.images]⟩

def configOf (reader : FileReader) (environment : String → Option String) :
    Except ConfigError Config :=
  Config.ofVariables reader { Config.default with consoleEcho := true } environment

def machineOf (reader : FileReader) (config : Config) : Machine :=
  ⟨Kernel.boot config ⟨storeOf reader config, Builtin.entries⟩ (.fresh config.consoleEcho), []⟩

def shown (machine : Machine) : Bytes :=
  if machine.kernel.console.echoes then machine.kernel.console.output else []

def run (reader : FileReader) (environment : String → Option String) (words : List String) :
    Result :=
  match configOf reader environment with
  | .error cause => ⟨1, [], report "loading kernel configuration" (configCauses cause)⟩
  | .ok config =>
      let program := words.head?.getD defaultProgram
      let arguments := words.tail.map Text.Utf8.encode
      match (machineOf reader config).boot program arguments with
      | .error (.load (.memory _ .overflow)) => ⟨101, [], MemoryError.overflow.message ++ "\n"⟩
      | .error cause => ⟨1, [], report s!"starting {program}" (execCauses cause)⟩
      | .ok (.stopped shutdown machine) =>
          ⟨(shutdown.status.elim 0 ExitStatus.code).toUInt32.toUInt8, shown machine, ""⟩
      | .ok (.waiting machine) => ⟨0, shown machine, ""⟩

end Minikernel.CommandLine
