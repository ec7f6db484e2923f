import Minikernel.Files
import Minikernel.Json.Inspection
import Minikernel.Json.Reading
import Minikernel.Json.Record
import Minikernel.Limits
import Minikernel.Text.Blank
import Minikernel.Text.Decimal
import Minikernel.Text.Quoted
import Minikernel.Text.Utf8

/-!
The configuration of a kernel. It starts from given values, or from the file that
`KERNEL_CONFIG` names; each other variable that is set replaces one value. The variables
accept positive numbers only; the file may also hold zeros.
-/

namespace Minikernel

structure Config where
  physicalPages : UInt64
  stackPages : UInt64
  maxProcesses : UInt64
  imageDirectory : Option String
  consoleEcho : Bool
deriving DecidableEq

inductive ConfigError where
  | unreadable (path : String) (cause : ReadError)
  | unparsable (path : String) (fault : Json.Fault)
  | invalidValue (key value : String)
deriving DecidableEq

namespace ConfigError

def message : ConfigError → String
  | unreadable path cause => s!"Failed to read config file {path}: {cause.message}"
  | unparsable path fault => s!"Failed to parse config file {path}: {fault.message}"
  | invalidValue key value => s!"Invalid value for {key}: {Text.quoted value}"

def code : ConfigError → String
  | unreadable .. => "config::io"
  | unparsable .. => "config::parse"
  | invalidValue .. => "config::invalid_value"

def help : ConfigError → Option String
  | unparsable .. => some "The config file must be a JSON object."
  | unreadable .. | invalidValue .. => none

end ConfigError

namespace Config

def default : Config :=
  ⟨UInt64.ofNat Limits.defaultPhysicalPages, UInt64.ofNat Limits.defaultStackPages,
    UInt64.ofNat Limits.defaultMaxProcesses, none, false⟩

def fieldNames : List String :=
  ["phys_pages", "stack_pages", "max_processes", "image_dir", "console_echo"]

def toJson (config : Config) : Json.Value :=
  .record [
    ("phys_pages", .natural config.physicalPages.toNat),
    ("stack_pages", .natural config.stackPages.toNat),
    ("max_processes", .natural config.maxProcesses.toNat),
    ("image_dir", .ofOption .string config.imageDirectory),
    ("console_echo", .bool config.consoleEcho)]

def ofJson? (value : Json.Value) : Option Config := do
  let record ← Json.Record.ofValue? fieldNames value
  return {
    physicalPages := ← record.defaulted? "phys_pages" default.physicalPages Json.Value.uint64?
    stackPages := ← record.defaulted? "stack_pages" default.stackPages Json.Value.uint64?
    maxProcesses := ← record.defaulted? "max_processes" default.maxProcesses Json.Value.uint64?
    imageDirectory := ← record.defaulted? "image_dir" default.imageDirectory
      (Json.Value.nullable? Json.Value.string?)
    consoleEcho := ← record.defaulted? "console_echo" default.consoleEcho Json.Value.bool? }

def inspection : Json.Inspection Unit :=
  .record "struct KernelConfig" [
    ("phys_pages", .natural "usize"),
    ("stack_pages", .natural "usize"),
    ("max_processes", .natural "usize"),
    ("image_dir", .nullableText "path string"),
    ("console_echo", .bool "a boolean")]

def ofFile (reader : FileReader) (path : String) : Except ConfigError Config := do
  let bytes ← (reader path).mapError (ConfigError.unreadable path)
  match Text.Utf8.decode? bytes with
  | none => throw (.unreadable path .notText)
  | some text =>
      match (Json.read? text).bind ofJson? with
      | some config => return config
      | none => throw (.unparsable path (inspection.fault bytes))

/-- The number of a variable: positive, of 64 bits, with blanks around it. -/
def positive (key value : String) : Except ConfigError UInt64 :=
  match Text.Decimal.unsigned? UInt64.size (Text.trimBlanks value.toList) with
  | some number =>
      if 0 < number then .ok (UInt64.ofNat number) else .error (.invalidValue key value)
  | none => .error (.invalidValue key value)

def numberOr (environment : String → Option String) (key : String) (current : UInt64) :
    Except ConfigError UInt64 :=
  match environment key with
  | some value => positive key value
  | none => .ok current

/-- Whether a value says yes: `1`, or `true` in letters of either case. -/
def isTruth (value : String) : Bool :=
  value = "1" || String.ofList (value.toList.map Char.toLower) = "true"

/-- The configuration that variables describe. `base` counts where no file is named. -/
def ofVariables (reader : FileReader) (base : Config) (environment : String → Option String) :
    Except ConfigError Config := do
  let start ← match environment "KERNEL_CONFIG" with
    | some path => ofFile reader path
    | none => .ok base
  let physicalPages ← numberOr environment "KERNEL_PHYS_PAGES" start.physicalPages
  let stackPages ← numberOr environment "KERNEL_STACK_PAGES" start.stackPages
  let maxProcesses ← numberOr environment "KERNEL_MAX_PROCESSES" start.maxProcesses
  return {
    physicalPages := physicalPages
    stackPages := stackPages
    maxProcesses := maxProcesses
    imageDirectory := (environment "KERNEL_IMAGE_DIR").or start.imageDirectory
    consoleEcho := (environment "KERNEL_CONSOLE_ECHO").elim start.consoleEcho isTruth }

def describeBool : Bool → String
  | true => "true"
  | false => "false"

def describe (config : Config) : String :=
  let directory := match config.imageDirectory with
    | some path => s!"Some({Text.quoted path})"
    | none => "None"
  s!"KernelConfig \x7b phys_pages: {config.physicalPages}, stack_pages: {config.stackPages}, " ++
    s!"max_processes: {config.maxProcesses}, image_dir: {directory}, " ++
    s!"console_echo: {describeBool config.consoleEcho} \x7d"

end Config

end Minikernel
