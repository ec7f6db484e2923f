import Minikernel.CommandLine

/-!
The program: reads the variables and files that a run can ask for, and shows its result.
-/

open Minikernel

def variableNames : List String :=
  ["KERNEL_CONFIG", "KERNEL_PHYS_PAGES", "KERNEL_STACK_PAGES", "KERNEL_MAX_PROCESSES",
    "KERNEL_IMAGE_DIR", "KERNEL_CONSOLE_ECHO"]

def readHostFile (path : String) : IO (Except ReadError Bytes) := do
  if let some fault := Files.pathFault? path then return .error fault
  try
    let bytes ← IO.FS.readBinFile path
    return .ok bytes.data.toList
  catch error =>
    match error with
    | .inappropriateType _ number _ =>
        return .error (if number = 21 then .isDirectory else .notDirectory)
    | .invalidArgument _ number _ =>
        return .error (if number = 36 then .nameTooLong else .notFound)
    | _ => return .error .notFound

def readHostFiles (paths : List String) : IO FileReader := do
  let files ← paths.mapM fun path => return (path, ← readHostFile path)
  return fun path =>
    match files.find? fun file => file.1 = path with
    | some file => file.2
    | none => .error .notFound

def imagePaths (config : Config) (words : List String) : List String :=
  match config.imageDirectory with
  | none => []
  | some root =>
      (words.head?.getD CommandLine.defaultProgram :: Builtin.startedNames).filterMap
        (Layer.path? root)

def main (words : List String) : IO UInt32 := do
  let settings ← variableNames.mapM fun name => return (name, ← IO.getEnv name)
  let environment (name : String) : Option String :=
    (settings.find? fun setting => setting.1 = name).bind Prod.snd
  let configPaths := (environment "KERNEL_CONFIG").toList
  let images ←
    match CommandLine.configOf (← readHostFiles configPaths) environment with
    | .ok config => pure (imagePaths config words)
    | .error _ => pure []
  let reader ← readHostFiles (configPaths ++ images)
  let result := CommandLine.run reader environment words
  (← IO.getStdout).write result.output.toByteArray
  IO.eprint result.errors
  return result.code.toUInt32
