import Minikernel.Bytes

/-!
Files by their paths. `FileReader` is all that the kernel asks of a file system; `Files` is a
tree of files as seen from a working directory, with the reader that it gives. The directories
above the working directory and the root of the file system are always there; in them is found
only what the tree says.
-/

namespace Minikernel

def pieces (separator : Char) : List Char → List (List Char)
  | [] => [[]]
  | character :: rest =>
      if character = separator then [] :: pieces separator rest
      else
        match pieces separator rest with
        | [] => [[character]]
        | first :: others => (character :: first) :: others

def pathPieces (path : String) : List String :=
  (pieces '/' path.toList).map String.ofList

inductive ReadError where
  | notFound
  | notDirectory
  | isDirectory
  | nameTooLong
  | embeddedNul
  | notText
deriving DecidableEq

def ReadError.message : ReadError → String
  | notFound => "No such file or directory (os error 2)"
  | notDirectory => "Not a directory (os error 20)"
  | isDirectory => "Is a directory (os error 21)"
  | nameTooLong => "File name too long (os error 36)"
  | embeddedNul => "file name contained an unexpected NUL byte"
  | notText => "stream did not contain valid UTF-8"

abbrev FileReader := String → Except ReadError Bytes

/-- A place in a tree of files: the names on the way to it. The way starts in the working
directory, or with a `..` for each directory above that, or with a slash for the root. -/
abbrev Location := List String

namespace Location

def root : Location := ["/"]

def startOf (path : String) : Location :=
  if path.toList.head? = some '/' then root else []

def parent (location : Location) : Location :=
  if location = root then root
  else if location.all fun name => name = ".." then location ++ [".."]
  else location.dropLast

def step (location : Location) (name : String) : Location :=
  if name = "" ∨ name = "." then location
  else if name = ".." then parent location
  else location ++ [name]

def trail (location : Location) : List String → List Location
  | [] => [location]
  | name :: names => location :: trail (location.step name) names

def ofPath (path : String) : Location :=
  (pathPieces path).foldl step (startOf path)

end Location

structure Files where
  contents : List (Location × Bytes)
  directories : List Location

namespace Files

def empty : Files := ⟨[], []⟩

/-- The tree with the given files and directories, and those on the way to them. A file that
comes later replaces one at the same place. -/
def ofPaths (contents : List (String × Bytes)) (directories : List String) : Files :=
  ⟨contents.reverse.map fun file => (Location.ofPath file.1, file.2),
    contents.flatMap (fun file =>
      Location.trail (Location.startOf file.1) (pathPieces file.1).dropLast) ++
    directories.flatMap fun path => Location.trail (Location.startOf path) (pathPieces path)⟩

inductive Node where
  | file (contents : Bytes)
  | directory (location : Location)

def maxNameBytes : Nat := 255

def maxPathBytes : Nat := 4095

def pathFault? (path : String) : Option ReadError :=
  if path.toList.contains '\x00' then some .embeddedNul
  else if path = "" then some .notFound
  else if maxPathBytes < path.utf8ByteSize then some .nameTooLong
  else none

def nodeAt? (files : Files) (location : Location) : Option Node :=
  match files.contents.find? fun file => file.1 = location with
  | some file => some (.file file.2)
  | none => if location ∈ files.directories then some (.directory location) else none

def step (files : Files) (node : Node) (name : String) : Except ReadError Node :=
  match node with
  | .file _ => .error .notDirectory
  | .directory location =>
      if name ∈ ["", ".", ".."] then .ok (.directory (location.step name))
      else if maxNameBytes < name.utf8ByteSize then .error .nameTooLong
      else
        match files.nodeAt? (location.step name) with
        | some found => .ok found
        | none => .error .notFound

def find (files : Files) (path : String) : Except ReadError Node :=
  match pathFault? path with
  | some fault => .error fault
  | none => (pathPieces path).foldlM files.step (.directory (Location.startOf path))

def read (files : Files) : FileReader := fun path => do
  match ← files.find path with
  | .file contents => return contents
  | .directory _ => throw .isDirectory

inductive Component where
  | rootDirectory
  | currentDirectory
  | parentDirectory
  | normal (name : String)
deriving DecidableEq

def Component.ofPiece? (piece : String) : Option Component :=
  if piece = "" ∨ piece = "." then none
  else if piece = ".." then some .parentDirectory
  else some (.normal piece)

/-- The components of a path. A dot is one only at the start of the path. -/
def components (path : String) : List Component :=
  let start : List Component :=
    if path.toList.head? = some '/' then [.rootDirectory]
    else if (pathPieces path).head? = some "." then [.currentDirectory]
    else []
  start ++ (pathPieces path).filterMap Component.ofPiece?

def plainName? (path : String) : Option String :=
  match components path with
  | [.normal name] => some name
  | _ => none

def join (root name : String) : String :=
  if root = "" ∨ root.toList.getLast? = some '/' then root ++ name else root ++ "/" ++ name

end Files

end Minikernel
