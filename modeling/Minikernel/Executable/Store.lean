import Minikernel.Executable.Registry
import Minikernel.Files

/-!
Where executable images are looked up: layers that are asked in turn, each either a set of
images in memory or a directory. A directory gives only its own files, never one below or
beside it.
-/

namespace Minikernel

inductive Layer where
  | memory (images : Registry Bytes)
  | directory (root : String) (reader : FileReader)

def Layer.path? (root name : String) : Option String :=
  (Files.plainName? name).map (Files.join root)

/-- The bytes of a named image; a file that cannot be read is as good as missing. -/
def Layer.find? (name : String) : Layer → Option Bytes
  | .memory images => images.find? name
  | .directory root reader => (path? root name).bind fun path => (reader path).toOption

structure Store where
  layers : List Layer

namespace Store

def empty : Store := ⟨[]⟩

def find? (store : Store) (name : String) : Option Bytes :=
  store.layers.findSome? (Layer.find? name)

def insertAt (store : Store) (index : Nat) (name : String) (image : Bytes) : Store :=
  ⟨store.layers.modify index fun layer =>
    match layer with
    | .memory images => .memory (images.insert name image)
    | .directory .. => layer⟩

def eraseAt (store : Store) (index : Nat) (name : String) : Store :=
  ⟨store.layers.modify index fun layer =>
    match layer with
    | .memory images => .memory (images.erase name)
    | .directory .. => layer⟩

def imagesAt? (store : Store) (index : Nat) : Option (Registry Bytes) :=
  match store.layers[index]? with
  | some (.memory images) => some images
  | _ => none

end Store

end Minikernel
