/-!
Values under names, in the order in which the names were first bound. A name is bound at
most once: binding it again replaces its value in place.
-/

namespace Minikernel

structure Registry (α : Type) where
  entries : List (String × α)

namespace Registry

def empty : Registry α := ⟨[]⟩

def find? (registry : Registry α) (name : String) : Option α :=
  (registry.entries.find? fun entry => entry.1 = name).map Prod.snd

def contains (registry : Registry α) (name : String) : Bool :=
  registry.entries.any fun entry => entry.1 = name

def insert (registry : Registry α) (name : String) (value : α) : Registry α :=
  if registry.contains name then
    ⟨registry.entries.map fun entry => if entry.1 = name then (name, value) else entry⟩
  else ⟨registry.entries ++ [(name, value)]⟩

def erase (registry : Registry α) (name : String) : Registry α :=
  ⟨registry.entries.filter fun entry => entry.1 ≠ name⟩

def size (registry : Registry α) : Nat :=
  registry.entries.length

def names (registry : Registry α) : List String :=
  registry.entries.map Prod.fst

def ofList (entries : List (String × α)) : Registry α :=
  entries.foldl (fun registry entry => registry.insert entry.1 entry.2) empty

end Registry

end Minikernel
