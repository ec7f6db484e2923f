import Minikernel.Json.Value

/-!
Records with named fields in JSON. A record is an object, in which fields of other names are
skipped, or an array that gives the fields in their order. An object that names a field twice
is no record; nor is an array with more items than there are fields.
-/

namespace Minikernel.Json

structure Record where
  positional : Bool
  fields : List (String × Value)

namespace Record

def known? (names : List String) : List (Text × Value) → Option (List (String × Value))
  | [] => some []
  | (.unpaired _, _) :: _ => none
  | (.plain name, value) :: rest =>
      match known? names rest with
      | none => none
      | some fields =>
          if name ∉ names then some fields
          else if fields.any fun field => field.1 = name then none
          else some ((name, value) :: fields)

def ofValue? (names : List String) : Value → Option Record
  | .array items => if items.length ≤ names.length then some ⟨true, names.zip items⟩ else none
  | .object members => (known? names members).map fun fields => ⟨false, fields⟩
  | _ => none

def find? (record : Record) (name : String) : Option Value :=
  (record.fields.find? fun field => field.1 = name).map Prod.snd

def required? (record : Record) (name : String) (decode : Value → Option α) : Option α :=
  (record.find? name).bind decode

def optional? (record : Record) (name : String) (decode : Value → Option α) :
    Option (Option α) :=
  match record.find? name with
  | some value => value.nullable? decode
  | none => if record.positional then none else some none

def defaulted? (record : Record) (name : String) (fallback : α) (decode : Value → Option α) :
    Option α :=
  match record.find? name with
  | some value => decode value
  | none => some fallback

end Record

end Minikernel.Json
