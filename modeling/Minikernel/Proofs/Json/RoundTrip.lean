import Minikernel.Json.Reading
import Minikernel.Proofs.Json.Spelling

/-!
A value is read back from its text. Writing goes over the value once, reading twice: the text is
cut into tokens, and the tokens are put together again. Both halves follow the value; each is
stated with whatever comes after the value left open, so that it can be used for the parts of an
array or an object.
-/

namespace Minikernel.Json

open Token (Ends Fits)

mutual

def Value.tokens : Value → List Token
  | .null => [.null]
  | .bool value => [.bool value]
  | .integer number => [.integer number]
  | .decimal spelling => [.decimal spelling]
  | .text text => [.text text]
  | .array [] => [.openArray, .closeArray]
  | .array (item :: items) => .openArray :: (item.tokens ++ itemTokens items)
  | .object [] => [.openObject, .closeObject]
  | .object ((name, value) :: members) =>
      .openObject :: .text name :: .colon :: (value.tokens ++ memberTokens members)

def itemTokens : List Value → List Token
  | [] => [.closeArray]
  | item :: items => .comma :: (item.tokens ++ itemTokens items)

def memberTokens : List (Text × Value) → List Token
  | [] => [.closeObject]
  | (name, value) :: members =>
      .comma :: .text name :: .colon :: (value.tokens ++ memberTokens members)

end

/-- Values without the two things that are kept as spelled: every number is an integer of 64 bits
and every string is text. -/
inductive Value.Plain : Value → Prop where
  | null : Plain .null
  | bool (value : Bool) : Plain (.bool value)
  | integer {number : Int} (fits : Fits number) : Plain (.integer number)
  | text (content : String) : Plain (.string content)
  | array {items : List Value} (each : ∀ item ∈ items, Plain item) : Plain (.array items)
  | object {members : List (Text × Value)}
      (named : ∀ member ∈ members, ∃ name, member.1 = .plain name)
      (each : ∀ member ∈ members, Plain member.2) : Plain (.object members)

/-- A text is cut into tokens when these and no others are read off it before what follows. -/
structure Cut (text : List Char) (tokens : List Token) (rest : List Char) : Prop where
  shorter : tokens.length ≤ text.length
  read : ∀ before bound, Token.readAll? before (tokens.length + bound) (text ++ rest) =
    Token.readAll? (tokens.reverse ++ before) bound rest

namespace Cut

variable {text first second rest : List Char} {token : Token} {tokens others : List Token}

theorem single (nonempty : text ≠ []) (read : Token.read? (text ++ rest) = some (token, rest)) :
    Cut text [token] rest where
  shorter := List.length_pos_iff.mpr nonempty
  read before bound := by
    obtain ⟨character, others, rfl⟩ := List.exists_cons_of_ne_nil nonempty
    have starts : (character :: others ++ rest).dropWhile Token.isBlank =
        character :: others ++ rest :=
      List.dropWhile_cons_of_neg (by simp [Token.isBlank_of_read? read])
    rw [List.length_singleton, Nat.add_comm, Token.readAll?, starts]
    simp only [List.cons_append] at read ⊢
    rw [read]
    rfl

theorem append (cut : Cut first tokens (second ++ rest)) (later : Cut second others rest) :
    Cut (first ++ second) (tokens ++ others) rest where
  shorter := by
    have one := cut.shorter
    have two := later.shorter
    rw [List.length_append, List.length_append]
    omega
  read before bound := by
    rw [List.length_append, Nat.add_assoc, List.append_assoc, cut.read, later.read,
      List.reverse_append, List.append_assoc]

theorem mark (nonempty : text ≠ []) (read : ∀ rest, Token.read? (text ++ rest) = some (token, rest))
    (later : Cut second others rest) : Cut (text ++ second) (token :: others) rest :=
  (single nonempty (read _)).append later

end Cut

section Writing

variable {rest : List Char}

theorem ends_itemPieces (items : List Value) (rest : List Char) :
    Ends ((String.join (itemPieces items)).toList ++ rest) := by
  cases items with
  | nil => exact .closeArray
  | cons item items =>
      rw [itemPieces, String.join_cons, String.toList_append]
      exact .comma

theorem ends_memberPieces (members : List (Text × Value)) (rest : List Char) :
    Ends ((String.join (memberPieces members)).toList ++ rest) := by
  cases members with
  | nil => exact .closeObject
  | cons member members =>
      rw [memberPieces, String.join_cons, String.toList_append]
      exact .comma

theorem cut_itemPieces {items : List Value}
    (each : ∀ item ∈ items, ∀ {rest}, Ends rest → Cut item.write.toList item.tokens rest) :
    Cut (String.join (itemPieces items)).toList (itemTokens items) rest := by
  induction items with
  | nil => exact Cut.single nofun rfl
  | cons item items ih =>
      have first := each item (.head _) (ends_itemPieces items rest)
      have later := ih fun other member => each other (.tail _ member)
      simp only [itemPieces, String.join_cons, String.join_append, String.toList_append]
      exact Cut.mark nofun (fun _ => rfl) (first.append later)

theorem cut_member {name : String} {value : Value} {text : List Char} {others : List Token}
    (held : Cut value.write.toList value.tokens (text ++ rest)) (later : Cut text others rest) :
    Cut ((Text.plain name).write.toList ++ (":".toList ++ (value.write.toList ++ text)))
      (.text (.plain name) :: .colon :: (value.tokens ++ others)) rest :=
  Cut.mark (Token.toList_write_ne_nil name) (Token.read?_text name)
    (Cut.mark nofun (fun _ => rfl) (held.append later))

theorem cut_memberPieces {members : List (Text × Value)}
    (named : ∀ member ∈ members, ∃ name, member.1 = .plain name)
    (each : ∀ member ∈ members, ∀ {rest}, Ends rest →
      Cut member.2.write.toList member.2.tokens rest) :
    Cut (String.join (memberPieces members)).toList (memberTokens members) rest := by
  induction members with
  | nil => exact Cut.single nofun rfl
  | cons member members ih =>
      obtain ⟨text, value⟩ := member
      obtain ⟨name, rfl⟩ := named _ (.head _)
      have first := each _ (.head _) (ends_memberPieces members rest)
      have later := ih (fun other member => named other (.tail _ member))
        fun other member => each other (.tail _ member)
      simp only [memberPieces, String.join_cons, String.join_append, String.toList_append]
      exact Cut.mark nofun (fun _ => rfl) (cut_member first later)

theorem Value.Plain.cut {value : Value} (plain : value.Plain) :
    ∀ {rest}, Ends rest → Cut value.write.toList value.tokens rest := by
  induction plain with
  | null => exact fun _ => Cut.single nofun rfl
  | bool value => cases value <;> exact fun _ => Cut.single nofun rfl
  | @integer number fits =>
      intro rest ends
      rw [Value.write, Value.pieces, String.join_cons, String.join_nil, String.append_empty]
      exact Cut.single (Token.toList_toString_ne_nil number) (Token.read?_integer fits ends)
  | text content =>
      intro rest _
      rw [Value.write, Value.string, Value.pieces, String.join_cons, String.join_nil,
        String.append_empty]
      exact Cut.single (Token.toList_write_ne_nil content) (Token.read?_text content rest)
  | @array items each ih =>
      intro rest _
      cases items with
      | nil =>
          have spelled : (Value.array []).write.toList = ['['] ++ [']'] := rfl
          rw [spelled]
          exact Cut.mark nofun (fun _ => rfl) (Cut.single nofun rfl)
      | cons item items =>
          have first := ih item (.head _) (ends_itemPieces items rest)
          have later := @cut_itemPieces rest items fun other member => ih other (.tail _ member)
          simp only [Value.write, Value.pieces, String.join_cons, String.join_append,
            String.toList_append]
          exact Cut.mark nofun (fun _ => rfl) (first.append later)
  | @object members named each ih =>
      intro rest _
      cases members with
      | nil =>
          have spelled : (Value.object []).write.toList = ['\x7b'] ++ ['\x7d'] := rfl
          rw [spelled]
          exact Cut.mark nofun (fun _ => rfl) (Cut.single nofun rfl)
      | cons member members =>
          obtain ⟨text, value⟩ := member
          obtain ⟨name, rfl⟩ := named _ (.head _)
          have first := ih _ (.head _) (ends_memberPieces members rest)
          have later := @cut_memberPieces rest members
            (fun other member => named other (.tail _ member))
            fun other member => ih other (.tail _ member)
          simp only [Value.write, Value.pieces, String.join_cons, String.join_append,
            String.toList_append]
          exact Cut.mark nofun (fun _ => rfl) (cut_member first later)

end Writing

section Parsing

def Spells (tokens : List Token) (value : Value) : Prop :=
  ∀ {bound rest}, tokens.length ≤ bound → value? bound (tokens ++ rest) = some (value, rest)

theorem tokens_eq (value : Value) : ∃ first others, value.tokens = first :: others ∧
    first ≠ .closeArray := by
  cases value with
  | array items => cases items <;> exact ⟨_, _, rfl, nofun⟩
  | object members => cases members <;> exact ⟨_, _, rfl, nofun⟩
  | _ => exact ⟨_, _, rfl, nofun⟩

theorem length_tokens_pos (value : Value) : 0 < value.tokens.length := by
  obtain ⟨first, others, same, -⟩ := tokens_eq value
  rw [same]
  exact Nat.succ_pos _

theorem length_itemTokens_pos (items : List Value) : 0 < (itemTokens items).length := by
  cases items <;> exact Nat.succ_pos _

theorem length_memberTokens_pos (members : List (Text × Value)) :
    0 < (memberTokens members).length := by
  cases members <;> exact Nat.succ_pos _

-- One item uses up one of the bound, and has at least one token: a bound by the tokens is enough.
theorem items?_tokens {item : Value} {items : List Value}
    (each : ∀ other ∈ item :: items, Spells other.tokens other) (before : List Value) {bound : Nat}
    {rest : List Token} (enough : (item.tokens ++ itemTokens items).length ≤ bound + 1) :
    items? (bound + 1) before (item.tokens ++ itemTokens items ++ rest) =
      some (.array (before.reverse ++ item :: items), rest) := by
  induction items generalizing item before bound with
  | nil =>
      rw [itemTokens, List.length_append, List.length_singleton] at enough
      have read := @each item (.head _) bound (.closeArray :: rest) (by omega)
      rw [itemTokens, List.append_assoc, List.singleton_append, items?, read]
      dsimp only
      rw [List.reverse_cons]
  | cons next items ih =>
      have positive := length_itemTokens_pos items
      rw [itemTokens, List.length_append, List.length_cons] at enough
      rw [List.length_append] at enough
      obtain ⟨bound, rfl⟩ := Nat.exists_eq_add_one.mpr (show 0 < bound by omega)
      have read := @each item (.head _) (bound + 1)
        (.comma :: (next.tokens ++ itemTokens items ++ rest)) (by omega)
      have later := @ih next (fun other member => each other (.tail _ member)) (item :: before)
        bound (by rw [List.length_append]; omega)
      rw [itemTokens, List.append_assoc, List.cons_append, items?, read]
      dsimp only
      rw [later, List.reverse_cons, List.append_assoc, List.singleton_append]

theorem members?_tokens {name : Text} {value : Value} {members : List (Text × Value)}
    (each : ∀ other ∈ (name, value) :: members, Spells other.2.tokens other.2)
    (before : List (Text × Value)) {bound : Nat} {rest : List Token}
    (enough : (value.tokens ++ memberTokens members).length ≤ bound + 1) :
    members? (bound + 1) before
        (.text name :: .colon :: (value.tokens ++ memberTokens members ++ rest)) =
      some (.object (before.reverse ++ (name, value) :: members), rest) := by
  induction members generalizing name value before bound with
  | nil =>
      rw [memberTokens, List.length_append, List.length_singleton] at enough
      have read : value? bound (value.tokens ++ .closeObject :: rest) =
          some (value, .closeObject :: rest) := each _ (.head _) (Nat.le_of_succ_le_succ enough)
      rw [memberTokens, List.append_assoc, List.singleton_append, members?, read]
      dsimp only
      rw [List.reverse_cons]
  | cons next members ih =>
      obtain ⟨nextName, nextValue⟩ := next
      have positive := length_memberTokens_pos members
      rw [memberTokens, List.length_append, List.length_cons, List.length_cons, List.length_cons]
        at enough
      rw [List.length_append] at enough
      obtain ⟨bound, rfl⟩ := Nat.exists_eq_add_one.mpr (show 0 < bound by omega)
      have first : Spells value.tokens value := each _ (.head _)
      have read := @first (bound + 1) (.comma :: .text nextName :: .colon ::
        (nextValue.tokens ++ memberTokens members ++ rest)) (by omega)
      have later := @ih nextName nextValue (fun other member => each other (.tail _ member))
        ((name, value) :: before) bound (by rw [List.length_append]; omega)
      rw [memberTokens, List.append_assoc, List.cons_append, List.cons_append, List.cons_append,
        members?, read]
      dsimp only
      rw [later, List.reverse_cons, List.append_assoc, List.singleton_append]

theorem spells_of_succ {value : Value}
    (read : ∀ {bound rest}, value.tokens.length ≤ bound + 1 →
      value? (bound + 1) (value.tokens ++ rest) = some (value, rest)) :
    Spells value.tokens value := by
  intro bound rest enough
  have positive := length_tokens_pos value
  obtain ⟨bound, rfl⟩ := Nat.exists_eq_add_one.mpr (show 0 < bound by omega)
  exact read enough

theorem value?_openArray {first : Token} (opens : first ≠ .closeArray) (bound : Nat)
    (others : List Token) :
    value? (bound + 1) (.openArray :: first :: others) = items? bound [] (first :: others) := by
  cases first <;> first | rfl | exact absurd rfl opens

theorem Value.Plain.spells {value : Value} (plain : value.Plain) :
    Spells value.tokens value := by
  induction plain with
  | null | bool | integer | text => exact spells_of_succ fun _ => rfl
  | @array items each ih =>
      refine spells_of_succ fun {bound rest} enough => ?_
      cases items with
      | nil => rfl
      | cons item items =>
          have inner : (item.tokens ++ itemTokens items).length ≤ bound :=
            Nat.le_of_succ_le_succ enough
          obtain ⟨first, others, same, opens⟩ := tokens_eq item
          rw [same, List.cons_append, List.length_cons] at inner
          obtain ⟨bound, rfl⟩ := Nat.exists_eq_add_one.mpr (show 0 < bound by omega)
          have read := @items?_tokens item items ih [] bound rest (by rw [same]; exact inner)
          rw [Value.tokens, List.cons_append, same, List.cons_append, List.cons_append,
            value?_openArray opens]
          rw [same] at read
          exact read
  | @object members named each ih =>
      refine spells_of_succ fun {bound rest} enough => ?_
      cases members with
      | nil => rfl
      | cons member members =>
          obtain ⟨name, value⟩ := member
          have inner : (value.tokens ++ memberTokens members).length + 3 ≤ bound + 1 := enough
          obtain ⟨bound, rfl⟩ := Nat.exists_eq_add_one.mpr (show 0 < bound by omega)
          exact @members?_tokens name value members ih [] bound rest (by omega)

end Parsing

theorem readAll?_nil (before : List Token) (bound : Nat) :
    Token.readAll? before bound [] = some before.reverse := by
  cases bound <;> rfl

theorem read?_write {value : Value} (plain : value.Plain) : read? value.write = some value := by
  have cut := plain.cut .done
  have tokens : tokens? value.write.toList = some value.tokens := by
    have all := cut.read [] (value.write.toList.length - value.tokens.length)
    rw [Nat.add_sub_of_le cut.shorter, List.append_nil, List.append_nil] at all
    rw [tokens?, all, readAll?_nil, List.reverse_reverse]
  have parsed : value? (value.tokens.length + 1) value.tokens = some (value, []) := by
    have spelled := @Value.Plain.spells value plain (value.tokens.length + 1) [] (by omega)
    rwa [List.append_nil] at spelled
  rw [read?, tokens, Option.bind_eq_bind, Option.bind_some, parsed]

end Minikernel.Json
