import Mathlib.Tactic.SplitIfs
import Mathlib.Logic.Basic
import Minikernel.Files

/-!
Where paths lead. The components of a path are told by its pieces, and a path that comes to a
single plain name leads from a directory to a place right in it. Reading follows the same way, so
the bytes that it gives are those of the file at the place of the path.
-/

namespace Minikernel

section Pieces

variable {separator : Char} {text piece : List Char}

theorem pieces_eq_splitOn (separator : Char) (text : List Char) :
    pieces separator text = text.splitOn separator := by
  induction text with
  | nil => rfl
  | cons character rest ih =>
      obtain ⟨first, others, split⟩ :=
        List.exists_cons_of_ne_nil (List.splitOn_ne_nil separator rest)
      rw [pieces, ih, List.splitOn_cons_eq_if_modifyHead, split]
      simp only [beq_iff_eq, List.modifyHead_cons]

theorem not_mem_of_mem_splitOn (member : piece ∈ text.splitOn separator) : separator ∉ piece := by
  induction text generalizing piece with
  | nil => simp_all
  | cons character rest ih =>
      obtain ⟨first, others, split⟩ :=
        List.exists_cons_of_ne_nil (List.splitOn_ne_nil separator rest)
      rw [List.splitOn_cons_eq_if_modifyHead, split] at member
      rw [split] at ih
      by_cases same : character = separator
      · rw [if_pos (beq_iff_eq.mpr same)] at member
        rcases List.mem_cons.mp member with rfl | later
        · exact List.not_mem_nil
        · exact ih later
      · rw [if_neg (mt beq_iff_eq.mp same), List.modifyHead_cons] at member
        rcases List.mem_cons.mp member with rfl | later
        · have clean : separator ∉ first := ih List.mem_cons_self
          simp [clean, Ne.symm same]
        · exact ih (List.mem_cons_of_mem first later)

end Pieces

namespace Files

variable {path name file root : String} {first : String} {others : List String}

structure IsPlainName (file : String) : Prop where
  whole : '/' ∉ file.toList
  proper : file ∉ ["", ".", ".."]

/-- The first piece of a path is a name, not a dot or two, and every later piece is empty or a
dot. -/
def ComesTo (path file : String) : Prop :=
  ∃ others, (path.toList.splitOn '/').map String.ofList = file :: others ∧
    file ∉ ["", ".", ".."] ∧ ∀ piece ∈ others, piece = "" ∨ piece = "."

theorem pathPieces_eq (path : String) :
    pathPieces path = (path.toList.splitOn '/').map String.ofList := by
  rw [pathPieces, pieces_eq_splitOn]

theorem ComesTo.isPlainName (comes : ComesTo path file) : IsPlainName file := by
  obtain ⟨others, split, proper, -⟩ := comes
  have member : file ∈ (path.toList.splitOn '/').map String.ofList := by simp [split]
  obtain ⟨piece, held, rfl⟩ := List.mem_map.mp member
  refine ⟨?_, proper⟩
  rw [String.toList_ofList]
  exact not_mem_of_mem_splitOn held

theorem IsPlainName.pathPieces (plain : IsPlainName file) : pathPieces file = [file] := by
  rw [pathPieces_eq, List.splitOn_eq_singleton plain.whole, List.map_singleton,
    String.ofList_toList]

theorem IsPlainName.comesTo (plain : IsPlainName file) : ComesTo file file :=
  ⟨[], by rw [← pathPieces_eq, plain.pathPieces], plain.proper, by simp⟩

theorem plainName?_eq_some_iff_components :
    plainName? path = some file ↔ components path = [.normal file] := by
  unfold plainName?
  split
  · next found => simp [found]
  · next other =>
      simp only [reduceCtorEq, false_iff]
      exact other file

theorem ofPieces_eq_nil_iff :
    others.filterMap Component.ofPiece? = [] ↔ ∀ piece ∈ others, piece = "" ∨ piece = "." := by
  rw [List.filterMap_eq_nil_iff]
  refine forall₂_congr fun piece _ => ?_
  unfold Component.ofPiece?
  split_ifs with silent <;> simp [silent]

theorem ofPieces_eq_normal_iff (speaks : first ∉ ["", "."]) :
    (first :: others).filterMap Component.ofPiece? = [.normal file] ↔
      first = file ∧ first ≠ ".." ∧ ∀ piece ∈ others, piece = "" ∨ piece = "." := by
  have heard : ¬(first = "" ∨ first = ".") := by simpa using speaks
  by_cases up : first = ".."
  · simp [Component.ofPiece?, up]
  · have named : Component.ofPiece? first = some (.normal first) := by
      rw [Component.ofPiece?, if_neg heard, if_neg up]
    rw [List.filterMap_cons_some named, List.cons_eq_cons, Component.normal.injEq,
      ofPieces_eq_nil_iff]
    simp [up]

theorem pathPieces_cons_slash {rest : List Char} (text : path.toList = '/' :: rest) :
    pathPieces path = "" :: (pieces '/' rest).map String.ofList := by
  simp [pathPieces, text, pieces]

theorem pathPieces_cons {rest : List Char} {character : Char}
    (text : path.toList = character :: rest) (other : character ≠ '/') :
    ∃ first others, pathPieces path = first :: others ∧ first ≠ "" := by
  rw [pathPieces, text, pieces, if_neg other]
  split
  · exact ⟨_, _, rfl, by simp⟩
  · exact ⟨_, _, rfl, by simp⟩

theorem components_of_relative (relative : path.toList.head? ≠ some '/')
    (split : pathPieces path = first :: others) (named : first ≠ ".") :
    components path = (first :: others).filterMap Component.ofPiece? := by
  simp [components, relative, split, named]

theorem components_eq_normal_iff : components path = [.normal file] ↔ ComesTo path file := by
  unfold ComesTo
  rw [← pathPieces_eq]
  cases text : path.toList with
  | nil =>
      have empty : pathPieces path = [""] := by simp [pathPieces, text, pieces]
      simp +contextual [components, text, empty, Component.ofPiece?]
  | cons character rest =>
      by_cases absolute : character = '/'
      · subst absolute
        simp +contextual [components, text, pathPieces_cons_slash text]
      · obtain ⟨first, others, split, filled⟩ := pathPieces_cons text absolute
        rw [split]
        by_cases here : first = "."
        · simp +contextual [components, text, absolute, split, here]
        · have relative : path.toList.head? ≠ some '/' := by simp [text, absolute]
          have speaks : first ∉ ["", "."] := by simp [filled, here]
          rw [components_of_relative relative split here, ofPieces_eq_normal_iff speaks]
          constructor
          · rintro ⟨rfl, up, silent⟩
            exact ⟨others, rfl, by simp [filled, here, up], silent⟩
          · rintro ⟨later, same, proper, silent⟩
            cases same
            exact ⟨rfl, by simp_all, silent⟩

theorem plainName?_eq_some_iff : plainName? path = some file ↔ ComesTo path file := by
  rw [plainName?_eq_some_iff_components, components_eq_normal_iff]

section Reading

variable {files : Files} {location : Location} {node next : Node} {bytes : Bytes}

def StandsAt (files : Files) (location : Location) : Node → Prop
  | .file bytes => files.nodeAt? location = some (.file bytes)
  | .directory place => place = location

theorem standsAt_of_nodeAt? (found : files.nodeAt? location = some node) :
    files.StandsAt location node := by
  cases node with
  | file bytes => exact found
  | directory place =>
      unfold nodeAt? at found
      split at found
      · cases found
      · split_ifs at found
        cases found
        rfl

theorem step_standsAt (stands : files.StandsAt location node)
    (stepped : files.step node name = .ok next) : files.StandsAt (location.step name) next := by
  cases node with
  | file bytes => cases stepped
  | directory place =>
      obtain rfl : place = location := stands
      simp only [step] at stepped
      split_ifs at stepped
      · cases stepped
        rfl
      · cases found : files.nodeAt? (place.step name) with
        | none =>
            rw [found] at stepped
            cases stepped
        | some there =>
            rw [found] at stepped
            cases stepped
            exact standsAt_of_nodeAt? found

theorem steps_standAt (names : List String) (stands : files.StandsAt location node)
    (stepped : names.foldlM files.step node = .ok next) :
    files.StandsAt (names.foldl Location.step location) next := by
  induction names generalizing location node with
  | nil =>
      cases stepped
      exact stands
  | cons name names ih =>
      rw [List.foldlM_cons] at stepped
      cases first : files.step node name with
      | error fault =>
          rw [first] at stepped
          cases stepped
      | ok found =>
          rw [first] at stepped
          exact ih (step_standsAt stands first) stepped

theorem find_standsAt (found : files.find path = .ok node) :
    files.StandsAt (Location.ofPath path) node := by
  unfold find at found
  split at found
  · cases found
  · have start : files.StandsAt (Location.startOf path) (.directory (Location.startOf path)) := rfl
    exact steps_standAt (pathPieces path) start found

theorem nodeAt?_of_read (given : files.read path = .ok bytes) :
    files.nodeAt? (Location.ofPath path) = some (.file bytes) := by
  unfold read at given
  cases found : files.find path with
  | error fault =>
      rw [found] at given
      cases given
  | ok node =>
      rw [found] at given
      have stands := find_standsAt found
      cases node with
      | file contents =>
          cases given
          exact stands
      | directory place => cases given

end Reading

end Files

section Joining

variable {root file : String}

theorem Files.pathPieces_append_slash (before after : String) :
    pathPieces (before ++ "/" ++ after) = pathPieces before ++ pathPieces after := by
  rw [pathPieces_eq, pathPieces_eq, pathPieces_eq, ← List.map_append,
    ← List.splitOn_append_cons_self]
  simp [String.toList_append]

namespace Location

theorem step_of_plain (plain : Files.IsPlainName file) (location : Location) :
    location.step file = location ++ [file] := by
  have proper := plain.proper
  simp only [List.mem_cons, List.not_mem_nil, or_false, not_or] at proper
  obtain ⟨filled, here, up⟩ := proper
  rw [step, if_neg (not_or.mpr ⟨filled, here⟩), if_neg up]

theorem startOf_append (filled : root ≠ "") (file : String) :
    startOf (root ++ file) = startOf root := by
  obtain ⟨first, rest, text⟩ := List.exists_cons_of_ne_nil (mt String.toList_eq_nil_iff.mp filled)
  simp [startOf, text]

theorem ofPath_append_slash (plain : Files.IsPlainName file) (filled : root ≠ "") :
    ofPath (root ++ "/" ++ file) = ofPath root ++ [file] := by
  rw [ofPath, ofPath, Files.pathPieces_append_slash, plain.pathPieces, List.foldl_append,
    String.append_assoc, startOf_append filled]
  exact step_of_plain plain _

theorem ofPath_append (plain : Files.IsPlainName file) (ending : root.toList.getLast? = some '/') :
    ofPath (root ++ file) = ofPath root ++ [file] := by
  obtain ⟨init, text⟩ := List.getLast?_eq_some_iff.mp ending
  have ends : root = String.ofList init ++ "/" ++ "" := String.toList_inj.mp (by simp [text])
  have filled : root ≠ "" := by
    rintro rfl
    simp at text
  have before : pathPieces root = pathPieces (String.ofList init) ++ [""] := by
    rw [ends, Files.pathPieces_append_slash]
    rfl
  have after : pathPieces (root ++ file) = pathPieces (String.ofList init) ++ [file] := by
    rw [ends, String.append_empty, Files.pathPieces_append_slash, plain.pathPieces]
  rw [ofPath, ofPath, before, after, List.foldl_append, List.foldl_append, startOf_append filled]
  exact step_of_plain plain _

theorem ofPath_plain (plain : Files.IsPlainName file) : ofPath file = [file] := by
  have relative : file.toList.head? ≠ some '/' := fun starts =>
    plain.whole (List.mem_of_head? starts)
  rw [ofPath, plain.pathPieces, startOf, if_neg relative]
  exact step_of_plain plain []

theorem ofPath_join (plain : Files.IsPlainName file) (root : String) :
    ofPath (Files.join root file) = ofPath root ++ [file] := by
  unfold Files.join
  split
  · next ending =>
    rcases ending with rfl | ending
    · rw [String.empty_append, ofPath_plain plain]
      rfl
    · exact ofPath_append plain ending
  · next other => exact ofPath_append_slash plain (not_or.mp other).1

end Location

end Joining

end Minikernel
