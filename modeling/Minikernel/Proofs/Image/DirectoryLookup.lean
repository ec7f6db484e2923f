import Minikernel.Proofs.Image.Acceptance
import Minikernel.Proofs.Text.Paths

/-!
What a name can lead to in a directory of images. A name is taken if it comes to a single plain
name, and leads to the file of that name right in the directory: to none above it, beside it or
further below. With the suffix of executables a name has no second spelling, so a name with a slash
leads nowhere, and any other to a file that no other name leads to.
-/

namespace Minikernel

section Spelling

variable {name file : String}

theorem Files.ComesTo.ending (comes : ComesTo name file) (slash : '/' ∈ name.toList) :
    name.toList.getLast? = some '/' ∨ name.toList.getLast? = some '.' := by
  obtain ⟨others, split, -, silent⟩ := comes
  obtain ⟨after, before, backwards, whole⟩ :=
    List.eq_append_cons_of_mem (List.mem_reverse.mpr slash)
  have text : name.toList = before.reverse ++ '/' :: after.reverse := by
    rw [← List.reverse_reverse name.toList, backwards]
    simp
  have last : after.reverse.splitOn '/' = [after.reverse] :=
    List.splitOn_eq_singleton (by simpa using whole)
  obtain ⟨piece, pieces, start⟩ :=
    List.exists_cons_of_ne_nil (List.splitOn_ne_nil '/' before.reverse)
  rw [text, List.splitOn_append_cons_self, last, start, List.cons_append, List.map_cons] at split
  have later : String.ofList after.reverse ∈ others := by
    rw [← (List.cons_eq_cons.mp split).2]
    simp
  rcases silent _ later with nothing | dot
  · have empty : after.reverse = [] := String.ofList_eq_empty_iff.mp nothing
    left
    simp [text, empty]
  · have single : after.reverse = ['.'] := String.ofList_injective dot
    right
    simp [text, single]

theorem NamesExecutable.ending (named : NamesExecutable name) :
    name.toList.getLast? = some 'f' := by
  obtain ⟨stem, rfl⟩ := named.suffix
  simp

theorem NamesExecutable.isPlainName (named : NamesExecutable name) (whole : '/' ∉ name.toList) :
    Files.IsPlainName name := by
  have least := named.least
  refine ⟨whole, fun short => ?_⟩
  simp only [List.mem_cons, List.not_mem_nil, or_false] at short
  rcases short with rfl | rfl | rfl <;> revert least <;> decide

theorem NamesExecutable.comesTo_iff (named : NamesExecutable name) :
    Files.ComesTo name file ↔ '/' ∉ name.toList ∧ file = name := by
  constructor
  · intro comes
    have whole : '/' ∉ name.toList := fun slash => by
      have ending := comes.ending slash
      rw [named.ending] at ending
      revert ending
      decide
    obtain ⟨others, split, -⟩ := comes
    rw [List.splitOn_eq_singleton whole, List.map_singleton, String.ofList_toList] at split
    exact ⟨whole, (List.head_eq_of_cons_eq split).symm⟩
  · rintro ⟨whole, rfl⟩
    exact (named.isPlainName whole).comesTo

end Spelling

namespace Layer

variable {root name path : String} {reader other : FileReader} {files : Files} {bytes : Bytes}

theorem path?_eq_some_iff :
    path? root name = some path ↔
      ∃ file, Files.ComesTo name file ∧ path = Files.join root file := by
  simp only [path?, Option.map_eq_some_iff, Files.plainName?_eq_some_iff, @eq_comm _ path]

theorem path?_of_named (named : NamesExecutable name) :
    path? root name = if '/' ∈ name.toList then none else some (Files.join root name) := by
  ext path
  rw [path?_eq_some_iff]
  simp only [named.comesTo_iff]
  split_ifs with slash
  · simp [slash]
  · simp [slash, eq_comm]

theorem directory_find?_of_named (named : NamesExecutable name) :
    (directory root reader).find? name =
      if '/' ∈ name.toList then none else (reader (Files.join root name)).toOption := by
  simp only [find?, path?_of_named named]
  split_ifs <;> rfl

theorem nodeAt?_of_find? (found : (directory root files.read).find? name = some bytes) :
    ∃ file, Files.ComesTo name file ∧
      files.nodeAt? (Location.ofPath root ++ [file]) = some (.file bytes) := by
  obtain ⟨path, leads, given⟩ := Option.bind_eq_some_iff.mp found
  obtain ⟨file, comes, rfl⟩ := path?_eq_some_iff.mp leads
  refine ⟨file, comes, ?_⟩
  rw [← Location.ofPath_join comes.isPlainName]
  apply Files.nodeAt?_of_read
  cases read : files.read (Files.join root file) with
  | error fault =>
      rw [read] at given
      cases given
  | ok contents =>
      rw [read] at given
      cases given
      rfl

def withReader (reader : FileReader) : Layer → Layer
  | memory images => memory images
  | directory root _ => directory root reader

end Layer

namespace Loader

variable {Routine : Type} {loader : Loader Routine} {name otherName path : String}
  {reader other : FileReader}

def withReader (reader : FileReader) (loader : Loader Routine) : Loader Routine :=
  { loader with store := ⟨loader.store.layers.map (Layer.withReader reader)⟩ }

/-- A load of a name may read the file that a path leads to. -/
structure Opens (loader : Loader Routine) (name path : String) : Prop where
  valid : isValidName name = true
  held : ∃ root reader, .directory root reader ∈ loader.store.layers ∧
    Layer.path? root name = some path

theorem opens_iff :
    loader.Opens name path ↔
      NamesExecutable name ∧ '/' ∉ name.toList ∧
        ∃ root reader, .directory root reader ∈ loader.store.layers ∧
          path = Files.join root name := by
  constructor
  · rintro ⟨valid, root, reader, present, leads⟩
    have named := isValidName_iff.mp valid
    obtain ⟨file, comes, rfl⟩ := Layer.path?_eq_some_iff.mp leads
    obtain ⟨whole, rfl⟩ := named.comesTo_iff.mp comes
    exact ⟨named, whole, root, reader, present, rfl⟩
  · rintro ⟨named, whole, root, reader, present, rfl⟩
    refine ⟨isValidName_iff.mpr named, root, reader, present, ?_⟩
    rw [Layer.path?_of_named named, if_neg whole]

theorem Opens.place (opens : loader.Opens name path) :
    ∃ root reader, .directory root reader ∈ loader.store.layers ∧
      Location.ofPath path = Location.ofPath root ++ [name] := by
  obtain ⟨named, whole, root, reader, present, rfl⟩ := opens_iff.mp opens
  exact ⟨root, reader, present, Location.ofPath_join (named.isPlainName whole) root⟩

theorem Opens.unique {otherPath : String} (opens : loader.Opens name path)
    (opensOther : loader.Opens otherName otherPath)
    (same : Location.ofPath path = Location.ofPath otherPath) : name = otherName := by
  obtain ⟨root, -, -, place⟩ := opens.place
  obtain ⟨otherRoot, -, -, otherPlace⟩ := opensOther.place
  rw [place, otherPlace] at same
  exact (List.append_singleton_inj.mp same).2

theorem find?_withReader_congr {layers : List Layer}
    (agree : ∀ layer ∈ layers,
      (layer.withReader reader).find? name = (layer.withReader other).find? name) :
    Store.find? ⟨layers.map (Layer.withReader reader)⟩ name =
      Store.find? ⟨layers.map (Layer.withReader other)⟩ name := by
  unfold Store.find?
  induction layers with
  | nil => rfl
  | cons layer layers ih =>
      rw [List.map_cons, List.map_cons, List.findSome?_cons, List.findSome?_cons,
        agree layer List.mem_cons_self,
        ih fun later member => agree later (List.mem_cons_of_mem layer member)]

theorem load_withReader_congr
    (agree : ∀ path, loader.Opens name path → reader path = other path) :
    (loader.withReader reader).load name = (loader.withReader other).load name := by
  by_cases valid : isValidName name = true
  · have found : (loader.withReader reader).store.find? name =
        (loader.withReader other).store.find? name := by
      refine find?_withReader_congr fun layer present => ?_
      cases layer with
      | memory images => rfl
      | directory root own =>
          refine Option.bind_congr fun path leads => ?_
          rw [agree path ⟨valid, root, own, present, leads⟩]
    have entries : (loader.withReader reader).entries = (loader.withReader other).entries := rfl
    rw [load, load, found, entries]
  · rw [load, load, validateName, if_neg valid]
    rfl

theorem load_of_slash (named : NamesExecutable name) (slash : '/' ∈ name.toList)
    (directories : ∀ layer ∈ loader.store.layers, ∃ root reader, layer = .directory root reader) :
    loader.load name = .error (.notFound name) := by
  refine load_of_refused (.notFound named fun layer present => ?_)
  obtain ⟨root, reader, rfl⟩ := directories layer present
  rw [Layer.directory_find?_of_named named, if_pos slash]

/-- A directory gives the bytes of files right in it and of no others: a name leads to one exactly
if its first piece is a plain name and nothing but empty pieces and dots follow. The name of an
executable leads to the file of that name, or nowhere if it has a slash, so that no two names that
are loaded lead to one file. -/
theorem directories_give_only_their_own_files (loader : Loader Routine) :
    (∀ root name path, Layer.path? root name = some path ↔
      ∃ file, Files.ComesTo name file ∧ path = Files.join root file) ∧
    (∀ root name path, Layer.path? root name = some path →
      ∃ file, Files.IsPlainName file ∧
        Location.ofPath path = Location.ofPath root ++ [file]) ∧
    (∀ root (files : Files) name bytes,
      (Layer.directory root files.read).find? name = some bytes →
      ∃ file, Files.ComesTo name file ∧
        files.nodeAt? (Location.ofPath root ++ [file]) = some (.file bytes)) ∧
    (∀ root reader name, isValidName name = true →
      (Layer.directory root reader).find? name =
        if '/' ∈ name.toList then none else (reader (Files.join root name)).toOption) ∧
    (∀ name, isValidName name = true → '/' ∈ name.toList →
      (∀ layer ∈ loader.store.layers, ∃ root reader, layer = .directory root reader) →
      loader.load name = .error (.notFound name)) ∧
    (∀ name reader other, (∀ path, loader.Opens name path → reader path = other path) →
      (loader.withReader reader).load name = (loader.withReader other).load name) ∧
    ∀ name otherName path otherPath, loader.Opens name path →
      loader.Opens otherName otherPath →
      Location.ofPath path = Location.ofPath otherPath → name = otherName := by
  refine ⟨fun root name path => Layer.path?_eq_some_iff, fun root name path leads => ?_,
    fun root files name bytes => Layer.nodeAt?_of_find?, fun root reader name valid =>
      Layer.directory_find?_of_named (isValidName_iff.mp valid),
    fun name valid => load_of_slash (isValidName_iff.mp valid),
    fun name reader other => load_withReader_congr,
    fun name otherName path otherPath => Opens.unique⟩
  obtain ⟨file, comes, rfl⟩ := Layer.path?_eq_some_iff.mp leads
  exact ⟨file, comes.isPlainName, Location.ofPath_join comes.isPlainName root⟩

def namesakes : Files :=
  .ofPaths [("a.coff", [1]), ("bin/a.coff", [2])] []

def inBin : Loader Unit := ⟨⟨[.directory "bin" namesakes.read]⟩, ⟨[]⟩⟩

theorem namesake_outside_is_missing :
    namesakes.read "bin/../a.coff" = .ok [1] ∧
      inBin.load "../a.coff" = .error (.notFound "../a.coff") ∧
      (∃ file, Files.ComesTo "a.coff/." file ∧
        namesakes.nodeAt? ["bin", file] = some (.file [2])) ∧
      ∀ name path, inBin.Opens name path → Location.ofPath path = ["bin", "a.coff"] →
        name = "a.coff" := by
  obtain ⟨-, -, found, -, missing, -, unique⟩ := directories_give_only_their_own_files inBin
  have opens : inBin.Opens "a.coff" "bin/a.coff" :=
    ⟨by decide, "bin", namesakes.read, List.mem_cons_self, by decide⟩
  refine ⟨by rfl, ?_, ?_, ?_⟩
  · exact missing "../a.coff" (by decide) (by decide) (by simp [inBin])
  · exact found "bin" namesakes "a.coff/." [2] (by decide)
  · intro name path opened there
    exact unique name "a.coff" path "bin/a.coff" opened opens there

end Loader

end Minikernel
