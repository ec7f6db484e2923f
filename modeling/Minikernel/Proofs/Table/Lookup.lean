import Mathlib.Data.List.Nodup
import Minikernel.Process.Table

/-!
What a lookup finds in a table after its records were changed. No proof about tables opens the
list of records itself: they all go through these lemmas.
-/

namespace Minikernel

namespace ProcessTable

variable {table : ProcessTable} {pid other parent : Pid} {info : ProcessInfo}

def Distinct (table : ProcessTable) : Prop :=
  (table.records.map ProcessInfo.pid).Nodup

theorem find?_pid (found : table.find? pid = some info) : info.pid = pid := by
  have test := List.find?_some found
  simpa using test

theorem mem_of_find? (found : table.find? pid = some info) : info ∈ table.records :=
  List.mem_of_find?_eq_some found

theorem find?_eq_some_iff (distinct : table.Distinct) :
    table.find? pid = some info ↔ info ∈ table.records ∧ info.pid = pid := by
  constructor
  · exact fun found => ⟨mem_of_find? found, find?_pid found⟩
  · rintro ⟨member, numbered⟩
    obtain ⟨first, found⟩ : ∃ first, table.find? pid = some first := by
      rw [← Option.isSome_iff_exists, find?, List.find?_isSome]
      exact ⟨info, member, by simpa using numbered⟩
    have same : first = info := List.inj_on_of_nodup_map distinct
      (mem_of_find? found) member ((find?_pid found).trans numbered.symm)
    rw [found, same]

theorem Distinct.eq_of_mem {record : ProcessInfo} (distinct : table.Distinct)
    (found : table.find? pid = some info) (member : record ∈ table.records)
    (numbered : record.pid = pid) : record = info := by
  have refound := (find?_eq_some_iff distinct).mpr ⟨member, numbered⟩
  exact Option.some.inj (refound.symm.trans found)

theorem record_eq_ok_iff : table.record pid = .ok info ↔ table.find? pid = some info := by
  unfold record
  cases table.find? pid <;> simp

theorem record_of_missing (missing : table.find? pid = none) :
    table.record pid = .error (.notFound pid) := by
  simp [record, missing]

theorem isLive_of_find? (found : table.find? pid = some info) :
    table.isLive pid = info.isLive := by
  simp [isLive, found]

theorem isLive_of_missing (missing : table.find? pid = none) : table.isLive pid = false := by
  simp [isLive, missing]

theorem find?_modify (change : ProcessInfo → ProcessInfo)
    (keepsPid : ∀ info, (change info).pid = info.pid) :
    (table.modify pid change).find? other =
      if other = pid then (table.find? other).map change else table.find? other := by
  have sameTest : ((fun info : ProcessInfo => decide (info.pid = other)) ∘
      fun info => if info.pid = pid then change info else info) =
      fun info => decide (info.pid = other) := by
    funext info
    by_cases changes : info.pid = pid <;> simp [changes, keepsPid]
  have mapped : (table.modify pid change).find? other =
      (table.find? other).map fun info => if info.pid = pid then change info else info := by
    simp only [find?, modify, List.find?_map, sameTest]
  rw [mapped]
  cases found : table.find? other with
  | none => simp
  | some info =>
      have numbered := find?_pid found
      by_cases same : other = pid <;> simp [numbered, same]

theorem find?_modify_self (change : ProcessInfo → ProcessInfo)
    (keepsPid : ∀ info, (change info).pid = info.pid) (found : table.find? pid = some info) :
    (table.modify pid change).find? pid = some (change info) := by
  rw [find?_modify change keepsPid, if_pos rfl, found, Option.map_some]

theorem find?_erase :
    (table.erase pid).find? other = if other = pid then none else table.find? other := by
  simp only [find?, erase, List.find?_filter]
  split
  · rename_i same
    simp [same]
  · rename_i differs
    congr 1
    funext info
    by_cases wanted : info.pid = other <;> simp [wanted, differs]

theorem find?_reclaim :
    (table.reclaim pid).find? other = if other = pid then none else table.find? other :=
  find?_erase

theorem erase_modify (change : ProcessInfo → ProcessInfo)
    (keepsPid : ∀ info, (change info).pid = info.pid) :
    (table.modify pid change).erase pid = table.erase pid := by
  simp only [erase, modify, ProcessTable.mk.injEq, and_true]
  induction table.records with
  | nil => rfl
  | cons first rest ih =>
      by_cases changes : first.pid = pid <;> simp_all

theorem reclaim_of_erase {later : ProcessTable} (same : later.erase pid = table.erase pid) :
    later.reclaim pid = table.reclaim pid := by
  have counted : (later.erase pid).reclaimed = (table.erase pid).reclaimed := by rw [same]
  rw [reclaim, reclaim, same]
  exact congrArg _ (congrArg (· + 1) counted)

theorem reclaim_modify (change : ProcessInfo → ProcessInfo)
    (keepsPid : ∀ info, (change info).pid = info.pid) :
    (table.modify pid change).reclaim pid = table.reclaim pid :=
  reclaim_of_erase (erase_modify change keepsPid)

theorem modify_pids (change : ProcessInfo → ProcessInfo)
    (keepsPid : ∀ info, (change info).pid = info.pid) :
    (table.modify pid change).records.map ProcessInfo.pid =
      table.records.map ProcessInfo.pid := by
  simp only [modify, List.map_map]
  apply List.map_congr_left
  intro info _
  by_cases changes : info.pid = pid <;> simp [changes, keepsPid]

theorem distinct_modify (change : ProcessInfo → ProcessInfo)
    (keepsPid : ∀ info, (change info).pid = info.pid) (distinct : table.Distinct) :
    (table.modify pid change).Distinct := by
  rwa [Distinct, modify_pids change keepsPid]

theorem distinct_erase (distinct : table.Distinct) : (table.erase pid).Distinct :=
  distinct.sublist (List.filter_sublist.map ProcessInfo.pid)

def orphaned (parent : Pid) (info : ProcessInfo) : Option ProcessInfo :=
  if info.parent ≠ some parent then some info
  else if info.state = .exited then none
  else some { info with parent := none }

theorem orphaned_pid {left : ProcessInfo} (kept : orphaned parent info = some left) :
    left.pid = info.pid := by
  unfold orphaned at kept
  split at kept
  · simp_all
  · split at kept <;> simp_all
    simp [← kept]

theorem orphanChildren_records :
    (table.orphanChildren parent).2.records = table.records.filterMap (orphaned parent) := by
  simp only [orphanChildren]
  induction table.records with
  | nil => rfl
  | cons first rest ih =>
      by_cases child : first.parent = some parent <;>
        by_cases ended : first.state = .exited <;>
        simp_all [orphaned]

theorem length_orphanChildren_records (table : ProcessTable) (parent : Pid) :
    (table.orphanChildren parent).2.records.length + (table.orphanChildren parent).1 =
      table.records.length := by
  have split := List.length_eq_length_filter_add (l := table.records) fun info =>
    decide (info.parent = some parent) && decide (info.state = .exited)
  simp only [orphanChildren, List.length_map]
  omega

theorem orphanChildren_childless (member : info ∈ (table.orphanChildren parent).2.records) :
    info.parent ≠ some parent := by
  rw [orphanChildren_records] at member
  obtain ⟨old, -, kept⟩ := List.mem_filterMap.mp member
  unfold orphaned at kept
  split at kept
  · rename_i stranger
    cases kept
    exact stranger
  · split at kept <;> cases kept
    exact nofun

theorem orphanChildren_pids : List.Sublist
    ((table.orphanChildren parent).2.records.map ProcessInfo.pid)
    (table.records.map ProcessInfo.pid) := by
  rw [orphanChildren_records]
  induction table.records with
  | nil => simp
  | cons first rest ih =>
      rw [List.filterMap_cons, List.map_cons]
      split
      · exact ih.cons _
      · rename_i left kept
        rw [List.map_cons, orphaned_pid kept]
        exact ih.cons_cons _

theorem distinct_orphanChildren (distinct : table.Distinct) :
    (table.orphanChildren parent).2.Distinct :=
  distinct.sublist orphanChildren_pids

theorem find?_orphanChildren (distinct : table.Distinct) :
    (table.orphanChildren parent).2.find? pid = (table.find? pid).bind (orphaned parent) := by
  apply Option.ext
  intro left
  rw [find?_eq_some_iff (distinct_orphanChildren distinct), orphanChildren_records,
    List.mem_filterMap, Option.bind_eq_some_iff]
  constructor
  · rintro ⟨⟨info, member, kept⟩, numbered⟩
    refine ⟨info, ?_, kept⟩
    rw [find?_eq_some_iff distinct, ← orphaned_pid kept]
    exact ⟨member, numbered⟩
  · rintro ⟨info, found, kept⟩
    exact ⟨⟨info, mem_of_find? found, kept⟩, (orphaned_pid kept).trans (find?_pid found)⟩

end ProcessTable

end Minikernel
