import Minikernel.Proofs.Table.Accounting
import Minikernel.Proofs.Table.InPlace

/-!
What becomes of the children of a process that ends. Those that have exited are taken out and
counted, the others lose their parent, and nothing else is touched. The children may be gone
through one by one in any order: each turn of the loop leaves the outcome of the whole as it is and
one child fewer to go through.
-/

namespace Minikernel

namespace ProcessTable

variable {table : ProcessTable} {pid parent other child : Pid} {info : ProcessInfo}

theorem orphaned_of_stranger (stranger : info.parent ≠ some parent) :
    orphaned parent info = some info := by
  rw [orphaned, if_pos stranger]

theorem orphaned_of_unexited (own : info.parent = some parent) (running : info.state ≠ .exited) :
    orphaned parent info = some { info with parent := none } := by
  rw [orphaned, if_neg (not_not.mpr own), if_neg running]

theorem orphaned_eq_none_iff :
    orphaned parent info = none ↔ info.parent = some parent ∧ info.state = .exited := by
  unfold orphaned
  split
  · rename_i stranger
    simp [stranger]
  · rename_i own
    simp [not_not.mp own]

theorem orphanChildren_snd (table : ProcessTable) (parent : Pid) :
    (table.orphanChildren parent).2 =
      { table with
        records := table.records.filterMap (orphaned parent)
        live := table.live - (table.orphanChildren parent).1
        reclaimed := table.reclaimed + (table.orphanChildren parent).1 } := by
  rw [← orphanChildren_records]
  rfl

theorem orphanChildren_eq {result : Nat × ProcessTable}
    (records : result.2.records = table.records.filterMap (orphaned parent))
    (shorter : result.2.records.length + result.1 = table.records.length)
    (rest : result.2 = { table with
      records := result.2.records
      live := table.live - result.1
      reclaimed := table.reclaimed + result.1 }) :
    table.orphanChildren parent = result := by
  have all := length_orphanChildren_records table parent
  rw [orphanChildren_records, ← records] at all
  have counted : (table.orphanChildren parent).1 = result.1 := by omega
  refine Prod.ext counted ?_
  rw [orphanChildren_snd, counted, ← records]
  exact rest.symm

theorem orphanChildren_of_childless
    (childless : ∀ info ∈ table.records, info.parent ≠ some parent) :
    table.orphanChildren parent = (0, table) := by
  refine orphanChildren_eq ?_ rfl rfl
  rw [List.filterMap_congr fun info member => orphaned_of_stranger (childless info member),
    List.filterMap_some]

section Loop

variable (distinct : table.Distinct) (found : table.find? child = some info)

include distinct found

theorem filterMap_erase (left : ProcessInfo → Option ProcessInfo) (gone : left info = none) :
    (table.erase child).records.filterMap left = table.records.filterMap left := by
  show (table.records.filter fun record => record.pid ≠ child).filterMap left = _
  rw [List.filterMap_filter]
  refine List.filterMap_congr fun record member => ?_
  by_cases same : record.pid = child
  · rw [distinct.eq_of_mem found member same, gone, ite_self]
  · rw [if_pos (decide_eq_true same)]

theorem filterMap_modify (left : ProcessInfo → Option ProcessInfo)
    (change : ProcessInfo → ProcessInfo) (unchanged : left (change info) = left info) :
    (table.modify child change).records.filterMap left = table.records.filterMap left := by
  show (table.records.map fun record =>
    if record.pid = child then change record else record).filterMap left = _
  rw [List.filterMap_map]
  refine List.filterMap_congr fun record member => ?_
  by_cases same : record.pid = child
  · rw [Function.comp_apply, if_pos same, distinct.eq_of_mem found member same, unchanged]
  · rw [Function.comp_apply, if_neg same]

theorem orphanChildren_of_exited (own : info.parent = some parent) (exited : info.state = .exited) :
    table.orphanChildren parent =
      (((table.reclaim child).orphanChildren parent).1 + 1,
        ((table.reclaim child).orphanChildren parent).2) := by
  have fewer := length_filter_ne distinct (mem_of_find? found)
  rw [find?_pid found] at fewer
  have shorter : (table.reclaim child).records.length + 1 = table.records.length := fewer
  have all := length_orphanChildren_records (table.reclaim child) parent
  refine orphanChildren_eq ?_ ?_ ?_
  · show ((table.reclaim child).orphanChildren parent).2.records = _
    rw [orphanChildren_records]
    exact filterMap_erase distinct found (orphaned parent) (orphaned_eq_none_iff.mpr ⟨own, exited⟩)
  · show ((table.reclaim child).orphanChildren parent).2.records.length + (_ + 1) = _
    omega
  · show ((table.reclaim child).orphanChildren parent).2 = _
    rw [orphanChildren_snd]
    show ProcessTable.mk _ _ (table.live - 1 - _) _ _ (table.reclaimed + 1 + _) = _
    rw [Nat.sub_sub, Nat.add_assoc, Nat.add_comm 1]
    rfl

theorem orphanChildren_of_unexited (own : info.parent = some parent)
    (running : info.state ≠ .exited) :
    table.orphanChildren parent =
      (table.modify child ({ · with parent := none })).orphanChildren parent := by
  have kept : orphaned parent { info with parent := none } = orphaned parent info :=
    (orphaned_of_stranger (by simp)).trans (orphaned_of_unexited own running).symm
  have records := filterMap_modify distinct found (orphaned parent) ({ · with parent := none }) kept
  have same : (table.modify child ({ · with parent := none })).records.length =
      table.records.length := List.length_map _
  have all := length_orphanChildren_records (table.modify child ({ · with parent := none })) parent
  refine orphanChildren_eq ?_ ?_ ?_
  · rw [orphanChildren_records, records]
  · rw [all, same]
  · rw [orphanChildren_snd]
    rfl

end Loop

def outcome (parent : Pid) (progress : Nat × ProcessTable) : Nat × ProcessTable :=
  (progress.1 + (progress.2.orphanChildren parent).1, (progress.2.orphanChildren parent).2)

inductive Turn (parent : Pid) (progress : Nat × ProcessTable) (child : Pid) :
    Nat × ProcessTable → Prop
  | passed : (∀ record, progress.2.find? child = some record → record.parent ≠ some parent) →
      Turn parent progress child progress
  | reaped {record} : progress.2.find? child = some record → record.parent = some parent →
      record.state = .exited →
      Turn parent progress child (progress.1 + 1, progress.2.reclaim child)
  | released {record} : progress.2.find? child = some record → record.parent = some parent →
      record.state ≠ .exited →
      Turn parent progress child (progress.1, progress.2.modify child ({ · with parent := none }))

section Turn

variable {progress after : Nat × ProcessTable}

theorem orphanOne_turn (parent : Pid) (progress : Nat × ProcessTable) (child : Pid) :
    Turn parent progress child (orphanOne parent progress child) := by
  unfold orphanOne
  cases found : progress.2.find? child with
  | none => exact .passed (by simp [found])
  | some info =>
      dsimp only
      by_cases own : info.parent = some parent
      · rw [if_neg (not_not.mpr own)]
        by_cases exited : info.state = .exited
        · have cut := find?_modify_self ({ · with parent := none }) (fun _ => rfl) found
          rw [if_pos exited, removeReclaimed_setState .reclaimed cut,
            reclaim_modify ({ · with parent := none }) fun _ => rfl]
          exact .reaped found own exited
        · rw [if_neg exited]
          exact .released found own exited
      · rw [if_pos own]
        refine .passed fun other refound => ?_
        rw [found] at refound
        cases refound
        exact own

theorem Turn.distinct (turn : Turn parent progress child after) (distinct : progress.2.Distinct) :
    after.2.Distinct := by
  cases turn with
  | passed => exact distinct
  | reaped => exact distinct_erase distinct
  | released => exact distinct_modify _ (fun _ => rfl) distinct

theorem Turn.outcome (turn : Turn parent progress child after) (distinct : progress.2.Distinct) :
    outcome parent after = outcome parent progress := by
  cases turn with
  | passed => rfl
  | reaped found own exited =>
      simp only [ProcessTable.outcome, orphanChildren_of_exited distinct found own exited]
      exact Prod.ext (by omega) rfl
  | released found own exited =>
      simp only [ProcessTable.outcome, orphanChildren_of_unexited distinct found own exited]

theorem Turn.fewer (turn : Turn parent progress child after) (distinct : progress.2.Distinct)
    (member : info ∈ after.2.records) (own : info.parent = some parent) :
    info ∈ progress.2.records ∧ info.pid ≠ child := by
  cases turn with
  | passed stranger =>
      refine ⟨member, fun same => ?_⟩
      exact stranger info ((find?_eq_some_iff distinct).mpr ⟨member, same⟩) own
  | reaped =>
      obtain ⟨held, differs⟩ := List.mem_filter.mp member
      exact ⟨held, by simpa using differs⟩
  | released =>
      obtain ⟨old, held, changed⟩ := List.mem_map.mp member
      by_cases same : old.pid = child
      · rw [if_pos same] at changed
        rw [← changed] at own
        cases own
      · rw [if_neg same] at changed
        rw [← changed]
        exact ⟨held, same⟩

theorem foldl_orphanOne (order : List Pid) (distinct : progress.2.Distinct)
    (all : ∀ info ∈ progress.2.records, info.parent = some parent → info.pid ∈ order) :
    order.foldl (orphanOne parent) progress = outcome parent progress := by
  induction order generalizing progress with
  | nil =>
      have childless : ∀ info ∈ progress.2.records, info.parent ≠ some parent :=
        fun info member own => List.not_mem_nil (all info member own)
      rw [outcome, orphanChildren_of_childless childless]
      rfl
  | cons child rest ih =>
      have turn := orphanOne_turn parent progress child
      rw [List.foldl_cons, ih (turn.distinct distinct), turn.outcome distinct]
      intro info member own
      obtain ⟨held, differs⟩ := turn.fewer distinct member own
      exact (List.mem_cons.mp (all info held own)).resolve_left differs

theorem orphanEach_eq {order : List Pid} (distinct : table.Distinct)
    (all : ∀ info ∈ table.records, info.parent = some parent → info.pid ∈ order) :
    table.orphanEach parent order = table.orphanChildren parent := by
  rw [orphanEach, foldl_orphanOne order distinct all, outcome, Nat.zero_add]

end Turn

theorem orphaned_comm (parent other : Pid) (info : ProcessInfo) :
    (orphaned parent info).bind (orphaned other) =
      (orphaned other info).bind (orphaned parent) := by
  by_cases same : parent = other
  · rw [same]
  · by_cases first : info.parent = some parent
    · by_cases exited : info.state = .exited <;> simp [orphaned, first, same, exited]
    · by_cases second : info.parent = some other
      · by_cases exited : info.state = .exited <;> simp [orphaned, second, Ne.symm same, exited]
      · simp [orphaned, first, second]

theorem orphanChildren_fst (table : ProcessTable) (parent : Pid) :
    (table.orphanChildren parent).1 =
      (table.records.filter fun info =>
        info.parent = some parent ∧ info.state = .exited).length := by
  simp only [orphanChildren, Bool.decide_and]

theorem orphanChildren_fst_after (table : ProcessTable) (differ : parent ≠ other) :
    ((table.orphanChildren other).2.orphanChildren parent).1 = (table.orphanChildren parent).1 := by
  rw [orphanChildren_fst, orphanChildren_fst, orphanChildren_records, List.filter_filterMap,
    ← List.filterMap_eq_filter]
  congr 1
  refine List.filterMap_congr fun info _ => ?_
  by_cases own : info.parent = some other
  · have stranger : info.parent ≠ some parent := by simp [own, differ.symm]
    by_cases exited : info.state = .exited <;>
      simp [orphaned, own, exited, Option.guard, differ.symm, Option.filter]
  · simp [orphaned_of_stranger own, Option.guard, Option.filter]

theorem orphanChildren_twice (table : ProcessTable) (differ : parent ≠ other) :
    ((table.orphanChildren other).2.orphanChildren parent).2 =
      { table with
        records := (table.records.filterMap (orphaned other)).filterMap (orphaned parent)
        live := table.live - (table.orphanChildren other).1 - (table.orphanChildren parent).1
        reclaimed :=
          table.reclaimed + (table.orphanChildren other).1 + (table.orphanChildren parent).1 } := by
  rw [orphanChildren_snd _ parent, orphanChildren_fst_after table differ,
    orphanChildren_snd table other]

theorem orphanChildren_comm (table : ProcessTable) (parent other : Pid) :
    ((table.orphanChildren other).2.orphanChildren parent).2 =
      ((table.orphanChildren parent).2.orphanChildren other).2 := by
  by_cases differ : parent = other
  · rw [differ]
  · have records : (table.records.filterMap (orphaned other)).filterMap (orphaned parent) =
        (table.records.filterMap (orphaned parent)).filterMap (orphaned other) := by
      rw [List.filterMap_filterMap, List.filterMap_filterMap]
      exact List.filterMap_congr fun info _ => orphaned_comm other parent info
    rw [orphanChildren_twice table differ, orphanChildren_twice table (Ne.symm differ), records,
      Nat.sub_right_comm, Nat.add_right_comm]

end ProcessTable

namespace JoinRoom

open ProcessTable

/-- Orphaning the children of a process takes out those that have exited, as many as it says, cuts
the live ones off from their parent and leaves all else alone. Afterwards the process has no
children, so doing it again does nothing; the order for two processes does not matter, nor does
the order in which the children of one are gone through. -/
theorem orphaning_is_exact (maxRecords : Nat) (requests : List Request) (parent : Pid) :
    let table := ((empty maxRecords).run requests).table
    let count := (table.orphanChildren parent).1
    let after := (table.orphanChildren parent).2
    (∀ pid, table.find? pid = none → after.find? pid = none) ∧
    (∀ pid info, table.find? pid = some info →
      (after.find? pid = none ↔ info.parent = some parent ∧ info.state = .exited) ∧
      (info.parent = some parent → info.isLive = true →
        after.find? pid = some { info with parent := none }) ∧
      (info.parent ≠ some parent → after.find? pid = some info)) ∧
    (count = (table.records.filter fun info =>
        info.parent = some parent ∧ info.state = .exited).length ∧
      after.size + count = table.size ∧ after.live + count = table.live ∧
      after.reclaimed = table.reclaimed + count ∧ after.registered = table.registered ∧
      after.nextPid = table.nextPid ∧ after.maxRecords = table.maxRecords) ∧
    (∀ info ∈ after.records, info.parent ≠ some parent) ∧
    after.orphanChildren parent = (0, after) ∧
    (∀ other, ((table.orphanChildren other).2.orphanChildren parent).2 =
        (after.orphanChildren other).2 ∧
      (other ≠ parent → ((table.orphanChildren other).2.orphanChildren parent).1 = count)) ∧
    ∀ order, (∀ info ∈ table.records, info.parent = some parent → info.pid ∈ order) →
      table.orphanEach parent order = (count, after) := by
  intro table count after
  have sound : table.Sound := (run_sound (sound_empty maxRecords) requests).table
  have tallied : table.Tallied _ := (run_accounted maxRecords requests).tallied
  have left : ∀ pid, after.find? pid = (table.find? pid).bind (orphaned parent) :=
    fun _ => find?_orphanChildren sound.distinct
  have size : after.size + count = table.size := length_orphanChildren_records table parent
  have slots : after.live = after.size := (tallied.orphanChildren parent).slots
  have slotsBefore : table.live = table.size := tallied.slots
  have childless : ∀ info ∈ after.records, info.parent ≠ some parent :=
    fun _ => orphanChildren_childless
  refine ⟨fun pid missing => ?_, fun pid info found => ⟨?_, ?_, ?_⟩,
    ⟨orphanChildren_fst table parent, size, by omega, rfl, rfl, rfl, rfl⟩, childless,
    orphanChildren_of_childless childless,
    fun other => ⟨orphanChildren_comm table parent other,
      fun differ => orphanChildren_fst_after table differ.symm⟩,
    fun order => orphanEach_eq sound.distinct⟩
  · rw [left, missing]
    rfl
  · rw [left, found]
    exact orphaned_eq_none_iff
  · intro own live
    have notExited : info.state ≠ .exited := by
      rcases ProcessInfo.isLive_iff.mp live with created | running
      · simp [created]
      · simp [running]
    rw [left, found]
    exact orphaned_of_unexited own notExited
  · intro stranger
    rw [left, found]
    exact orphaned_of_stranger stranger

theorem children_of_seven_orphaned :
    let requests : List Request := [.register "a.coff" (some 7), .register "b.coff" (some 7),
      .register "c.coff" (some 8), .register "d.coff" (some 7), .markRunning 1, .markRunning 3,
      .markRunning 4, .markExited 1 (.normal 5), .markExited 3 (.normal 6),
      .markExited 4 (.normal 7)]
    let table := ((empty 8).run requests).table
    let after := (table.orphanChildren 7).2
    after.find? 1 = none ∧ after.find? 2 = some ⟨2, "b.coff", .created, none, none⟩ ∧
      after.find? 3 = some ⟨3, "c.coff", .exited, some 8, some (.normal 6)⟩ ∧
      table.orphanEach 7 [4, 2, 1] = (2, after) := by
  intro requests table after
  obtain ⟨-, each, -, -, -, -, anyOrder⟩ := orphaning_is_exact 8 requests 7
  have first := (each 1 ⟨1, "a.coff", .exited, some 7, some (.normal 5)⟩ (by decide)).1
  have second := (each 2 ⟨2, "b.coff", .created, some 7, none⟩ (by decide)).2.1
  have third := (each 3 ⟨3, "c.coff", .exited, some 8, some (.normal 6)⟩ (by decide)).2.2
  exact ⟨first.mpr ⟨rfl, rfl⟩, second rfl rfl, third (by decide), anyOrder [4, 2, 1] (by decide)⟩

end JoinRoom

end Minikernel
