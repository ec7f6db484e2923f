import Mathlib.Algebra.GroupWithZero.Nat
import Minikernel.Proofs.Table.Lifecycle

/-!
The counters of a table. Slots in use are the records held; a record that was ever entered is held,
reclaimed or discarded. In a table that never discarded one, the counters follow from the records
held and the number of records ever entered, so such a table is known from those.
-/

namespace Minikernel

theorem sum_filter_ne {α : Type} {key : α → Pid} {items : List α} {item : α} (size : α → Nat)
    (distinct : (items.map key).Nodup) (member : item ∈ items) :
    size item + ((items.filter fun other => key other ≠ key item).map size).sum =
      (items.map size).sum := by
  induction items with
  | nil => cases member
  | cons first rest ih =>
      obtain ⟨fresh, others⟩ := List.nodup_cons.mp distinct
      rcases List.mem_cons.mp member with rfl | later
      · have untouched : (rest.filter fun other => key other ≠ key item) = rest := by
          rw [List.filter_eq_self]
          intro other held
          have differs : key other ≠ key item := fun same =>
            fresh (same ▸ List.mem_map_of_mem held)
          simpa using differs
        rw [List.filter_cons_of_neg (by simp), untouched, List.map_cons, List.sum_cons]
      · have differs : key first ≠ key item := fun same =>
          fresh (same ▸ List.mem_map_of_mem later)
        have tail := ih others later
        rw [List.filter_cons_of_pos (by simpa using differs)]
        simp only [List.map_cons, List.sum_cons]
        omega

theorem length_filter_ne {α : Type} {key : α → Pid} {items : List α} {item : α}
    (distinct : (items.map key).Nodup) (member : item ∈ items) :
    (items.filter fun other => key other ≠ key item).length + 1 = items.length := by
  have counted := sum_filter_ne (fun _ => 1) distinct member
  simp only [List.map_const', List.sum_replicate_nat, Nat.mul_one] at counted
  omega

namespace ProcessTable

variable {table : ProcessTable} {pid : Pid} {info : ProcessInfo}

structure Tallied (discarded : Nat) (table : ProcessTable) : Prop where
  slots : table.live = table.records.length
  entered : table.registered = table.reclaimed + discarded + table.records.length

namespace Tallied

variable {discarded : Nat} (tallied : table.Tallied discarded)

include tallied

theorem enter (name : String) (parent : Option Pid) :
    (table.enter name parent).Tallied discarded :=
  ⟨congrArg (· + 1) tallied.slots, congrArg (· + 1) tallied.entered⟩

theorem modify (pid : Pid) (change : ProcessInfo → ProcessInfo) :
    (table.modify pid change).Tallied discarded := by
  obtain ⟨slots, entered⟩ := tallied
  constructor
  · show table.live = (table.records.map _).length
    rw [List.length_map, slots]
  · show table.registered = table.reclaimed + discarded + (table.records.map _).length
    rw [List.length_map, entered]

theorem length_erase (distinct : table.Distinct) (found : table.find? pid = some info) :
    (table.erase pid).records.length + 1 = table.live := by
  have shorter := length_filter_ne distinct (mem_of_find? found)
  rw [find?_pid found] at shorter
  rw [tallied.slots]
  exact shorter

theorem erase (distinct : table.Distinct) (found : table.find? pid = some info) :
    (table.erase pid).Tallied (discarded + 1) := by
  have shorter := tallied.length_erase distinct found
  obtain ⟨slots, entered⟩ := tallied
  constructor
  · show table.live - 1 = (table.erase pid).records.length
    omega
  · show table.registered = table.reclaimed + (discarded + 1) + (table.erase pid).records.length
    omega

theorem reclaim (distinct : table.Distinct) (found : table.find? pid = some info) :
    (table.reclaim pid).Tallied discarded := by
  have shorter := tallied.length_erase distinct found
  obtain ⟨slots, entered⟩ := tallied
  constructor
  · show table.live - 1 = (table.erase pid).records.length
    omega
  · show table.registered =
      table.reclaimed + 1 + discarded + (table.erase pid).records.length
    omega

theorem length_orphanChildren (parent : Pid) :
    (table.orphanChildren parent).2.records.length + (table.orphanChildren parent).1 =
      table.live := by
  rw [tallied.slots, length_orphanChildren_records]

theorem orphanChildren (parent : Pid) :
    (table.orphanChildren parent).2.Tallied discarded := by
  have fewer := tallied.length_orphanChildren parent
  obtain ⟨slots, entered⟩ := tallied
  constructor
  · show table.live - (table.orphanChildren parent).1 = _
    omega
  · show table.registered = table.reclaimed + (table.orphanChildren parent).1 + discarded + _
    omega

end Tallied

structure Balanced (table : ProcessTable) : Prop where
  slots : table.live = table.records.length
  entered : table.registered = table.reclaimed + table.records.length

theorem balanced_ofLimit (maxRecords : Nat) : (ofLimit maxRecords).Balanced :=
  ⟨rfl, rfl⟩

theorem Balanced.ext {first second : ProcessTable} (balanced : first.Balanced)
    (balancedSecond : second.Balanced) (records : first.records = second.records)
    (nextPid : first.nextPid = second.nextPid) (maxRecords : first.maxRecords = second.maxRecords)
    (registered : first.registered = second.registered) : first = second := by
  obtain ⟨slots, entered⟩ := balanced
  obtain ⟨slotsSecond, enteredSecond⟩ := balancedSecond
  have live : first.live = second.live := by rw [slots, slotsSecond, records]
  have reclaimed : first.reclaimed = second.reclaimed := by
    rw [records] at entered
    omega
  cases first
  cases second
  simp only at records nextPid live maxRecords registered reclaimed
  subst records nextPid live maxRecords registered reclaimed
  rfl

theorem balanced_iff_tallied : table.Balanced ↔ table.Tallied 0 :=
  ⟨fun balanced => ⟨balanced.slots, balanced.entered⟩,
    fun tallied => ⟨tallied.slots, tallied.entered⟩⟩

theorem Balanced.modify (balanced : table.Balanced) (pid : Pid)
    (change : ProcessInfo → ProcessInfo) : (table.modify pid change).Balanced :=
  balanced_iff_tallied.mpr ((balanced_iff_tallied.mp balanced).modify pid change)

theorem Balanced.reclaim (balanced : table.Balanced) (distinct : table.Distinct)
    (found : table.find? pid = some info) : (table.reclaim pid).Balanced :=
  balanced_iff_tallied.mpr ((balanced_iff_tallied.mp balanced).reclaim distinct found)

theorem Balanced.orphanChildren (balanced : table.Balanced) (parent : Pid) :
    (table.orphanChildren parent).2.Balanced :=
  balanced_iff_tallied.mpr ((balanced_iff_tallied.mp balanced).orphanChildren parent)

end ProcessTable

end Minikernel
