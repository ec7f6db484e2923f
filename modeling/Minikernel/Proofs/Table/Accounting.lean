import Minikernel.Proofs.Table.Balance
import Minikernel.Proofs.Table.Waking

/-!
The slots and the numbers of a table over a whole history. Slots in use are the records held and
never more than the table has; numbers are handed out one after the other, and the records stay in
their order. The counters tell whether the next record can be entered, and which number it gets.
-/

namespace Minikernel

def ProcessInfo.precedes (first second : ProcessInfo) : Bool :=
  first.pid ≤ second.pid

namespace ProcessTable

variable {table : ProcessTable} {pid : Pid} {info : ProcessInfo}

/-- The latest record comes first. -/
def Descending (table : ProcessTable) : Prop :=
  (table.records.map ProcessInfo.pid).Pairwise (· > ·)

theorem Descending.sublist {later : ProcessTable} (descending : table.Descending)
    (fewer : List.Sublist (later.records.map ProcessInfo.pid)
      (table.records.map ProcessInfo.pid)) : later.Descending :=
  List.Pairwise.sublist fewer descending

theorem Descending.enter (descending : table.Descending) (sound : table.Sound) (name : String)
    (parent : Option Pid) : (table.enter name parent).Descending := by
  refine List.pairwise_cons.mpr ⟨?_, descending⟩
  intro other member
  obtain ⟨info, held, rfl⟩ := List.mem_map.mp member
  exact sound.numbered _ _ ((find?_eq_some_iff sound.distinct).mpr ⟨held, rfl⟩)

theorem Descending.modify (descending : table.Descending) (change : ProcessInfo → ProcessInfo)
    (keepsPid : ∀ info, (change info).pid = info.pid) : (table.modify pid change).Descending := by
  rwa [Descending, modify_pids change keepsPid]

theorem Descending.list (descending : table.Descending) :
    table.list.Pairwise fun first second => first.pid < second.pid := by
  rw [ProcessTable.list, List.pairwise_reverse]
  exact List.pairwise_map.mp descending

theorem Descending.mergeSort_eq_list {records : List ProcessInfo} (descending : table.Descending)
    (same : records.Perm table.records) :
    records.mergeSort ProcessInfo.precedes = table.list := by
  have distinct : (table.records.map ProcessInfo.pid).Nodup :=
    descending.imp fun below => (UInt32.ne_of_lt below).symm
  have listed : table.list.Pairwise fun first second => first.precedes second :=
    descending.list.imp fun below => decide_eq_true (UInt32.le_of_lt below)
  have sorted : (records.mergeSort ProcessInfo.precedes).Pairwise
      fun first second => first.precedes second := by
    refine List.pairwise_mergeSort (fun first second third below above => ?_) ?_ _
    · exact decide_eq_true
        (UInt32.le_trans (of_decide_eq_true below) (of_decide_eq_true above))
    · intro first second
      simp [ProcessInfo.precedes, UInt32.le_total]
  have permuted := (records.mergeSort_perm ProcessInfo.precedes).trans same
  refine List.Perm.eq_of_pairwise ?_ sorted listed (permuted.trans (List.reverse_perm _).symm)
  intro first second held present below above
  exact List.inj_on_of_nodup_map distinct (permuted.mem_iff.mp held) (List.mem_reverse.mp present)
    (UInt32.le_antisymm (of_decide_eq_true below) (of_decide_eq_true above))

theorem mem_list : info ∈ table.list ↔ info ∈ table.records :=
  List.mem_reverse

theorem toNat_succ {next : Pid} (unused : next ≤ maxPid) : (next + 1).toNat = next.toNat + 1 := by
  have bound : next.toNat ≤ 0x7fffffff := UInt32.le_iff_toNat_le.mp unused
  have one : (1 : UInt32).toNat = 1 := rfl
  rw [UInt32.toNat_add]
  omega

end ProcessTable

namespace JoinRoom

open ProcessTable

variable {room after : JoinRoom} {request : Request} {reply : Reply} {maxRecords discarded : Nat}
  {past : List Moment}

def Reply.number? : Reply → Option Pid
  | .registered pid => some pid
  | _ => none

def numbers (past : List Moment) : List Pid :=
  past.filterMap fun moment => moment.reply.number?

def Request.discards (request : Request) : Reply → Bool
  | .done =>
      match request with
      | .discard _ => true
      | _ => false
  | _ => false

def discards (past : List Moment) : Nat :=
  past.countP fun moment => moment.request.discards moment.reply

theorem step_tallied (tallied : room.table.Tallied discarded) (sound : room.table.Sound)
    (step : room.Step request reply after) :
    after.table.Tallied (discarded + (request.discards reply).toNat) := by
  cases step with
  | refused | slept | lost | dozed | idle => exact tallied
  | registered => exact tallied.enter _ _
  | started | exited | detached => exact tallied.modify _ _
  | discarded found => exact tallied.erase sound.distinct found
  | vanished found => exact tallied.reclaim sound.distinct found
  | taken ripe | joined ripe | won _ ripe => exact tallied.reclaim sound.distinct ripe.1
  | orphaned => exact tallied.orphanChildren _

theorem step_limit (limit : room.table.maxRecords = maxRecords)
    (bounded : room.table.live ≤ maxRecords) (step : room.Step request reply after) :
    after.table.maxRecords = maxRecords ∧ after.table.live ≤ maxRecords := by
  cases step with
  | refused | slept | lost | dozed | idle | started | exited | detached => exact ⟨limit, bounded⟩
  | registered notFull =>
      rw [limit] at notFull
      exact ⟨limit, notFull⟩
  | discarded | vanished | taken | joined | won | orphaned =>
      exact ⟨limit, Nat.le_trans (Nat.sub_le _ _) bounded⟩

theorem step_numbers (next : room.table.nextPid.toNat = room.table.registered + 1)
    (step : room.Step request reply after) :
    after.table.nextPid.toNat = after.table.registered + 1 ∧
      List.range' 1 after.table.registered =
        List.range' 1 room.table.registered ++ reply.number?.toList.map UInt32.toNat := by
  cases step with
  | registered notFull unused =>
      refine ⟨(toNat_succ unused).trans (congrArg (· + 1) next), ?_⟩
      show List.range' 1 (room.table.registered + 1) = _ ++ [room.table.nextPid.toNat]
      rw [List.range'_concat, next, Nat.one_mul, Nat.add_comm 1]
  | _ => exact ⟨next, (List.append_nil _).symm⟩

theorem step_descending (descending : room.table.Descending) (sound : room.table.Sound)
    (step : room.Step request reply after) : after.table.Descending := by
  cases step with
  | refused | slept | lost | dozed | idle => exact descending
  | registered => exact descending.enter sound _ _
  | started | exited | detached => exact descending.modify _ fun _ => rfl
  | discarded | vanished | taken | joined | won =>
      exact descending.sublist (List.filter_sublist.map ProcessInfo.pid)
  | orphaned => exact descending.sublist orphanChildren_pids

structure Accounted (maxRecords : Nat) (past : List Moment) (room : JoinRoom) : Prop where
  limit : room.table.maxRecords = maxRecords
  bounded : room.table.live ≤ maxRecords
  tallied : room.table.Tallied (discards past)
  next : room.table.nextPid.toNat = room.table.registered + 1
  numbered : (numbers past).map UInt32.toNat = List.range' 1 room.table.registered
  descending : room.table.Descending

theorem accounted_empty (maxRecords : Nat) : Accounted maxRecords [] (empty maxRecords) where
  limit := rfl
  bounded := Nat.zero_le maxRecords
  tallied := ⟨rfl, rfl⟩
  next := rfl
  numbered := rfl
  descending := List.Pairwise.nil

theorem Accounted.serve (accounted : Accounted maxRecords past room) (sound : room.table.Sound)
    (request : Request) :
    Accounted maxRecords (past ++ [⟨room, request⟩]) (room.serve request).2 := by
  have step := room.serve_step request
  obtain ⟨limit, bounded⟩ := step_limit accounted.limit accounted.bounded step
  obtain ⟨next, numbered⟩ := step_numbers accounted.next step
  -- What the new moment adds to the past is what the step adds to the counters.
  refine ⟨limit, bounded, ?_, next, ?_, step_descending accounted.descending sound step⟩
  · have counted : discards (past ++ [⟨room, request⟩]) =
        discards past + (request.discards (room.serve request).1).toNat := by
      rw [discards, List.countP_append]
      cases given : request.discards (room.serve request).1 <;>
        simp [discards, Moment.reply, given]
    rw [counted]
    exact step_tallied accounted.tallied sound step
  · have handed : numbers (past ++ [⟨room, request⟩]) =
        numbers past ++ (room.serve request).1.number?.toList := by
      rw [numbers, List.filterMap_append]
      cases given : (room.serve request).1.number? <;> simp [numbers, Moment.reply, given]
    rw [handed, List.map_append, accounted.numbered, numbered]

theorem run_accounted (maxRecords : Nat) (requests : List Request) :
    Accounted maxRecords ((empty maxRecords).history requests)
      ((empty maxRecords).run requests) :=
  (sound_empty maxRecords).history_induction (motive := Accounted maxRecords)
    (accounted_empty maxRecords)
    (fun _ _ request sound accounted => accounted.serve sound.table request) requests

theorem Accounted.register (accounted : Accounted maxRecords past room) (sound : room.table.Sound)
    (name : String) (parent : Option Pid) :
    room.table.register name parent =
      if room.table.size = maxRecords then .error (.limitReached maxRecords maxRecords)
      else if room.table.registered = maxPid.toNat then .error .pidsExhausted
      else .ok (UInt32.ofNat (room.table.registered + 1), room.table.enter name parent) := by
  obtain ⟨rfl, bounded, ⟨slots, -⟩, next, -, -⟩ := accounted
  have size : room.table.size = room.table.live := slots.symm
  have number : UInt32.ofNat (room.table.registered + 1) = room.table.nextPid := by
    rw [← next, UInt32.ofNat_toNat]
  have last : maxPid.toNat = 0x7fffffff := rfl
  have below : room.table.nextPid.toNat ≤ 0x80000000 :=
    UInt32.le_iff_toNat_le.mp sound.bounded
  rw [ProcessTable.register, size, number]
  by_cases full : room.table.live = room.table.maxRecords
  · rw [if_pos (by omega), if_pos full, full]
  · rw [if_neg (by omega), if_neg full]
    by_cases exhausted : room.table.registered = maxPid.toNat
    · have beyond : room.table.nextPid > maxPid := by
        show maxPid < room.table.nextPid
        rw [UInt32.lt_iff_toNat_lt]
        omega
      rw [if_pos beyond, if_pos exhausted]
    · have unused : ¬room.table.nextPid > maxPid := by
        show ¬maxPid < room.table.nextPid
        rw [UInt32.lt_iff_toNat_lt]
        omega
      rw [if_neg unused, if_neg exhausted]
      rfl

theorem Accounted.ascending (accounted : Accounted maxRecords past room) :
    (numbers past).Pairwise (· < ·) := by
  have increasing : ((numbers past).map UInt32.toNat).Pairwise (· < ·) := by
    rw [accounted.numbered]
    exact List.pairwise_lt_range'
  exact (List.pairwise_map.mp increasing).imp UInt32.lt_iff_toNat_lt.mpr

/-- Over any history the slots in use are the records held, and every record that was entered is
held, reclaimed or discarded, with no counter ever brought below zero. The numbers handed out are
one, two, three and so on. Entering a record fails when all slots are in use, and otherwise only
when the numbers have run out. A listing has every record once, in the order of the numbers. -/
theorem slots_and_numbers_agree (maxRecords : Nat) (requests : List Request) :
    let history := (empty maxRecords).history requests
    let table := ((empty maxRecords).run requests).table
    (table.live = table.size ∧ table.size ≤ maxRecords) ∧
    (table.registered = table.reclaimed + discards history + table.size ∧
      (∀ pid info, table.find? pid = some info → (table.erase pid).live + 1 = table.live) ∧
      ∀ parent, (table.orphanChildren parent).2.live + (table.orphanChildren parent).1 =
        table.live) ∧
    ((numbers history).map UInt32.toNat = List.range' 1 table.registered ∧
      (numbers history).Pairwise (· < ·)) ∧
    (∀ name parent, table.register name parent =
      if table.size = maxRecords then .error (.limitReached maxRecords maxRecords)
      else if table.registered = maxPid.toNat then .error .pidsExhausted
      else .ok (UInt32.ofNat (table.registered + 1), table.enter name parent)) ∧
    table.list.length = table.size ∧
      (table.list.Pairwise fun first second => first.pid < second.pid) ∧
      ∀ pid info, table.find? pid = some info ↔ info ∈ table.list ∧ info.pid = pid := by
  intro history table
  have sound : table.Sound := (run_sound (sound_empty maxRecords) requests).table
  have accounted : Accounted maxRecords history ((empty maxRecords).run requests) :=
    run_accounted maxRecords requests
  have tallied : table.Tallied (discards history) := accounted.tallied
  refine ⟨⟨tallied.slots, ?_⟩, ⟨tallied.entered, ?_, ?_⟩,
    ⟨accounted.numbered, accounted.ascending⟩, accounted.register sound,
    List.length_reverse, accounted.descending.list, ?_⟩
  · have bounded : table.live ≤ maxRecords := accounted.bounded
    rwa [tallied.slots] at bounded
  · intro pid info found
    rw [(tallied.erase sound.distinct found).slots]
    exact tallied.length_erase sound.distinct found
  · intro parent
    rw [(tallied.orphanChildren parent).slots]
    exact tallied.length_orphanChildren parent
  · intro pid info
    rw [find?_eq_some_iff sound.distinct, mem_list]

/-- Over any history a listing is the sort of the records by their numbers. -/
theorem list_eq_mergeSort (maxRecords : Nat) (requests : List Request)
    {records : List ProcessInfo}
    (same : records.Perm ((empty maxRecords).run requests).table.records) :
    records.mergeSort ProcessInfo.precedes = ((empty maxRecords).run requests).table.list :=
  (run_accounted maxRecords requests).descending.mergeSort_eq_list same

-- A discarded record gives its slot back, but not its number.
example :
    let room := (empty 1).run [.register "a.coff" none, .discard 1, .register "b.coff" none]
    room.table.list = [newborn 2 "b.coff" none] ∧ room.table.registered = 2 ∧
      room.table.reclaimed = 0 := by
  decide

end JoinRoom

end Minikernel
