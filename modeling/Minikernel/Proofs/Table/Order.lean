import Minikernel.Proofs.Table.Departure

/-!
The tables of a kernel. Its records are only ever entered as running, ended together with their
children's links, and collected after their exit, and so each of them names a parent that can still
join it, or none and then it is running: a record that has exited is never out of reach.
-/

namespace Minikernel

namespace ProcessTable

variable {table : ProcessTable} {pid other parent : Pid} {info : ProcessInfo} {name : String}
  {origin : Option Pid}

theorem modify_of_missing (missing : table.find? pid = none) (change : ProcessInfo → ProcessInfo) :
    table.modify pid change = table := by
  have untouched : ∀ info ∈ table.records,
      (if info.pid = pid then change info else info) = info := by
    intro info member
    have differs := List.find?_eq_none.mp missing info member
    rw [if_neg (by simpa using differs)]
  have same : (table.records.map fun info => if info.pid = pid then change info else info) =
      table.records := by
    rw [List.map_congr_left untouched, List.map_id']
  rw [modify, same]

def spawn (table : ProcessTable) (name : String) (parent : Pid) : ProcessTable :=
  { table with
    records := ⟨table.nextPid, name, .running, some parent, none⟩ :: table.records
    nextPid := table.nextPid + 1
    live := table.live + 1
    registered := table.registered + 1 }

theorem markRunning_enter (sound : table.Sound) (name : String) (parent : Pid) :
    (table.enter name (some parent)).markRunning table.nextPid = .ok (table.spawn name parent) := by
  have found : (table.enter name (some parent)).find? table.nextPid =
      some (newborn table.nextPid name (some parent)) := by
    rw [find?_enter, if_pos rfl]
  refine markRunning_eq_ok_iff.mpr ⟨_, found, rfl, ?_⟩
  -- The change reaches the new record only: no older one has the fresh number.
  have others := congrArg ProcessTable.records
    (modify_of_missing sound.missing_nextPid ({ · with state := .running }))
  simp only [modify] at others
  simp only [modify, enter, spawn, newborn, List.map_cons, if_true, others]

theorem admits_enter (sound : table.Sound) (admitted : table.admits parent = true) :
    (table.enter name origin).admits parent = true := by
  simp only [admits, Bool.or_eq_true, decide_eq_true_eq] at admitted ⊢
  rcases admitted with kernel | live
  · exact .inl kernel
  · have differs : parent ≠ table.nextPid := by
      rintro rfl
      rw [isLive_of_missing sound.missing_nextPid] at live
      cases live
    right
    rwa [isLive, find?_enter, if_neg differs]

def IsRunning (table : ProcessTable) (pid : Pid) : Prop :=
  ∃ info ∈ table.records, info.pid = pid ∧ info.state = .running

def running (table : ProcessTable) : List Pid :=
  (table.records.filter fun info => info.state = .running).map ProcessInfo.pid

theorem mem_running : pid ∈ table.running ↔ table.IsRunning pid := by
  constructor
  · intro member
    obtain ⟨info, kept, numbered⟩ := List.mem_map.mp member
    obtain ⟨held, runs⟩ := List.mem_filter.mp kept
    exact ⟨info, held, numbered, by simpa using runs⟩
  · rintro ⟨info, held, numbered, runs⟩
    exact List.mem_map.mpr ⟨info, List.mem_filter.mpr ⟨held, by simpa using runs⟩, numbered⟩

theorem isRunning_iff (distinct : table.Distinct) :
    table.IsRunning pid ↔ ∃ info, table.find? pid = some info ∧ info.state = .running := by
  constructor
  · rintro ⟨info, held, numbered, runs⟩
    exact ⟨info, (find?_eq_some_iff distinct).mpr ⟨held, numbered⟩, runs⟩
  · rintro ⟨info, found, runs⟩
    exact ⟨info, mem_of_find? found, find?_pid found, runs⟩

theorem running_nodup (distinct : table.Distinct) : table.running.Nodup :=
  distinct.sublist (List.filter_sublist.map ProcessInfo.pid)

theorem find?_spawn : (table.spawn name parent).find? table.nextPid =
    some ⟨table.nextPid, name, .running, some parent, none⟩ :=
  List.find?_cons_of_pos (decide_eq_true rfl)

theorem running_spawn : (table.spawn name parent).running = table.nextPid :: table.running := by
  rw [running, spawn, List.filter_cons_of_pos (by simp), List.map_cons]
  rfl

theorem running_reclaim (distinct : table.Distinct) (found : table.find? pid = some info)
    (exited : info.state = .exited) : (table.reclaim pid).running = table.running := by
  show ((table.records.filter fun record => record.pid ≠ pid).filter
    fun record => record.state = .running).map ProcessInfo.pid = _
  rw [List.filter_filter, running]
  congr 1
  refine List.filter_congr fun record member => ?_
  by_cases runs : record.state = .running
  · have differs : record.pid ≠ pid := by
      intro numbered
      rw [distinct.eq_of_mem found member numbered, exited] at runs
      cases runs
    simp [runs, differs]
  · simp [runs]

theorem running_ended (pid : Pid) (status : ExitStatus) (records : List ProcessInfo) :
    ((records.filterMap (ended pid status)).filter fun info => info.state = .running).map
        ProcessInfo.pid =
      ((records.filter fun info => info.state = .running).map ProcessInfo.pid).filter
        fun other => other ≠ pid := by
  induction records with
  | nil => rfl
  | cons first rest ih =>
      rw [List.filterMap_cons]
      cases left : ended pid status first with
      | none =>
          by_cases runs : first.state = .running
          · by_cases own : first.pid = pid
            · simpa [runs, own] using ih
            · obtain ⟨later, stays, -⟩ := ended_of_running status own runs
              rw [left] at stays
              cases stays
          · simpa [runs] using ih
      | some later =>
          cases remains_of_ended left with
          | untouched differs =>
              by_cases runs : first.state = .running
              · simpa [runs, differs] using ih
              · simpa [runs] using ih
          | released differs =>
              by_cases runs : first.state = .running
              · simpa [runs, differs] using ih
              · simpa [runs] using ih
          | kept own =>
              by_cases runs : first.state = .running
              · simpa [runs, own] using ih
              · simpa [runs] using ih

structure Orderly (table : ProcessTable) : Prop where
  sound : table.Sound
  balanced : table.Balanced
  positive : kernelPid < table.nextPid
  unnumbered : ∀ info ∈ table.records, info.pid ≠ kernelPid
  started : ∀ info ∈ table.records, info.state = .running ∨ info.state = .exited
  hosted : ∀ info ∈ table.records, info.parent = none ∨ info.parent = some kernelPid ∨
    ∃ host, info.parent = some host ∧ table.IsRunning host
  joinable : ∀ info ∈ table.records, info.state = .exited → info.parent ≠ none

theorem orderly_ofLimit (maxRecords : Nat) : (ofLimit maxRecords).Orderly where
  sound := sound_ofLimit maxRecords
  balanced := balanced_ofLimit maxRecords
  positive := show kernelPid < firstPid by decide
  unnumbered := by simp [ofLimit]
  started := by simp [ofLimit]
  hosted := by simp [ofLimit]
  joinable := by simp [ofLimit]

theorem Orderly.isRunning_of_live (orderly : table.Orderly) (live : table.isLive pid = true) :
    table.IsRunning pid := by
  cases found : table.find? pid with
  | none =>
      rw [isLive_of_missing found] at live
      cases live
  | some info =>
      rw [isLive_of_find? found, ProcessInfo.isLive_iff] at live
      refine ⟨info, mem_of_find? found, find?_pid found, ?_⟩
      rcases orderly.started info (mem_of_find? found) with runs | exited
      · exact runs
      · simp [exited] at live

theorem Sound.spawn (sound : table.Sound) (room : table.live < table.maxRecords)
    (unused : table.nextPid ≤ maxPid) (name : String) (parent : Pid) :
    (table.spawn name parent).Sound := by
  obtain ⟨info, found, created, started⟩ :=
    markRunning_eq_ok_iff.mp (markRunning_enter sound name parent)
  have entered : (table.enter name (some parent)).Sound :=
    sound.step (.registered room unused)
  rw [← started]
  exact entered.step (.started found created)

theorem Orderly.spawn (orderly : table.Orderly) (room : table.live < table.maxRecords)
    (unused : table.nextPid ≤ maxPid) (admitted : table.admits parent = true) (name : String) :
    (table.spawn name parent).Orderly := by
  obtain ⟨sound, ⟨slots, entered⟩, positive, unnumbered, started, hosted, joinable⟩ := orderly
  have fresh := UInt32.lt_trans positive (lt_succ_of_le_maxPid unused)
  refine ⟨sound.spawn room unused name parent, ⟨?_, ?_⟩, fresh, ?_, ?_, ?_, ?_⟩
  · exact congrArg (· + 1) slots
  · exact congrArg (· + 1) entered
  · intro info member
    rcases List.mem_cons.mp member with rfl | old
    · exact (UInt32.ne_of_lt positive).symm
    · exact unnumbered info old
  · intro info member
    rcases List.mem_cons.mp member with rfl | old
    · exact .inl rfl
    · exact started info old
  · intro info member
    rcases List.mem_cons.mp member with rfl | old
    · simp only [admits, Bool.or_eq_true, decide_eq_true_eq] at admitted
      rcases admitted with kernel | live
      · exact .inr (.inl (congrArg some kernel))
      · obtain ⟨host, held, numbered, runs⟩ := Orderly.isRunning_of_live
          ⟨sound, ⟨slots, entered⟩, positive, unnumbered, started, hosted, joinable⟩ live
        exact .inr (.inr ⟨parent, rfl, host, List.mem_cons_of_mem _ held, numbered, runs⟩)
    · rcases hosted info old with orphan | kernel | ⟨host, child, record, held, running⟩
      · exact .inl orphan
      · exact .inr (.inl kernel)
      · exact .inr (.inr ⟨host, child, record, List.mem_cons_of_mem _ held, running⟩)
  · intro info member exited
    rcases List.mem_cons.mp member with rfl | old
    · cases exited
    · exact joinable info old exited

theorem Orderly.reclaim {status : ExitStatus} (orderly : table.Orderly)
    (ripe : table.Ripe pid info status) (child : info.parent = some parent) :
    (table.reclaim pid).Orderly := by
  have distinct := orderly.sound.distinct
  have kept : ∀ record ∈ (table.reclaim pid).records, record ∈ table.records :=
    fun record member => (List.mem_filter.mp member).1
  refine ⟨?_, orderly.balanced.reclaim distinct ripe.1, orderly.positive,
    fun record member => orderly.unnumbered record (kept record member),
    fun record member => orderly.started record (kept record member), ?_,
    fun record member => orderly.joinable record (kept record member)⟩
  · exact orderly.sound.step (.taken ripe child)
  · intro record member
    rcases orderly.hosted record (kept record member) with orphan | kernel | ⟨host, parented, runs⟩
    · exact .inl orphan
    · exact .inr (.inl kernel)
    · rw [← mem_running] at runs
      rw [← running_reclaim distinct ripe.1 ripe.2.1, mem_running] at runs
      exact .inr (.inr ⟨host, parented, runs⟩)

theorem Orderly.depart (orderly : table.Orderly) (found : table.find? pid = some info)
    (running : info.state = .running) (status : ExitStatus) :
    (table.depart pid status).Orderly := by
  have sound := orderly.sound
  have remains : ∀ later ∈ (table.depart pid status).records,
      ∃ record ∈ table.records, Remains pid status record later :=
    fun later member => remains_of_mem_depart sound found running member
  have soundAfter := sound.depart found running status
  refine ⟨soundAfter, orderly.balanced.depart sound found running status, ?_, ?_, ?_, ?_, ?_⟩
  · rw [(depart_numbers found running status).1]
    exact orderly.positive
  · intro later member
    obtain ⟨record, held, left⟩ := remains later member
    have unnumbered := orderly.unnumbered record held
    cases left <;> exact unnumbered
  · intro later member
    obtain ⟨record, held, left⟩ := remains later member
    cases left with
    | untouched => exact orderly.started later held
    | released => exact orderly.started record held
    | kept => exact .inr rfl
  · intro later member
    obtain ⟨record, held, left⟩ := remains later member
    -- A host other than the process that ends runs on.
    have hosted : record.parent ≠ some pid → record.parent = none ∨
        record.parent = some kernelPid ∨
        ∃ host, record.parent = some host ∧ (table.depart pid status).IsRunning host := by
      intro stranger
      rcases orderly.hosted record held with orphan | kernel | ⟨host, parented, runs⟩
      · exact .inl orphan
      · exact .inr (.inl kernel)
      · have differs : host ≠ pid := by
          rintro rfl
          exact stranger parented
        obtain ⟨before, foundHost, ran⟩ := (isRunning_iff sound.distinct).mp runs
        have still := depart_keeps_running sound found running status differs foundHost ran
        exact .inr (.inr ⟨host, parented, (isRunning_iff soundAfter.distinct).mpr still⟩)
    cases left with
    | untouched _ stranger => exact hosted stranger
    | released => exact .inl rfl
    | kept _ _ stranger => exact hosted stranger
  · intro later member exited
    obtain ⟨record, held, left⟩ := remains later member
    cases left with
    | untouched => exact orderly.joinable later held exited
    | released _ _ live => exact absurd exited live
    | kept _ parented => exact parented

theorem running_depart (sound : table.Sound) (found : table.find? pid = some info)
    (runs : info.state = .running) (status : ExitStatus) :
    (table.depart pid status).running = table.running.filter fun other => other ≠ pid := by
  rw [running, depart_records sound found runs]
  exact running_ended pid status table.records

end ProcessTable

end Minikernel
