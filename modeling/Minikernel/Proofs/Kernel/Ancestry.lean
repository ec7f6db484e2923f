import Minikernel.Kernel.Calls
import Minikernel.Proofs.Kernel.Accounts

/-!
Who waits for whom. A process can only be started under a parent that is there already, so a parent
has a smaller number than its children; and a join waits for a child of its caller only. Going from
a process to the one that it waits for, the numbers grow, and so nobody ever waits for himself.
-/

namespace Minikernel

namespace ProcessTable

variable {table : ProcessTable} {pid caller ancestor parent : Pid} {info : ProcessInfo}

def ParentsFirst (table : ProcessTable) : Prop :=
  ∀ info ∈ table.records, ∀ parent, info.parent = some parent → parent < info.pid

theorem ParentsFirst.spawn (first : table.ParentsFirst) (orderly : table.Orderly)
    (admitted : table.admits parent = true) (name : String) :
    (table.spawn name parent).ParentsFirst := by
  have known : parent < table.nextPid := by
    simp only [admits, Bool.or_eq_true, decide_eq_true_eq] at admitted
    rcases admitted with kernel | live
    · rw [kernel]
      exact orderly.positive
    · obtain ⟨host, found, -⟩ :=
        (isRunning_iff orderly.sound.distinct).mp (orderly.isRunning_of_live live)
      exact orderly.sound.numbered parent host found
  intro info member other child
  rcases List.mem_cons.mp member with rfl | old
  · cases child
    exact known
  · exact first info old other child

theorem ParentsFirst.reclaim (first : table.ParentsFirst) (pid : Pid) :
    (table.reclaim pid).ParentsFirst :=
  fun info member => first info (List.mem_filter.mp member).1

theorem ParentsFirst.depart (first : table.ParentsFirst) (sound : table.Sound)
    (found : table.find? pid = some info) (running : info.state = .running)
    (status : ExitStatus) : (table.depart pid status).ParentsFirst := by
  intro later member parent child
  obtain ⟨record, held, remains⟩ := remains_of_mem_depart sound found running member
  cases remains with
  | untouched => exact first later held parent child
  | released => cases child
  | kept => exact first record held parent child

theorem ParentsFirst.lt_of_parent (first : table.ParentsFirst)
    (found : table.find? pid = some info) (child : info.parent = some parent) : parent < pid := by
  rw [← find?_pid found]
  exact first info (mem_of_find? found) parent child

theorem lt_of_transGen {link : Pid → Pid → Prop} (grows : ∀ low high, link low high → low < high)
    {start last : Pid} (chain : Relation.TransGen link start last) : start < last := by
  induction chain with
  | single step => exact grows _ _ step
  | tail _ step below => exact UInt32.lt_trans below (grows _ _ step)

def Ancestor (table : ProcessTable) : Pid → Pid → Prop :=
  Relation.TransGen fun parent child =>
    ∃ info, table.find? child = some info ∧ info.parent = some parent

theorem ParentsFirst.lt_of_ancestor (first : table.ParentsFirst)
    (older : table.Ancestor ancestor pid) : ancestor < pid := by
  refine lt_of_transGen ?_ older
  rintro parent child ⟨info, found, link⟩
  exact first.lt_of_parent found link

/-- The processes that a caller has no business to join: none of them is its child. -/
inductive Foreign (table : ProcessTable) (caller : Pid) : Pid → Prop
  | itself : Foreign table caller caller
  | ancestor {older} : table.Ancestor older caller → Foreign table caller older
  | sibling {peer own other} : table.find? caller = some own → table.find? peer = some other →
      own.parent = other.parent → Foreign table caller peer
  | unknown {number} : table.find? number = none → Foreign table caller number

theorem Foreign.stranger (foreign : table.Foreign caller pid) (first : table.ParentsFirst)
    (found : table.find? pid = some info) : info.parent ≠ some caller := by
  -- If it were a child, its number would be above the caller's, and above all that is older.
  intro child
  have older := first.lt_of_parent found child
  cases foreign with
  | itself => exact UInt32.lt_irrefl _ older
  | ancestor above => exact UInt32.lt_asymm older (first.lt_of_ancestor above)
  | sibling foundOwn foundOther same =>
      rw [found] at foundOther
      cases foundOther
      exact UInt32.lt_irrefl _ (first.lt_of_parent foundOwn (same.trans child))
  | unknown missing =>
      rw [missing] at found
      cases found

theorem Foreign.join (foreign : table.Foreign caller pid) (first : table.ParentsFirst) :
    ∃ cause, table.join pid caller = .failed cause := by
  cases found : table.find? pid with
  | none => exact ⟨_, join_of_missing found⟩
  | some info => exact join_of_stranger found (foreign.stranger first found)

end ProcessTable

namespace Kernel

open ProcessTable

variable {kernel after : Kernel} {request : Request} {pid caller : Pid}

theorem step_parentsFirst (sound : kernel.Sound) (first : kernel.table.ParentsFirst)
    (step : kernel.Step request after) : after.table.ParentsFirst := by
  cases step with
  | same | halted | computed | scheduled => exact first
  | launched _ admitted => exact first.spawn sound.orderly admitted _
  | @finished pid status process held =>
      obtain ⟨info, found, runs⟩ := sound.record_of_process held
      rw [finish_eq held]
      exact first.depart sound.orderly.sound found runs status
  | joined | taken => exact first.reclaim _

theorem run_parentsFirst (sound : kernel.Sound) (first : kernel.table.ParentsFirst)
    (requests : List Request) : (kernel.run requests).table.ParentsFirst :=
  sound.run_induction (motive := fun kernel => kernel.table.ParentsFirst) first
    (fun _ _ _ sound first step => step_parentsFirst sound first step) requests

theorem join_blocks_iff :
    kernel.join caller pid = .blocked ↔
      ∃ info, kernel.table.find? pid = some info ∧ info.isLive = true ∧
        info.parent = some caller := by
  rw [← ProcessTable.join_eq_blocked_iff, Kernel.join]
  cases kernel.table.join pid caller <;> simp

theorem handleJoin_blocked {context other : Context} {target : Int32} {status child : UInt32}
    (blocked : kernel.handleJoin context target status = (.blocked child, after, other)) :
    kernel.join context.pid child = .blocked ∧ after = kernel ∧ other = context := by
  unfold handleJoin at blocked
  dsimp only at blocked
  split at blocked
  · cases blocked
  · split at blocked
    · cases blocked
    · split at blocked
      · cases blocked
      · rename_i waits
        cases blocked
        exact ⟨waits, rfl, rfl⟩
      · split at blocked <;> cases blocked

theorem syscall_blocked {context other : Context} {call : Registers} {child : Pid}
    (blocked : kernel.syscall context call = (.blocked child, after, other)) :
    kernel.join context.pid child = .blocked ∧ after = kernel ∧ other = context := by
  unfold syscall at blocked
  split at blocked
  · cases blocked
  · split at blocked <;> cases blocked
  · cases blocked
  · cases blocked
  · exact handleJoin_blocked blocked
  all_goals cases blocked

theorem handleJoin_failed {context : Context} {target : Int32} {cause : JoinError}
    (failed : kernel.join context.pid target.toUInt32 = .failed cause) (status : UInt32) :
    kernel.handleJoin context target status =
      (.value Limits.syscallFailure, kernel, context) := by
  unfold handleJoin
  dsimp only
  split
  · rfl
  · split
    · rfl
    · rw [failed]

/-- Somewhere in a history, a join of this process by this caller found that it has to wait. -/
def Waited (start : Kernel) (requests : List Request) (caller pid : Pid) : Prop :=
  ∃ earlier, earlier <+: requests ∧ (start.run earlier).join caller pid = .blocked

theorem joins_never_wait_in_a_ring (config : Config) (loader : Loader (Program Int32))
    (console : Console) (requests : List Request) :
    let start := boot config loader console
    let kernel := start.run requests
    (∀ info ∈ kernel.table.records,
      info.parent = none ∨ ∃ parent, info.parent = some parent ∧ parent < info.pid) ∧
    (∀ caller pid, kernel.join caller pid = .blocked → caller < pid ∧
      ∃ info, kernel.table.find? pid = some info ∧ info.parent = some caller) ∧
    (∀ context call child after other,
      kernel.syscall context call = (.blocked child, after, other) →
        kernel.join context.pid child = .blocked ∧ after = kernel ∧ other = context) ∧
    (∀ pid, ¬Relation.TransGen (start.Waited requests) pid pid) ∧
    ∀ caller pid, kernel.table.Foreign caller pid →
      (∃ cause, kernel.join caller pid = .failed cause) ∧
      kernel.serve (.join caller pid) = kernel ∧
      ∀ context target status unused, context.pid = caller → target.toUInt32 = pid →
        kernel.syscall context (Syscall.join.registers target status unused) =
          (.value Limits.syscallFailure, kernel, context) := by
  intro start kernel
  have booted : start.Sound := sound_boot config loader console
  have first : ∀ requests, (start.run requests).table.ParentsFirst :=
    run_parentsFirst booted (by simp [ParentsFirst, start, boot, ofLimit])
  have blocks : ∀ requests caller pid, (start.run requests).join caller pid = .blocked →
      caller < pid ∧
        ∃ info, (start.run requests).table.find? pid = some info ∧ info.parent = some caller := by
    intro requests caller pid blocked
    obtain ⟨info, found, -, child⟩ := join_blocks_iff.mp blocked
    exact ⟨(first requests).lt_of_parent found child, info, found, child⟩
  refine ⟨?_, blocks requests, fun _ _ _ _ _ => syscall_blocked, ?_, ?_⟩
  · intro info member
    cases child : info.parent with
    | none => exact .inl rfl
    | some parent => exact .inr ⟨parent, rfl, first requests info member parent child⟩
  · -- Along a chain of waits the numbers grow, whenever each of them began.
    intro pid ring
    refine UInt32.lt_irrefl pid (lt_of_transGen ?_ ring)
    rintro caller child ⟨earlier, -, blocked⟩
    exact (blocks earlier caller child blocked).1
  · intro caller pid foreign
    obtain ⟨cause, failed⟩ := foreign.join (first requests)
    have refused : kernel.join caller pid = .failed (.ofProcessError pid cause) := by
      rw [Kernel.join, failed]
    refine ⟨⟨_, refused⟩, ?_, ?_⟩
    · rw [serve, refused]
    · rintro context target status unused rfl rfl
      exact handleJoin_failed refused _

theorem only_children_are_waited_for :
    let kernel := (boot ⟨64, 2, 8, none, false⟩ smallLoader (.fresh false)).run
      [.exec kernelPid "a.coff" [], .exec 1 "a.coff" [], .exec 1 "a.coff" [], .exec 2 "a.coff" []]
    (kernel.join 1 2 = .blocked ∧ (1 : Pid) < 2) ∧
      (∃ cause, kernel.join 2 3 = .failed cause) ∧ ∃ cause, kernel.join 4 1 = .failed cause := by
  intro kernel
  have second : kernel.table.find? 2 = some ⟨2, "a.coff", .running, some 1, none⟩ := by
    decide +kernel
  have third : kernel.table.find? 3 = some ⟨3, "a.coff", .running, some 1, none⟩ := by
    decide +kernel
  have fourth : kernel.table.find? 4 = some ⟨4, "a.coff", .running, some 2, none⟩ := by
    decide +kernel
  have above : kernel.table.Ancestor 1 4 :=
    .tail (.single ⟨_, second, rfl⟩) ⟨_, fourth, rfl⟩
  have asleep : kernel.join 1 2 = .blocked := join_blocks_iff.mpr ⟨_, second, rfl, rfl⟩
  obtain ⟨-, blocks, -, -, foreign⟩ := joins_never_wait_in_a_ring ⟨64, 2, 8, none, false⟩
    smallLoader (.fresh false)
    [.exec kernelPid "a.coff" [], .exec 1 "a.coff" [], .exec 1 "a.coff" [], .exec 2 "a.coff" []]
  exact ⟨⟨asleep, (blocks 1 2 asleep).1⟩, (foreign 2 3 (.sibling second third rfl)).1,
    (foreign 4 1 (.ancestor above)).1⟩

end Kernel

end Minikernel
