import Minikernel.Kernel.Calls
import Minikernel.Proofs.Kernel.Sleeping
import Minikernel.Proofs.Memory.Contents
import Minikernel.Proofs.Table.Waking

/-!
What a join call does with the status of a child. There is only one status to be had, and the place
for it in memory is checked before anyone looks at the child; so a call that takes the status
delivers it, and a call that cannot deliver it does not take it. This holds of the look at the child
with which a call starts, and of the look with which a caller goes on that has slept.
-/

namespace Minikernel

open ProcessTable

theorem ProcessTable.Sound.ripe {table : ProcessTable} {pid : Pid} {info : ProcessInfo}
    (sound : table.Sound) (found : table.find? pid = some info) (exited : info.state = .exited) :
    ∃ ended, table.Ripe pid info ended := by
  obtain ⟨-, shown⟩ := sound.coherent pid info found
  obtain ⟨ended, status⟩ := Option.isSome_iff_exists.mp (shown.mpr exited)
  exact ⟨ended, found, exited, status⟩

namespace JoinRoom

variable {room after : JoinRoom} {request : Request} {reply : Reply} {pid caller : Pid}
  {info : ProcessInfo}

theorem step_child (sound : room.table.Sound) (step : room.Step request reply after)
    (entered : room.table.stage pid ≠ 0) (attached : request ≠ .detach pid)
    (present : request ≠ .orphanChildren caller)
    (child : ∀ info, room.table.find? pid = some info → info.parent = some caller)
    (held : after.table.find? pid = some info) : info.parent = some caller := by
  cases step_origin sound.distinct step held with
  | registered fresh => exact absurd (fresh ▸ stage_nextPid sound) entered
  | kept found => exact child _ found
  | @started old found | @exited old _ found => exact child old found
  | detached => exact absurd rfl attached
  | released found parent =>
      have same := (child _ found).symm.trans parent
      cases same
      exact absurd rfl present

theorem run_child (sound : room.table.Sound) (entered : room.table.stage pid ≠ 0)
    (child : ∀ info, room.table.find? pid = some info → info.parent = some caller)
    (requests : List Request) (attached : .detach pid ∉ requests)
    (present : .orphanChildren caller ∉ requests)
    (held : (room.run requests).table.find? pid = some info) : info.parent = some caller := by
  induction requests generalizing room with
  | nil => exact child info held
  | cons request rest ih =>
      have step := room.serve_step request
      have later : (room.serve request).2.table.stage pid ≠ 0 := by
        have grows := step_stage sound step pid
        omega
      refine ih (step_sound sound step) later (fun _ found => ?_)
        (fun member => attached (List.mem_cons_of_mem _ member))
        (fun member => present (List.mem_cons_of_mem _ member)) held
      exact step_child sound step entered (fun same => attached (same ▸ List.mem_cons_self))
        (fun same => present (same ▸ List.mem_cons_self)) child found

end JoinRoom

namespace AddressSpace

variable {space : AddressSpace} {address word : UInt32}

theorem writeWord_of_covered (inside : address.toNat + 4 ≤ space.size) :
    space.writeWord address word = .ok (space.overlaid address.toNat (Bytes.ofWord word)) :=
  writeExact_eq_ok_iff.mpr ⟨by rwa [Bytes.ofWord_length], rfl⟩

theorem readWord_of_written (inside : address.toNat + 4 ≤ space.size) :
    (space.overlaid address.toNat (Bytes.ofWord word)).readWord address = .ok word :=
  readWord_eq_ok_iff.mpr (Pages.holds_overlay (by rwa [Bytes.ofWord_length]))

end AddressSpace

namespace Kernel

variable {kernel : Kernel} {context : Context} {target : Int32} {child : Pid} {place : UInt32}
  {ended : ExitStatus} {outcome : Reply × Kernel × Context}

def concludeJoin (kernel : Kernel) (context : Context) (child : Pid) (place : UInt32) :
    JoinOutcome → Reply × Kernel × Context
  | .blocked => (.blocked child, kernel, context)
  | .failed _ => (.value Limits.syscallFailure, kernel, context)
  | .joined ended table =>
      match context.space.writeWord place ended.code.toUInt32 with
      | .ok space => (.value 0, { kernel with table := table }, { context with space := space })
      | .error _ => (.value Limits.syscallFailure, { kernel with table := table }, context)

structure AdmitsJoin (context : Context) (target : Int32) (place : UInt32) : Prop where
  numbered : 0 ≤ target
  inside : place.toNat + 4 ≤ context.space.size

theorem handleJoin_of_refused (refused : ¬AdmitsJoin context target place) :
    kernel.handleJoin context target place = (.value Limits.syscallFailure, kernel, context) := by
  rw [handleJoin]
  by_cases negative : target < 0
  · rw [if_pos negative]
  · have outside : ¬place.toNat + 4 ≤ context.space.size := fun inside =>
      refused ⟨Int32.not_lt.mp negative, inside⟩
    have uncovered : context.space.covers place 4 = false := decide_eq_false outside
    rw [if_neg negative, uncovered]
    rfl

theorem handleJoin_of_admitted (admitted : AdmitsJoin context target place) :
    kernel.handleJoin context target place =
      kernel.concludeJoin context target.toUInt32 place
        (kernel.table.join target.toUInt32 context.pid) := by
  have covered : context.space.covers place 4 = true := decide_eq_true admitted.inside
  rw [handleJoin, if_neg (Int32.not_lt.mpr admitted.numbered), covered, Kernel.join]
  cases kernel.table.join target.toUInt32 context.pid <;> rfl

/-- The status of a child has been delivered: the record of the child is gone, and its exit code is
in memory. Nothing else has changed. -/
structure Delivered (kernel : Kernel) (context : Context) (child : Pid) (place : UInt32)
    (ended : ExitStatus) (outcome : Reply × Kernel × Context) : Prop where
  reply : outcome.1 = .value 0
  reclaimed : outcome.2.1 = { kernel with table := kernel.table.reclaim child }
  caller : outcome.2.2 = { context with space := outcome.2.2.space }
  code : outcome.2.2.readInt place = .ok ended.code
  elsewhere : outcome.2.2.space.SameOutside context.space place.toNat 4

theorem concludeJoin_joined (inside : place.toNat + 4 ≤ context.space.size)
    (table : ProcessTable) :
    kernel.concludeJoin context child place (.joined ended table) =
      (.value 0, { kernel with table := table },
        { context with
          space := context.space.overlaid place.toNat (Bytes.ofWord ended.code.toUInt32) }) := by
  simp only [concludeJoin, AddressSpace.writeWord_of_covered inside]

theorem delivered_of_joined (inside : place.toNat + 4 ≤ context.space.size) :
    Delivered kernel context child place ended
      (kernel.concludeJoin context child place (.joined ended (kernel.table.reclaim child))) := by
  rw [concludeJoin_joined inside]
  refine ⟨rfl, rfl, rfl, ?_, ?_⟩
  · have found : (context.space.overlaid place.toNat
        (Bytes.ofWord ended.code.toUInt32)).readWord place = .ok ended.code.toUInt32 :=
      AddressSpace.readWord_of_written inside
    rw [Context.readInt, found]
    exact congrArg Except.ok (Int32.toInt32_toUInt32 ended.code)
  · exact AddressSpace.overlaid_sameOutside context.space place.toNat
      (Bytes.ofWord ended.code.toUInt32)

/-- A call that wastes nothing: if the child has exited and its status is due, it is delivered, and
in every other case the call fails and nothing has changed. -/
structure WastesNothing (kernel : Kernel) (context : Context) (child : Pid) (place : UInt32)
    (due : ProcessInfo → Prop) (outcome : Reply × Kernel × Context) : Prop where
  succeeds_iff : outcome.1 = .value 0 ↔
    ∃ info, kernel.table.find? child = some info ∧ info.state = .exited ∧ due info
  delivers : ∀ info, kernel.table.find? child = some info → info.state = .exited → due info →
    ∃ ended, info.exitStatus = some ended ∧ Delivered kernel context child place ended outcome
  fails : outcome.1 ≠ .value 0 → outcome = (.value Limits.syscallFailure, kernel, context)

theorem failed_wastes_nothing {due : ProcessInfo → Prop}
    (failed : outcome = (.value Limits.syscallFailure, kernel, context))
    (undue : ∀ info, kernel.table.find? child = some info → info.state = .exited → ¬due info) :
    WastesNothing kernel context child place due outcome where
  succeeds_iff := by
    refine iff_of_false ?_ fun ⟨info, found, exited, owed⟩ => undue info found exited owed
    rw [failed]
    exact fun same => absurd (Reply.value.inj same) (by decide)
  delivers := fun info found exited owed => absurd owed (undue info found exited)
  fails := fun _ => failed

theorem joined_wastes_nothing {due : ProcessInfo → Prop} {info : ProcessInfo}
    (inside : place.toNat + 4 ≤ context.space.size)
    (ripe : kernel.table.Ripe child info ended) (owed : due info)
    (joined : outcome =
      kernel.concludeJoin context child place (.joined ended (kernel.table.reclaim child))) :
    WastesNothing kernel context child place due outcome := by
  have delivered := @delivered_of_joined kernel context child place ended inside
  rw [← joined] at delivered
  obtain ⟨found, exited, status⟩ := ripe
  refine ⟨iff_of_true delivered.reply ⟨info, found, exited, owed⟩, ?_,
    fun failed => absurd delivered.reply failed⟩
  intro same refound _ _
  rw [found] at refound
  cases refound
  exact ⟨ended, status, delivered⟩

theorem syscall_join_of_refused (refused : ¬AdmitsJoin context target place) :
    kernel.syscall context (Syscall.join.registers target place.toInt32 0) =
      (.value Limits.syscallFailure, kernel, context) :=
  handleJoin_of_refused refused

theorem syscall_join_of_admitted (admitted : AdmitsJoin context target place) :
    kernel.syscall context (Syscall.join.registers target place.toInt32 0) =
      kernel.concludeJoin context target.toUInt32 place
        (kernel.table.join target.toUInt32 context.pid) :=
  handleJoin_of_admitted admitted

theorem look_wastes_nothing {due : ProcessInfo → Prop} {found : JoinOutcome}
    (sound : kernel.table.Sound) (inside : place.toNat + 4 ≤ context.space.size)
    (joins : ∀ ended table, found = .joined ended table ↔
      ∃ info, kernel.table.Ripe child info ended ∧ due info ∧ kernel.table.reclaim child = table)
    (returns : found ≠ .blocked) :
    WastesNothing kernel context child place due
      (kernel.concludeJoin context child place found) := by
  cases found with
  | blocked => exact absurd rfl returns
  | joined ended table =>
      obtain ⟨info, ripe, owed, rfl⟩ := (joins ended table).mp rfl
      exact joined_wastes_nothing inside ripe owed rfl
  | failed cause =>
      refine failed_wastes_nothing rfl fun info held exited owed => ?_
      obtain ⟨ended, ripe⟩ := sound.ripe held exited
      cases (joins ended _).mpr ⟨info, ripe, owed, rfl⟩

theorem join_wastes_nothing (sound : kernel.table.Sound)
    (admitted : AdmitsJoin context target place)
    (returns : kernel.table.join target.toUInt32 context.pid ≠ .blocked) :
    WastesNothing kernel context target.toUInt32 place
      (fun info => AdmitsJoin context target place ∧ info.parent = some context.pid)
      (kernel.concludeJoin context target.toUInt32 place
        (kernel.table.join target.toUInt32 context.pid)) := by
  refine look_wastes_nothing sound admitted.inside (fun ended table => ?_) returns
  rw [join_eq_joined_iff]
  simp only [admitted, true_and]

theorem rejoin_wastes_nothing (sound : kernel.table.Sound)
    (inside : place.toNat + 4 ≤ context.space.size)
    (returns : kernel.table.rejoin child ≠ .blocked) :
    WastesNothing kernel context child place (fun _ => True)
      (kernel.concludeJoin context child place (kernel.table.rejoin child)) := by
  refine look_wastes_nothing sound inside (fun ended table => ?_) returns
  rw [rejoin_eq_joined_iff]
  simp only [true_and]

theorem concludeJoin_blocked {found : JoinOutcome}
    (inside : place.toNat + 4 ≤ context.space.size) :
    (kernel.concludeJoin context child place found).1 = .blocked child ↔ found = .blocked := by
  cases found with
  | blocked => exact iff_of_true rfl rfl
  | failed cause => exact iff_of_false nofun nofun
  | joined ended table =>
      rw [concludeJoin_joined inside]
      exact iff_of_false nofun nofun

theorem Sound.call_again (sound : kernel.Sound)
    (asleep : kernel.syscall context (Syscall.join.registers target place.toInt32 0) =
      (.blocked target.toUInt32, kernel, context))
    (requests : List Request)
    (ended : (kernel.run requests).table.isLive target.toUInt32 = false) :
    let later := kernel.run requests
    later.syscall context (Syscall.join.registers target place.toInt32 0) =
      later.concludeJoin context target.toUInt32 place
        (later.table.rejoin target.toUInt32) := by
  intro later
  by_cases admitted : AdmitsJoin context target place
  · rw [syscall_join_of_admitted admitted] at asleep ⊢
    have waits := (concludeJoin_blocked admitted.inside).mp (congrArg Prod.fst asleep)
    rw [sound.rejoin_eq_join waits requests ended]
  · rw [syscall_join_of_refused admitted] at asleep
    cases congrArg Prod.fst asleep

/-- Whatever was done to the table before, a join call that returns at once delivers the status of
the child and takes it out of the table, or has changed nothing. A call that sleeps has changed
nothing either, and when its caller goes on, whatever was done to the table meanwhile, the same
holds of what it does then: what is due is the status of the child that it slept on, whose parent it
is still unless the two were parted. Once there is a status, putting it in memory does not fail. -/
theorem join_wastes_no_status (base other : Kernel) (maxRecords : Nat)
    (requests more : List JoinRoom.Request) (context : Context) (target : Int32)
    (place : UInt32) :
    let room := (JoinRoom.empty maxRecords).run requests
    let child := target.toUInt32
    let kernel := { base with table := room.table }
    let later := { other with table := (room.run more).table }
    let call := kernel.syscall context (Syscall.join.registers target place.toInt32 0)
    let woken := later.concludeJoin context child place (later.table.rejoin child)
    (call.1 ≠ .blocked child →
      WastesNothing kernel context child place
        (fun info => AdmitsJoin context target place ∧ info.parent = some context.pid) call) ∧
    (call.1 = .blocked child →
      call.2 = (kernel, context) ∧ AdmitsJoin context target place ∧
      (∃ info, kernel.table.find? child = some info ∧ info.isLive = true ∧
        info.parent = some context.pid) ∧
      (.detach child ∉ more → .orphanChildren context.pid ∉ more →
        ∀ info, later.table.find? child = some info → info.parent = some context.pid) ∧
      (woken.1 ≠ .blocked child →
        WastesNothing later context child place (fun _ => True) woken)) ∧
    (AdmitsJoin context target place → ∀ ended table,
      (kernel.concludeJoin context child place (.joined ended table)).1 = .value 0 ∧
      (later.concludeJoin context child place (.joined ended table)).1 = .value 0) := by
  intro room child kernel later call woken
  have sound : room.Sound := JoinRoom.run_sound (JoinRoom.sound_empty maxRecords) requests
  have soundLater : later.table.Sound := (JoinRoom.run_sound sound more).table
  by_cases admitted : AdmitsJoin context target place
  · have looked : call = _ := syscall_join_of_admitted admitted
    have blocks := @concludeJoin_blocked kernel context child place
      (kernel.table.join child context.pid) admitted.inside
    refine ⟨fun returns => ?_, fun asleep => ?_, fun _ ended table => ?_⟩
    · rw [looked] at returns ⊢
      exact join_wastes_nothing sound.table admitted fun waits => returns (blocks.mpr waits)
    · rw [looked] at asleep
      have waits := blocks.mp asleep
      obtain ⟨info, found, live, own⟩ := join_eq_blocked_iff.mp waits
      have entered : room.table.stage child ≠ 0 := stage_pos (sound.table.numbered child info found)
      refine ⟨?_, admitted, ⟨info, found, live, own⟩, fun attached present last held => ?_,
        fun returns => ?_⟩
      · rw [looked]
        show (kernel.concludeJoin context child place (kernel.table.join child context.pid)).2 = _
        rw [waits]
        rfl
      · refine JoinRoom.run_child sound.table entered (fun same again => ?_) more attached present
          held
        cases found.symm.trans again
        exact own
      · refine rejoin_wastes_nothing soundLater admitted.inside fun again => returns ?_
        exact (concludeJoin_blocked admitted.inside).mpr again
    · rw [concludeJoin_joined admitted.inside, concludeJoin_joined admitted.inside]
      exact ⟨rfl, rfl⟩
  · have failed : call = _ := syscall_join_of_refused admitted
    refine ⟨fun _ => ?_, fun asleep => ?_, fun held => absurd held admitted⟩
    · exact failed_wastes_nothing failed fun _ _ _ owed => admitted owed.1
    · rw [failed] at asleep
      cases asleep

-- The child ends while its parent sleeps, and its code goes to the last four bytes of memory. With
-- a place one byte higher the call fails at once, and the child is still there to be joined.
theorem late_status_delivered :
    let requests := [.register "p.coff" (some 0), .markRunning 1, .register "c.coff" (some 1),
      .markRunning 2]
    let room := (JoinRoom.empty 4).run requests
    let base := boot .default ⟨⟨[]⟩, ⟨[]⟩⟩ (.fresh false)
    let kernel := { base with table := room.table }
    let later := { base with table := (room.run [.markExited 2 (.normal (-5))]).table }
    let context := Context.fresh 1 "p.coff" ⟨.zeros 3, 1, 1⟩ ⟨0, 0⟩
    let call (place : UInt32) :=
      kernel.syscall context (Syscall.join.registers 2 place.toInt32 0)
    let woken := later.concludeJoin context 2 3068 (later.table.rejoin 2)
    (call 3068).1 = .blocked 2 ∧
      Delivered later context 2 3068 (.normal (-5)) woken ∧
      call 3069 = (.value Limits.syscallFailure, kernel, context) := by
  intro requests room base kernel later context call woken
  obtain ⟨-, sleeps, -⟩ := join_wastes_no_status base base 4 requests
    [.markExited 2 (.normal (-5))] context 2 3068
  obtain ⟨returns, -, -⟩ := join_wastes_no_status base base 4 requests [] context 2 3069
  have asleep : (call 3068).1 = .blocked 2 := by decide +kernel
  have found : later.table.find? 2 =
      some ⟨2, "c.coff", .exited, some 1, some (.normal (-5))⟩ := by decide +kernel
  obtain ⟨-, -, -, -, goesOn⟩ := sleeps asleep
  obtain ⟨ended, status, delivered⟩ :=
    (goesOn (by decide +kernel)).delivers _ found rfl trivial
  cases status
  have refused := (returns (by decide +kernel)).fails (by decide +kernel)
  exact ⟨asleep, delivered, refused⟩

end Kernel

end Minikernel
