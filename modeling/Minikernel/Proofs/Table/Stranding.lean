import Minikernel.Proofs.Table.LaunchInvariant
import Minikernel.Proofs.Table.Order

/-!
A child that is started while its parent ends is not stranded: no record keeps a parent that will
never join it. The parent records its exit before it cuts its children off, and a child is in the
table before its start looks at the parent for the second time. So a child that comes too late to
be cut off is seen to by its own start.
-/

namespace Minikernel

namespace LaunchRace

open ProcessTable

variable {count : Nat} {race : LaunchRace count} {parent child : Pid}

theorem held_fresh {room : JoinRoom} (sound : room.table.Sound) (below : parent ≠ kernelPid)
    (running : room.table.IsRunning parent) (names : Fin count → String) (status : ExitStatus) :
    (fresh parent names status room).Held := by
  obtain ⟨info, found, runs⟩ := (isRunning_iff sound.distinct).mp running
  exact ⟨below, sound, sound.numbered parent info found, ⟨info, found, runs⟩, by simp [fresh,
    Launch.child?], by simp [fresh, Launch.child?], by simp [fresh]⟩

theorem run_append (race : LaunchRace count) (earlier rest : List (Move count)) :
    race.run (earlier ++ rest) = (race.run earlier).run rest := by
  induction earlier generalizing race with
  | nil => rfl
  | cons first others ih => exact ih (race.move first)

theorem next_room (parent : Pid) (name : String) (stage : Launch) (room : JoinRoom) :
    (Launch.next parent name (stage, room)).2 = room ∨
      ∃ request, (Launch.next parent name (stage, room)).2 = (room.serve request).2 := by
  cases stage with
  | asking | rechecking | started | refused => exact .inl rfl
  | detaching child => exact .inr ⟨.detach child, rfl⟩
  | discarding child => exact .inr ⟨.discard child, rfl⟩
  | entering =>
      refine .inr ⟨.register name (some parent), ?_⟩
      rw [Launch.next]
      split <;> rename_i served <;> rw [served]
  | starting child =>
      refine .inr ⟨.markRunning child, ?_⟩
      rw [Launch.next]
      split <;> rename_i served <;> rw [served]

theorem move_room (race : LaunchRace count) (move : Move count) :
    (race.move move).room = race.room ∨
      ∃ request, (race.move move).room = (race.room.serve request).2 := by
  cases move with
  | launch index => exact next_room race.parent (race.names index) (race.launches index) race.room
  | other request => exact .inr ⟨request, rfl⟩
  | leave =>
      rw [LaunchRace.move]
      cases race.leaving with
      | staying => exact .inr ⟨_, rfl⟩
      | orphaning => exact .inr ⟨_, rfl⟩
      | gone => exact .inl rfl

theorem move_sound (sound : race.room.table.Sound) (move : Move count) :
    (race.move move).room.table.Sound ∧
      ∀ pid, race.room.table.stage pid ≤ (race.move move).room.table.stage pid := by
  rcases race.move_room move with same | ⟨request, served⟩
  · rw [same]
    exact ⟨sound, fun pid => Nat.le_refl _⟩
  · rw [served]
    have step := race.room.serve_step request
    exact ⟨JoinRoom.step_sound sound step, JoinRoom.step_stage sound step⟩

theorem run_stage (sound : race.room.table.Sound) (moves : List (Move count)) (pid : Pid) :
    race.room.table.stage pid ≤ (race.run moves).room.table.stage pid := by
  induction moves generalizing race with
  | nil => exact Nat.le_refl _
  | cons first rest ih =>
      obtain ⟨moved, grows⟩ := move_sound sound first
      exact Nat.le_trans (grows pid) (ih moved)

theorem Held.childless_parent (held : race.Held) (finished : race.IsOver) :
    ∀ info ∈ race.room.table.records, info.parent ≠ some race.parent := by
  intro info member kin
  obtain ⟨index, late⟩ := held.kin finished.1 info member kin
  have done := finished.2 index
  cases stage : race.launches index <;> rw [stage] at late done <;> simp [Launch.cutsOff?] at late
  · cases done
  · cases done

theorem Held.settled (held : race.Held) (finished : race.IsOver) {index : Fin count}
    (stage : race.launches index = .started child) {info : ProcessInfo}
    (found : race.room.table.find? child = some info) :
    info.state = .running ∧ info.parent = none := by
  have alone := held.childless_parent finished info (mem_of_find? found)
  have ours : (race.launches index).child? = some child := by rw [stage]; rfl
  have fits := (held.children index child ours).2.2
  rw [stage, found] at fits
  rcases fits.settled with ⟨runs, kin⟩ | ⟨-, kin⟩
  · exact ⟨runs, kin.resolve_left alone⟩
  · exact absurd kin alone

theorem stage_after_exit (held : race.Held) {status : ExitStatus}
    (exits : (race.room.serve (.markExited child status)).1 = .done) (moves : List (Move count)) :
    3 ≤ ((race.move (.other (.markExited child status))).run moves).room.table.stage child := by
  have step := race.room.serve_step (.markExited child status)
  rw [exits] at step
  have exited := (JoinRoom.step_exit held.sound step).2
  have moved := (move_sound held.sound (.other (.markExited child status))).1
  exact Nat.le_trans exited (run_stage moved moves child)

theorem no_child_stranded (maxRecords : Nat) (requests : List JoinRoom.Request) (parent : Pid)
    (names : Fin count → String) (status : ExitStatus) (moves : List (Move count))
    (below : parent ≠ kernelPid)
    (running : ((JoinRoom.empty maxRecords).run requests).table.IsRunning parent)
    (spares : ∀ request, .other request ∈ moves → request.spares parent = true) :
    let start := fresh parent names status ((JoinRoom.empty maxRecords).run requests)
    let race := start.run moves
    (∀ index child,
      ((race.launches index).pending? = some child →
        ∃ info, race.room.table.find? child = some info ∧ info.state = .created) ∧
      (race.launches index = .detaching child → (race.room.serve (.detach child)).1 = .done) ∧
      (race.launches index = .starting child → (race.room.serve (.markRunning child)).1 = .done) ∧
      race.launches index ≠ .discarding child) ∧
    (race.IsOver →
      (∀ info ∈ race.room.table.records, info.parent ≠ some parent) ∧
      ∀ index child, race.launches index = .started child →
        (∀ info, race.room.table.find? child = some info →
          info.state = .running ∧ info.parent = none) ∧
        ∀ earlier later exit, moves = earlier ++ .other (.markExited child exit) :: later →
          ((start.run earlier).room.serve (.markExited child exit)).1 = .done →
          race.room.table.find? child = none) := by
  intro start race
  have sound : ((JoinRoom.empty maxRecords).run requests).table.Sound :=
    (JoinRoom.run_sound (JoinRoom.sound_empty maxRecords) requests).table
  have heldStart : start.Held := held_fresh sound below running names status
  have held : race.Held := heldStart.run spares
  have same : race.parent = parent := run_parent start moves
  refine ⟨?_, ?_⟩
  · intro index child
    refine ⟨?_, ?_, ?_, held.never_discards index child⟩
    · intro pending
      obtain ⟨info, found, created, -⟩ := held.created pending
      exact ⟨info, found, created⟩
    · intro stage
      have pending : (race.launches index).pending? = some child := by rw [stage]; rfl
      obtain ⟨info, found, -⟩ := held.created pending
      rw [JoinRoom.serve_detach found]
    · exact fun stage => (held.start stage).1
  · intro finished
    refine ⟨same ▸ held.childless_parent finished, ?_⟩
    intro index child stage
    refine ⟨fun info found => held.settled finished stage found, ?_⟩
    intro earlier later exit split exits
    have met : (start.run earlier).Held := by
      refine heldStart.run fun request member => spares request ?_
      rw [split]
      exact List.mem_append_left _ member
    have ended := stage_after_exit met exits later
    have rejoined :
        race = ((start.run earlier).move (.other (.markExited child exit))).run later := by
      rw [← LaunchRace.run, ← run_append, ← split]
    rw [← rejoined] at ended
    cases found : race.room.table.find? child with
    | none => rfl
    | some info =>
        rw [stage_of_find? found, (held.settled finished stage found).1] at ended
        exact absurd ended (by decide)

theorem late_children_not_stranded :
    let requests : List JoinRoom.Request := [.register "a.coff" (some kernelPid), .markRunning 1]
    let start : LaunchRace 2 := fresh 1 (fun _ => "a.coff") (.normal 0)
      ((JoinRoom.empty 4).run requests)
    let opening : List (Move 2) := [.launch 0, .launch 0, .launch 1, .leave, .launch 1, .launch 0,
      .leave, .launch 0, .launch 1, .launch 1, .launch 0, .launch 1]
    let race := start.run (opening ++ .other (.markExited 2 (.normal 4)) :: [])
    race.IsOver ∧ (∀ info ∈ race.room.table.records, info.parent ≠ some 1) ∧
      race.launches 0 = .started 2 ∧ race.room.table.find? 2 = none ∧
      race.launches 1 = .started 3 ∧
      race.room.table.find? 3 = some ⟨3, "a.coff", .running, none, none⟩ := by
  intro requests start opening race
  have running : ((JoinRoom.empty 4).run requests).table.IsRunning 1 := by
    rw [IsRunning]
    decide +kernel
  have spares : ∀ request, .other request ∈ opening ++ .other (.markExited 2 (.normal 4)) :: [] →
      request.spares 1 = true := by
    intro request member
    simp [opening] at member
    rw [member]
    rfl
  have finished : race.IsOver := ⟨by decide +kernel, by decide +kernel⟩
  have started : race.launches 0 = .started 2 := by decide +kernel
  have exits : ((start.run opening).room.serve (.markExited 2 (.normal 4))).1 = .done := by
    decide +kernel
  obtain ⟨-, settled⟩ := no_child_stranded 4 requests 1 (fun _ => "a.coff") (.normal 0)
    (opening ++ .other (.markExited 2 (.normal 4)) :: []) (by decide) running spares
  have ran : (fresh 1 (fun _ => "a.coff") (.normal 0) ((JoinRoom.empty 4).run requests)).run
      (opening ++ .other (.markExited 2 (.normal 4)) :: []) = race := rfl
  rw [ran] at settled
  obtain ⟨nobody, children⟩ := settled finished
  have gone := (children 0 2 started).2 opening [] (.normal 4) rfl exits
  exact ⟨finished, nobody, started, gone, by decide +kernel, by decide +kernel⟩

end LaunchRace

end Minikernel
