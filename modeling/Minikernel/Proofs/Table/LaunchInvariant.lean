import Minikernel.Proofs.Table.LaunchStep
import Minikernel.Proofs.Table.Parentless

/-!
What holds at every moment of a race of starts with the end of their parent. A child belongs to one
start alone, and what the table holds of it follows from how far that start has come; the parent
runs until it leaves; and once it has left, a child can be under it only while its start has still
to look at the parent again. Each move keeps this.
-/

namespace Minikernel

namespace LaunchRace

open ProcessTable

variable {count : Nat} {race : LaunchRace count} {parent child pid : Pid} {after : JoinRoom}
  {request : JoinRoom.Request} {reply : JoinRoom.Reply}

theorem move_parent (race : LaunchRace count) (move : Move count) :
    (race.move move).parent = race.parent := by
  cases move <;> rfl

theorem run_parent (race : LaunchRace count) (moves : List (Move count)) :
    (race.run moves).parent = race.parent := by
  induction moves generalizing race with
  | nil => rfl
  | cons first rest ih => exact (ih (race.move first)).trans (move_parent race first)

theorem apart_update {launches : Fin count → Launch} {index : Fin count} {next : Launch}
    (apart : ∀ first second child, (launches first).child? = some child →
      (launches second).child? = some child → first = second)
    (alone : ∀ other child, (launches other).child? = some child → next.child? = some child →
      other = index) (first second : Fin count) (child : Pid)
    (ofFirst : (Function.update launches index next first).child? = some child)
    (ofSecond : (Function.update launches index next second).child? = some child) :
    first = second := by
  by_cases isFirst : first = index
  · by_cases isSecond : second = index
    · rw [isFirst, isSecond]
    · subst isFirst
      rw [Function.update_self] at ofFirst
      rw [Function.update_of_ne isSecond] at ofSecond
      exact (alone second child ofSecond ofFirst).symm
  · rw [Function.update_of_ne isFirst] at ofFirst
    by_cases isSecond : second = index
    · subst isSecond
      rw [Function.update_self] at ofSecond
      exact alone first child ofFirst ofSecond
    · rw [Function.update_of_ne isSecond] at ofSecond
      exact apart first second child ofFirst ofSecond

structure Held (race : LaunchRace count) : Prop where
  below : race.parent ≠ kernelPid
  sound : race.room.table.Sound
  entered : race.parent < race.room.table.nextPid
  hosts : Hosts race.room.table race.parent race.leaving
  children : ∀ index child, (race.launches index).child? = some child →
    child < race.room.table.nextPid ∧ child ≠ race.parent ∧
      Fits race.parent (race.launches index) (race.room.table.find? child)
  apart : ∀ first second child, (race.launches first).child? = some child →
    (race.launches second).child? = some child → first = second
  kin : race.leaving = .gone → ∀ info ∈ race.room.table.records, info.parent = some race.parent →
    ∃ index, (race.launches index).cutsOff? = some info.pid

structure Spared (race : LaunchRace count) (own : Option Pid) (after : JoinRoom) : Prop where
  sound : after.table.Sound
  grows : race.room.table.nextPid ≤ after.table.nextPid
  children : ∀ index child, (race.launches index).child? = some child → own ≠ some child →
    Fits race.parent (race.launches index) (after.table.find? child)

namespace Held

theorem spared (held : race.Held) (own : Option Pid) : race.Spared own race.room :=
  ⟨held.sound, UInt32.le_refl _, fun index child called _ => (held.children index child called).2.2⟩

theorem spared_step (held : race.Held) (step : race.room.Step request reply after) :
    race.Spared request.setsUp? after := by
  refine ⟨JoinRoom.step_sound held.sound step, (JoinRoom.step_nextPid held.sound step).1, ?_⟩
  intro index child called quiet
  obtain ⟨entered, -, fits⟩ := held.children index child called
  exact fits.step (JoinRoom.step_change held.sound.distinct step child) (UInt32.ne_of_lt entered)
    quiet

theorem launch (held : race.Held) {index : Fin count} {own : Option Pid} {next : Launch}
    (spared : race.Spared own after)
    (mine : ∀ child, own = some child → (race.launches index).child? = some child)
    (hosts : Hosts after.table race.parent race.leaving)
    (called : ∀ child, next.child? = some child →
      ((race.launches index).child? = some child ∨ child = race.room.table.nextPid) ∧
        child < after.table.nextPid ∧ Fits race.parent next (after.table.find? child))
    (kin : race.leaving = .gone → ∀ info ∈ after.table.records, info.parent = some race.parent →
      (∃ other ≠ index, (race.launches other).cutsOff? = some info.pid) ∨
        next.cutsOff? = some info.pid) :
    Held { race with room := after, launches := Function.update race.launches index next } := by
  have alone : ∀ other child, (race.launches other).child? = some child →
      next.child? = some child → other = index := by
    intro other child theirs ours
    rcases (called child ours).1 with old | fresh
    · exact held.apart other index child theirs old
    · have entered := (held.children other child theirs).1
      rw [fresh] at entered
      exact absurd entered (UInt32.lt_irrefl _)
  refine ⟨held.below, spared.sound, UInt32.lt_of_lt_of_le held.entered spared.grows, hosts,
    ?_, ?_, ?_⟩
  · intro other child theirs
    dsimp only at theirs ⊢
    by_cases same : other = index
    · subst same
      rw [Function.update_self] at theirs ⊢
      obtain ⟨source, entered, fits⟩ := called child theirs
      refine ⟨entered, ?_, fits⟩
      rcases source with old | fresh
      · exact (held.children other child old).2.1
      · rw [fresh]
        exact (UInt32.ne_of_lt held.entered).symm
    · rw [Function.update_of_ne same] at theirs ⊢
      obtain ⟨entered, stranger, -⟩ := held.children other child theirs
      refine ⟨UInt32.lt_of_lt_of_le entered spared.grows, stranger, ?_⟩
      refine spared.children other child theirs fun ours => same ?_
      exact held.apart other index child theirs (mine child ours)
  · exact apart_update held.apart alone
  · intro gone info member child
    dsimp only
    rcases kin gone info member child with ⟨other, differs, late⟩ | late
    · refine ⟨other, ?_⟩
      rwa [Function.update_of_ne differs]
    · refine ⟨index, ?_⟩
      rwa [Function.update_self]

theorem child_of_cutsOff {launch : Launch} (late : launch.cutsOff? = some child) :
    launch.child? = some child := by
  cases launch <;> simp_all [Launch.cutsOff?, Launch.child?]

theorem childless (held : race.Held) {index : Fin count} {next : Launch}
    (before : (race.launches index).child? = none) (after : next.child? = none) :
    Held { race with launches := Function.update race.launches index next } := by
  refine held.launch (held.spared none) (by simp) held.hosts (by simp [after]) ?_
  intro gone info member kin
  obtain ⟨other, late⟩ := held.kin gone info member kin
  refine .inl ⟨other, ?_, late⟩
  rintro rfl
  rw [child_of_cutsOff late] at before
  cases before

theorem enter (held : race.Held) {index : Fin count} (stage : race.launches index = .entering)
    (room : race.room.table.live < race.room.table.maxRecords)
    (unused : race.room.table.nextPid ≤ maxPid) (name : String) :
    Held { race with
      room := { race.room with table := race.room.table.enter name (some race.parent) }
      launches := Function.update race.launches index (.rechecking race.room.table.nextPid) } := by
  have step : race.room.Step (.register name (some race.parent)) _ _ := .registered room unused
  refine held.launch (held.spared_step step) (by simp [JoinRoom.Request.setsUp?]) ?_ ?_ ?_
  · exact hosts_after held.sound step held.entered held.hosts (by simp [JoinRoom.Request.setsUp?])
      (by simp)
  · rintro child ⟨⟩
    refine ⟨.inr rfl, lt_succ_of_le_maxPid unused, ?_⟩
    dsimp only
    rw [find?_enter, if_pos rfl]
    exact .created rfl rfl (.inl rfl)
  · intro gone info member kin
    rcases List.mem_cons.mp member with rfl | old
    -- A child that is entered too late to be cut off has the second look still before it.
    · exact .inr rfl
    · obtain ⟨other, late⟩ := held.kin gone info old kin
      refine .inl ⟨other, ?_, late⟩
      rintro rfl
      rw [stage] at late
      cases late

theorem recheck (held : race.Held) {index : Fin count}
    (stage : race.launches index = .rechecking child) :
    Held { race with
      launches := Function.update race.launches index
        (if race.room.table.admits race.parent then .starting child else .detaching child) } := by
  have ours : (race.launches index).child? = some child := by rw [stage]; rfl
  obtain ⟨entered, -, fits⟩ := held.children index child ours
  obtain ⟨info, found, created, kin⟩ := fits.waiting (by rw [stage]; rfl)
  refine held.launch (held.spared none) (by simp) held.hosts ?_ ?_
  · intro other asked
    have same : other = child := by
      split at asked <;> exact (Option.some.inj asked).symm
    subst same
    refine ⟨.inl ours, entered, ?_⟩
    rw [found]
    exact .created (by split <;> rfl) created kin
  · intro gone info member kin
    have dead : race.room.table.isLive race.parent = false := by
      have hosts := held.hosts
      rwa [gone] at hosts
    -- The parent recorded its exit before it cut its children off, so this look sees it ended.
    have refused : race.room.table.admits race.parent = false := by
      simp [admits, held.below, dead]
    obtain ⟨other, late⟩ := held.kin gone info member kin
    by_cases same : other = index
    · subst same
      rw [stage] at late
      rw [refused]
      exact .inr late
    · exact .inl ⟨other, same, late⟩

theorem created (held : race.Held) {index : Fin count}
    (pending : (race.launches index).pending? = some child) :
    ∃ info, race.room.table.find? child = some info ∧ info.state = .created ∧
      (info.parent = some race.parent ∨ info.parent = none) := by
  have ours : (race.launches index).child? = some child := by
    cases stage : race.launches index <;> simp_all [Launch.pending?, Launch.child?]
  exact (held.children index child ours).2.2.waiting (by rw [pending]; rfl)

theorem answered (held : race.Held) {index : Fin count} {next : Launch}
    (step : race.room.Step request reply after) (asks : request.setsUp? = some child)
    (ours : (race.launches index).child? = some child) (same : next.child? = some child)
    (fits : Fits race.parent next (after.table.find? child))
    (cut : race.leaving = .gone → ∀ info, after.table.find? child = some info →
      info.parent ≠ some race.parent) :
    Held { race with room := after, launches := Function.update race.launches index next } := by
  obtain ⟨entered, stranger, -⟩ := held.children index child ours
  refine held.launch (held.spared_step step) ?_ ?_ ?_ ?_
  · intro other asked
    rw [asks] at asked
    cases asked
    exact ours
  · refine hosts_after held.sound step held.entered held.hosts ?_ ?_
    · rw [asks]
      exact fun wrong => stranger (Option.some.inj wrong)
    · rintro status rfl
      cases asks
  · intro other asked
    rw [same] at asked
    cases asked
    exact ⟨.inl ours, UInt32.lt_of_lt_of_le entered (JoinRoom.step_nextPid held.sound step).1, fits⟩
  · intro gone info member kin
    rcases child_origin held.sound step member kin with ⟨old, before, numbered, kept⟩ | ⟨_, rfl, _⟩
    · obtain ⟨other, late⟩ := held.kin gone old before kept
      rw [numbered] at late
      refine .inl ⟨other, ?_, late⟩
      -- The one record that this start could still have to see to has no such parent now.
      rintro rfl
      have own : info.pid = child := Option.some.inj ((child_of_cutsOff late).symm.trans ours)
      have distinct := JoinRoom.step_distinct held.sound step
      exact cut gone info ((find?_eq_some_iff distinct).mpr ⟨member, own⟩) kin
    · cases asks

theorem detach (held : race.Held) {index : Fin count}
    (stage : race.launches index = .detaching child) :
    Held { race with
      room := (race.room.serve (.detach child)).2
      launches := Function.update race.launches index (.starting child) } := by
  have pending : (race.launches index).pending? = some child := by rw [stage]; rfl
  obtain ⟨info, found, created, -⟩ := held.created pending
  have detached := JoinRoom.find?_serve_detach found
  refine held.answered (race.room.serve_step (.detach child)) rfl (by rw [stage]; rfl) rfl ?_ ?_
  · rw [detached]
    exact .created rfl created (.inr rfl)
  · intro _ later found
    rw [detached] at found
    cases found
    exact nofun

theorem start (held : race.Held) {index : Fin count}
    (stage : race.launches index = .starting child) :
    (race.room.serve (.markRunning child)).1 = .done ∧
      Held { race with
        room := (race.room.serve (.markRunning child)).2
        launches := Function.update race.launches index (.started child) } := by
  have ours : (race.launches index).child? = some child := by rw [stage]; rfl
  have pending : (race.launches index).pending? = some child := by rw [stage]; rfl
  obtain ⟨info, found, created, kin⟩ := held.created pending
  have served := JoinRoom.serve_markRunning found created
  have runs : (race.room.serve (.markRunning child)).2.table.find? child =
      some { info with state := .running } := by
    rw [served]
    exact find?_modify_self _ (fun _ => rfl) found
  refine ⟨by rw [served], ?_⟩
  refine held.answered (race.room.serve_step (.markRunning child)) rfl ours rfl ?_ ?_
  · rw [runs]
    exact .running rfl kin
  · intro gone later refound under
    rw [runs] at refound
    cases refound
    obtain ⟨other, late⟩ := held.kin gone info (mem_of_find? found) under
    rw [find?_pid found] at late
    obtain rfl := held.apart other index child (child_of_cutsOff late) ours
    rw [stage] at late
    cases late

theorem never_discards (held : race.Held) (index : Fin count) (child : Pid) :
    race.launches index ≠ .discarding child := by
  intro stage
  have ours : (race.launches index).child? = some child := by rw [stage]; rfl
  have fits := (held.children index child ours).2.2
  generalize race.room.table.find? child = record at fits
  rw [stage] at fits
  cases fits with
  | created pending => cases pending

theorem next (held : race.Held) (index : Fin count) : (race.move (.launch index)).Held := by
  rw [move]
  cases stage : race.launches index with
  | asking =>
      refine held.childless (by rw [stage]; rfl) ?_
      rw [apply_ite Launch.child?]
      exact ite_self _
  | entering =>
      have step := race.room.serve_step (.register (race.names index) (some race.parent))
      rw [Launch.next]
      generalize race.room.serve (.register (race.names index) (some race.parent)) = result at step
      obtain ⟨reply, after⟩ := result
      cases step with
      | refused => exact held.childless (by rw [stage]; rfl) rfl
      | registered room unused => exact held.enter stage room unused _
  | rechecking child => exact held.recheck stage
  | detaching child => exact held.detach stage
  | starting child =>
      obtain ⟨done, after⟩ := held.start stage
      rw [Launch.next]
      generalize race.room.serve (.markRunning child) = result at done after
      obtain ⟨reply, room⟩ := result
      cases done
      exact after
  | started child | refused =>
      dsimp only [Launch.next]
      rw [← stage, Function.update_eq_self]
      exact held
  | discarding child => exact absurd stage (held.never_discards index child)

theorem elsewhere (held : race.Held) (spared : race.Spared none after) {leaving : Leaving}
    (hosts : Hosts after.table race.parent leaving)
    (kin : leaving = .gone → ∀ info ∈ after.table.records, info.parent = some race.parent →
      ∃ index, (race.launches index).cutsOff? = some info.pid) :
    Held { race with room := after, leaving := leaving } := by
  refine ⟨held.below, spared.sound, UInt32.lt_of_lt_of_le held.entered spared.grows, hosts, ?_,
    held.apart, kin⟩
  intro index child ours
  obtain ⟨entered, stranger, -⟩ := held.children index child ours
  exact ⟨UInt32.lt_of_lt_of_le entered spared.grows, stranger,
    spared.children index child ours (by simp)⟩

theorem leave (held : race.Held) : (race.move .leave).Held := by
  rw [move]
  cases leaving : race.leaving with
  | staying =>
      have hosts := held.hosts
      rw [leaving] at hosts
      obtain ⟨info, found, runs⟩ := hosts
      have step := race.room.serve_step (.markExited race.parent race.status)
      refine held.elsewhere (held.spared_step step) ?_ (by simp)
      have done : (race.room.serve (.markExited race.parent race.status)).1 = .done := by
        rw [JoinRoom.serve_markExited found runs]
      rw [done] at step
      have exited := (JoinRoom.step_exit held.sound step).2
      show ProcessTable.isLive _ _ = false
      rw [Bool.eq_false_iff, ne_eq, isLive_iff_stage]
      omega
  | orphaning =>
      have hosts := held.hosts
      rw [leaving] at hosts
      have step := race.room.serve_step (.orphanChildren race.parent)
      refine held.elsewhere (held.spared_step step)
        (dead_after held.sound step held.entered hosts) ?_
      exact fun _ info member kin => absurd kin (orphanChildren_childless member)
  | gone =>
      dsimp only [Leaving.next]
      rw [← leaving]
      exact held

theorem other (held : race.Held) (spares : request.spares race.parent = true) :
    (race.move (.other request)).Held := by
  rw [move]
  have step := race.room.serve_step request
  have quiet : request.setsUp? = none := by
    cases request <;> first | rfl | cases spares
  have spared := held.spared_step step
  rw [quiet] at spared
  refine held.elsewhere spared ?_ ?_
  · refine hosts_after held.sound step held.entered held.hosts (by simp [quiet]) ?_
    rintro status rfl
    simp [JoinRoom.Request.spares] at spares
  · intro gone info member kin
    rcases child_origin held.sound step member kin with ⟨old, before, numbered, kept⟩ | ⟨_, rfl, _⟩
    · rw [← numbered]
      exact held.kin gone old before kept
    · cases spares

theorem move (held : race.Held) {move : Move count}
    (spares : ∀ request, move = .other request → request.spares race.parent = true) :
    (race.move move).Held := by
  cases move with
  | launch index => exact held.next index
  | leave => exact held.leave
  | other request => exact held.other (spares request rfl)

theorem run (held : race.Held) {moves : List (Move count)}
    (spares : ∀ request, .other request ∈ moves → request.spares race.parent = true) :
    (race.run moves).Held := by
  induction moves generalizing race with
  | nil => exact held
  | cons first rest ih =>
      have moved := held.move fun request same => spares request (same ▸ List.mem_cons_self)
      refine ih moved fun request member => ?_
      rw [move_parent]
      exact spares request (List.mem_cons_of_mem _ member)

end Held

end LaunchRace

end Minikernel
