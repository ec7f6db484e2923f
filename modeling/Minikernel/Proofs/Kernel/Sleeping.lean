import Minikernel.Proofs.Kernel.Accounts

/-!
A caller that joins a live child sleeps, and looks at the child again when that has ended. It finds
what a join from the start would find there: whatever happened in between, a child that still waits
to be joined has kept its parent. So a history need not tell sleepers from new callers.
-/

namespace Minikernel

namespace Kernel

open ProcessTable

variable {kernel after : Kernel} {request : Request} {caller pid : Pid}

def Under (kernel : Kernel) (caller pid : Pid) : Prop :=
  pid < kernel.table.nextPid ∧ ∀ info, kernel.table.find? pid = some info →
    info.parent = some caller ∨ info.parent = none

theorem Under.step (sound : kernel.Sound) (under : kernel.Under caller pid)
    (step : kernel.Step request after) : after.Under caller pid := by
  have soundAfter := sound.step step
  obtain ⟨entered, kin⟩ := under
  cases step with
  | same | halted | computed | scheduled => exact ⟨entered, kin⟩
  | launched _ _ _ unused =>
      refine ⟨UInt32.lt_trans entered (lt_succ_of_le_maxPid unused), ?_⟩
      intro info found
      obtain ⟨member, numbered⟩ :=
        (find?_eq_some_iff soundAfter.orderly.sound.distinct).mp found
      rcases List.mem_cons.mp member with rfl | old
      · rw [← numbered] at entered
        exact absurd entered (UInt32.lt_irrefl _)
      · exact kin info ((find?_eq_some_iff sound.orderly.sound.distinct).mpr ⟨old, numbered⟩)
  | @finished ending status process held =>
      obtain ⟨record, found, runs⟩ := sound.record_of_process held
      rw [finish_eq held]
      refine ⟨?_, ?_⟩
      · show pid < (kernel.table.depart ending status).nextPid
        rwa [(depart_numbers found runs status).1]
      · intro later departed
        obtain ⟨info, old, remains⟩ :=
          remains_of_mem_depart sound.orderly.sound found runs (mem_of_find? departed)
        have numbered := remains.same_pid.symm.trans (find?_pid departed)
        have before := kin info
          ((find?_eq_some_iff sound.orderly.sound.distinct).mpr ⟨old, numbered⟩)
        cases remains with
        | untouched => exact before
        | released => exact .inr rfl
        | kept => exact before
  | joined | taken =>
      refine ⟨entered, ?_⟩
      intro info found
      dsimp only at found
      rw [find?_reclaim] at found
      split at found
      · cases found
      · exact kin info found

theorem Under.run (sound : kernel.Sound) (under : kernel.Under caller pid)
    (requests : List Request) : (kernel.run requests).Under caller pid :=
  sound.run_induction (motive := fun kernel => kernel.Under caller pid) under
    (fun _ _ _ sound under step => under.step sound step) requests

theorem Sound.rejoin_eq_join (sound : kernel.Sound)
    (asleep : kernel.table.join pid caller = .blocked) (requests : List Request)
    (ended : (kernel.run requests).table.isLive pid = false) :
    (kernel.run requests).table.rejoin pid = (kernel.run requests).table.join pid caller := by
  obtain ⟨info, found, -, child⟩ := join_eq_blocked_iff.mp asleep
  have under : kernel.Under caller pid := by
    refine ⟨sound.orderly.sound.numbered pid info found, ?_⟩
    intro same refound
    rw [found] at refound
    cases refound
    exact .inl child
  have later := (under.run sound requests).2
  have orderly := (sound.run requests).orderly
  generalize (kernel.run requests).table = table at ended later orderly
  cases held : table.find? pid with
  | none => rw [rejoin_of_missing held, join_of_missing held]
  | some last =>
      have member := mem_of_find? held
      have exited : last.state = .exited := by
        rcases orderly.started last member with runs | exited
        · simp [isLive_of_find? held, ProcessInfo.isLive, runs] at ended
        · exact exited
      have parented := orderly.joinable last member exited
      have still := (later last held).resolve_right parented
      exact (join_of_parent held still).symm

end Kernel

end Minikernel
