import Minikernel.Kernel.Machine
import Minikernel.Proofs.Kernel.Shutdown

/-!
The machine runs one process at a time, step by step. Each of its steps is made of requests by
processes, so whatever holds of all sequences of requests holds of the machine, and a boot of the
machine is one of the runs of a root process.
-/

namespace Minikernel

namespace Kernel

open ProcessTable

variable {kernel middle after : Kernel} {request : Request} {pid : Pid} {process : Process}

theorem run_append (kernel : Kernel) (first rest : List Request) :
    kernel.run (first ++ rest) = (kernel.run first).run rest := by
  induction first generalizing kernel with
  | nil => rfl
  | cons request others ih => exact ih (kernel.serve request)

def Leads (kernel after : Kernel) : Prop :=
  ∃ schedule, (∀ request ∈ schedule, request.byKernel = false) ∧ kernel.run schedule = after

theorem Leads.refl (kernel : Kernel) : kernel.Leads kernel :=
  ⟨[], by simp, rfl⟩

theorem Leads.trans (first : kernel.Leads middle) (second : middle.Leads after) :
    kernel.Leads after := by
  obtain ⟨earlier, insideEarlier, rfl⟩ := first
  obtain ⟨later, insideLater, rfl⟩ := second
  refine ⟨earlier ++ later, ?_, run_append kernel earlier later⟩
  intro request member
  rcases List.mem_append.mp member with early | late
  · exact insideEarlier request early
  · exact insideLater request late

theorem leads_serve (kernel : Kernel) (inside : request.byKernel = false) :
    kernel.Leads (kernel.serve request) :=
  ⟨[request], by simpa using inside, rfl⟩

theorem schedule_leads (kernel : Kernel) (ready : List Pid) :
    kernel.Leads { kernel with ready := ready } :=
  leads_serve kernel (rfl : (Request.schedule ready).byKernel = false)

theorem Leads.sound (leads : kernel.Leads after) (sound : kernel.Sound) : after.Sound := by
  obtain ⟨schedule, -, rfl⟩ := leads
  exact sound.run schedule

theorem Sound.process_unique (sound : kernel.Sound) (held : kernel.process? pid = some process)
    {other : Process} (member : other ∈ kernel.processes) (same : other.pid = pid) :
    other = process := by
  obtain ⟨own, numbered⟩ := process?_eq_some held
  exact List.inj_on_of_nodup_map sound.distinct member own (same.trans numbered.symm)

theorem replace_leads (sound : kernel.Sound) (held : kernel.process? pid = some process)
    (context : Context) (same : context.pid = pid) (next : Program Int32) :
    kernel.Leads (Machine.replace kernel { process with context := context, next := next }) := by
  have served : Machine.replace kernel { process with context := context, next := next } =
      kernel.serve (.compute context next kernel.console) := by
    rw [Machine.replace, serve]
    congr 1
    refine List.map_congr_left fun other member => ?_
    show (if other.pid = context.pid then _ else _) = if other.pid = context.pid then _ else _
    by_cases own : other.pid = context.pid
    · rw [if_pos own, if_pos own, sound.process_unique held member (own.trans same)]
    · rw [if_neg own, if_neg own]
  rw [served]
  exact leads_serve kernel rfl

theorem console_leads (sound : kernel.Sound) (held : kernel.process? pid = some process)
    (console : Console) : kernel.Leads { kernel with console := console } := by
  have unchanged : kernel.processes.map (fun other =>
      if other.pid = process.context.pid then
        { other with context := process.context, next := process.next }
      else other) = kernel.processes := by
    refine (List.map_congr_left fun other member => ?_).trans (List.map_id _)
    by_cases own : other.pid = process.context.pid
    · have same := sound.process_unique held member (own.trans (process?_eq_some held).2)
      rw [if_pos own, same]
      rfl
    · rw [if_neg own]
      rfl
  have served : { kernel with console := console } =
      kernel.serve (.compute process.context process.next console) := by
    rw [serve, unchanged]
  rw [served]
  exact leads_serve kernel rfl

structure Answers (kernel : Kernel) (process : Process) (reply : Reply × Kernel × Context) :
    Prop where
  leads : kernel.Leads reply.2.1
  stays : reply.2.1.process? process.pid = some process
  own : reply.2.2.pid = process.pid

theorem exec_answers (sound : kernel.Sound) (held : kernel.process? process.pid = some process)
    (name : String) (arguments : Arguments) :
    kernel.Leads (kernel.exec process.context.pid name arguments).2 ∧
      (kernel.exec process.context.pid name arguments).2.process? process.pid = some process := by
  have below := sound.pid_ne_kernel held
  have inside : (Request.exec process.context.pid name arguments).byKernel = false :=
    decide_eq_false below
  refine ⟨leads_serve kernel inside, ?_⟩
  rcases exec_cases sound.orderly.sound process.context.pid name arguments with
    ⟨cause, failed⟩ | ⟨child, left, -, -, -, -, numbered, -, -, launched⟩
  · rw [failed]
    exact held
  · rw [launched]
    obtain ⟨info, found, -⟩ := sound.record_of_process held
    have differs : child.pid ≠ process.pid := by
      rw [numbered]
      exact (UInt32.ne_of_lt (sound.orderly.sound.numbered _ _ found)).symm
    show (child :: kernel.processes).find? _ = _
    rw [List.find?_cons_of_neg (by simpa using differs)]
    exact held

theorem handleExec_answers (sound : kernel.Sound)
    (held : kernel.process? process.pid = some process) (name : UInt32) (count : Int32)
    (pointers : UInt32) :
    kernel.Answers process (.value (kernel.handleExec process.context name count pointers).1,
      (kernel.handleExec process.context name count pointers).2, process.context) := by
  unfold handleExec
  cases execRequest? process.context name count pointers with
  | none => exact ⟨.refl kernel, held, rfl⟩
  | some asked =>
      obtain ⟨text, arguments⟩ := asked
      obtain ⟨leads, stays⟩ := exec_answers sound held text arguments
      dsimp only
      generalize kernel.exec process.context.pid text arguments = result at leads stays
      obtain ⟨cause | child, after⟩ := result
      · exact ⟨leads, stays, rfl⟩
      · exact ⟨leads, stays, rfl⟩

theorem join_answers (sound : kernel.Sound) (held : kernel.process? process.pid = some process)
    (target : Int32) (status : UInt32) :
    kernel.Answers process (kernel.handleJoin process.context target status) := by
  have below := sound.pid_ne_kernel held
  have refused : ∀ reply, kernel.Answers process (reply, kernel, process.context) :=
    fun _ => ⟨.refl kernel, held, rfl⟩
  unfold handleJoin
  dsimp only
  split
  · exact refused _
  · split
    · exact refused _
    · cases joined : kernel.join process.context.pid target.toUInt32 with
      | failed cause => exact refused _
      | blocked => exact refused _
      | status ended after =>
          have inside : (Request.join process.context.pid target.toUInt32).byKernel = false :=
            decide_eq_false below
          have leads := leads_serve kernel inside
          rw [serve, joined] at leads
          obtain ⟨table, -, rfl⟩ := join_eq_status_iff.mp joined
          dsimp only
          split
          · exact ⟨leads, held, rfl⟩
          · exact ⟨leads, held, rfl⟩

theorem read_answers (sound : kernel.Sound) (held : kernel.process? process.pid = some process)
    (descriptor : Int32) (buffer : UInt32) (size : Int32) :
    kernel.Answers process
      (.value (kernel.handleRead process.context descriptor buffer size).1,
        (kernel.handleRead process.context descriptor buffer size).2) := by
  unfold handleRead
  split
  · exact ⟨.refl kernel, held, rfl⟩
  · dsimp only
    split
    · exact ⟨console_leads sound held _, held, rfl⟩
    · exact ⟨console_leads sound held _, held, rfl⟩

theorem write_answers (sound : kernel.Sound) (held : kernel.process? process.pid = some process)
    (descriptor : Int32) (buffer : UInt32) (size : Int32) :
    kernel.Answers process
      (.value (kernel.handleWrite process.context descriptor buffer size).1,
        (kernel.handleWrite process.context descriptor buffer size).2, process.context) := by
  unfold handleWrite
  split
  · exact ⟨.refl kernel, held, rfl⟩
  · split
    · exact ⟨.refl kernel, held, rfl⟩
    · dsimp only
      split
      · exact ⟨console_leads sound held _, held, rfl⟩
      · exact ⟨console_leads sound held _, held, rfl⟩

theorem syscall_answers (sound : kernel.Sound) (held : kernel.process? process.pid = some process)
    (call : Registers) : kernel.Answers process (kernel.syscall process.context call) := by
  have unchanged : ∀ reply, kernel.Answers process (reply, kernel, process.context) :=
    fun _ => ⟨.refl kernel, held, rfl⟩
  unfold syscall
  split
  · exact unchanged _
  · have inside : (Request.halt process.context.pid).byKernel = false := rfl
    have leads : kernel.Leads (kernel.halt process.context.pid).2 := leads_serve kernel inside
    have stays : (kernel.halt process.context.pid).2.process? process.pid = some process := by
      rw [halt]
      split <;> exact held
    generalize kernel.halt process.context.pid = result at leads stays
    obtain ⟨allowed, after⟩ := result
    cases allowed <;> exact ⟨leads, stays, rfl⟩
  · exact unchanged _
  · exact handleExec_answers sound held _ _ _
  · exact join_answers sound held _ _
  · exact unchanged _
  · exact unchanged _
  · exact unchanged _
  · exact read_answers sound held _ _ _
  · exact write_answers sound held _ _ _
  · dsimp only [handleClose]
    split <;> exact ⟨.refl kernel, held, rfl⟩

end Kernel

namespace Machine

open Kernel

variable {machine : Machine} {process : Process}

theorem conclude_leads {kernel : Kernel} {pid : Pid} (held : kernel.process? pid = some process)
    (status : ExitStatus) : kernel.Leads (conclude kernel pid status) := by
  have ends : kernel.Leads (kernel.serve (.finish pid status)) := leads_serve kernel rfl
  rw [serve, held] at ends
  exact ends.trans (schedule_leads _ _)

theorem advance_leads (sound : machine.kernel.Sound)
    (held : machine.kernel.process? process.pid = some process) :
    machine.kernel.Leads (machine.advance process).kernel := by
  unfold advance
  dsimp only
  split
  · exact conclude_leads held _
  · exact conclude_leads held _
  · exact conclude_leads held _
  · exact replace_leads sound held process.context rfl _
  · rename_i changed next stage
    exact replace_leads sound held (process.context.adopt changed) rfl next
  · rename_i call next stage
    obtain ⟨leads, stays, own⟩ := syscall_answers sound held call
    generalize machine.kernel.syscall process.context call = result at leads stays own
    obtain ⟨reply, after, context⟩ := result
    have goes := fun next => leads.trans (replace_leads (leads.sound sound) stays context own next)
    cases reply with
    | value result => exact goes _
    | trap cause => exact goes _
    | blocked child => exact leads.trans (schedule_leads _ _)
  · rename_i call next stage
    obtain ⟨leads, stays, own⟩ := syscall_answers sound held call
    exact leads.trans (replace_leads (leads.sound sound) stays _ own _)
  · exact schedule_leads _ _
  · exact replace_leads sound held process.context rfl _

theorem step_leads (sound : machine.kernel.Sound) {after : Machine}
    (stepped : machine.step = some after) : machine.kernel.Leads after.kernel := by
  unfold step at stepped
  split at stepped
  · cases stepped
  · rename_i pid rest ready
    split at stepped
    · rename_i process held
      cases stepped
      have numbered := (process?_eq_some held).2
      exact advance_leads sound (numbered ▸ held)
    · cases stepped
      exact schedule_leads _ _

theorem run_leads (machine : Machine) (sound : machine.kernel.Sound) (bound : Nat) :
    machine.kernel.Leads (machine.run bound).kernel := by
  induction bound generalizing machine with
  | zero => exact .refl _
  | succ bound ih =>
      rw [run]
      cases stepped : machine.step with
      | none => exact .refl _
      | some after =>
          have first := step_leads sound stepped
          exact first.trans (ih after (first.sound sound))

/-- A boot of the machine is a run of its root process, in the order that the machine keeps. -/
theorem boot_runRoot {name : String} {arguments : Arguments} {shutdown : Shutdown} {after : Machine}
    (sound : machine.kernel.Sound)
    (stopped : machine.boot name arguments = .ok (.stopped shutdown after)) :
    ∃ schedule, (∀ request ∈ schedule, request.byKernel = false) ∧
      machine.kernel.runRoot name arguments schedule = some (shutdown, after.kernel) := by
  obtain ⟨⟨root, settled⟩, started, stopped⟩ := bind_eq_ok_iff.mp stopped
  unfold exec at started
  split at started
  · rename_i child launched begun
    cases started
    have leads : launched.Leads (settle { machine with kernel := launched }).kernel := by
      refine run_leads { machine with kernel := launched } ?_ stepBound
      have served := sound.run [.exec kernelPid name arguments]
      rw [Kernel.run, Kernel.run, serve, begun] at served
      exact served
    obtain ⟨schedule, inside, reached⟩ := leads
    refine ⟨schedule, inside, ?_⟩
    dsimp only at stopped
    rw [runRoot, begun]
    dsimp only
    rw [reached]
    cases ended : (settle { machine with kernel := launched }).kernel.shutdown? root with
    | none =>
        rw [ended] at stopped
        cases stopped
    | some result =>
        rw [ended] at stopped
        cases stopped
        rfl
  · cases started

end Machine

end Minikernel
