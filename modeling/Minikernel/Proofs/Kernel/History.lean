import Minikernel.Proofs.Kernel.Starting

/-!
Sequences of what is asked of a kernel, by any callers and in any order. Each request is served as
a whole before the next; all facts about such sequences follow from the cases of `serve_step`.

A join of a live child leaves the kernel as it is: its caller sleeps, and asks again when it wakes.
Between requests processes compute, in an order that is up to the scheduler.
-/

namespace Minikernel

namespace Kernel

open ProcessTable

inductive Request where
  | exec (parent : Pid) (name : String) (arguments : Arguments)
  | finish (pid : Pid) (status : ExitStatus)
  | join (caller pid : Pid)
  | tryJoin (caller pid : Pid)
  | halt (caller : Pid)
  /-- A process goes on by itself: its memory, its program and the console change. -/
  | compute (context : Context) (next : Program Int32) (console : Console)
  | schedule (ready : List Pid)

def serve (kernel : Kernel) : Request → Kernel
  | .exec parent name arguments => (kernel.exec parent name arguments).2
  | .finish pid status =>
      match kernel.process? pid with
      | some _ => kernel.finish pid status
      | none => kernel
  | .join caller pid =>
      match kernel.join caller pid with
      | .status _ after => after
      | .failed _ | .blocked => kernel
  | .tryJoin caller pid =>
      match kernel.tryJoin caller pid with
      | .ok (_, after) => after
      | .error _ => kernel
  | .halt caller => (kernel.halt caller).2
  | .compute context next console =>
      { kernel with
        processes := kernel.processes.map fun process =>
          if process.pid = context.pid then { process with context := context, next := next }
          else process
        console := console }
  | .schedule ready => { kernel with ready := ready }

def run (kernel : Kernel) : List Request → Kernel
  | [] => kernel
  | request :: rest => (kernel.serve request).run rest

def child? (kernel : Kernel) : Request → Option Pid
  | .exec parent name arguments => (kernel.exec parent name arguments).1.toOption
  | _ => none

def children (kernel : Kernel) : List Request → List Pid
  | [] => []
  | request :: rest => (kernel.child? request).toList ++ (kernel.serve request).children rest

inductive Step (kernel : Kernel) : Request → Kernel → Prop
  | same {request} : Step kernel request kernel
  | launched {parent name arguments process left} : kernel.halted = false →
      kernel.table.admits parent = true → kernel.table.live < kernel.table.maxRecords →
      kernel.table.nextPid ≤ maxPid → process.pid = kernel.table.nextPid →
      kernel.frames.reserve process.pages = .ok left →
      Step kernel (.exec parent name arguments) (kernel.launch name parent process left)
  | finished {pid status process} : kernel.process? pid = some process →
      Step kernel (.finish pid status) (kernel.finish pid status)
  | joined {caller pid info status} : kernel.table.Ripe pid info status →
      info.parent = some caller →
      Step kernel (.join caller pid) { kernel with table := kernel.table.reclaim pid }
  | taken {caller pid info status} : kernel.table.Ripe pid info status →
      info.parent = some caller →
      Step kernel (.tryJoin caller pid) { kernel with table := kernel.table.reclaim pid }
  | halted {caller} : kernel.root ≠ kernelPid → caller = kernel.root →
      Step kernel (.halt caller) { kernel with halted := true }
  | computed {context next console} :
      Step kernel (.compute context next console) (kernel.serve (.compute context next console))
  | scheduled {ready} : Step kernel (.schedule ready) { kernel with ready := ready }

variable {kernel after : Kernel} {caller pid : Pid}

theorem join_eq_status_iff {status : ExitStatus} :
    kernel.join caller pid = .status status after ↔
      ∃ table, kernel.table.join pid caller = .joined status table ∧
        { kernel with table := table } = after := by
  unfold join
  cases kernel.table.join pid caller <;> simp

theorem tryJoin_eq_ok_iff {taken : Option ExitStatus} :
    kernel.tryJoin caller pid = .ok (taken, after) ↔
      (∃ status table, kernel.table.take pid caller = .ok (status, table) ∧
        some status = taken ∧ { kernel with table := table } = after) ∨
      ∃ other, kernel.table.take pid caller = .error (.notYetExited other) ∧
        none = taken ∧ kernel = after := by
  unfold tryJoin
  cases kernel.table.take pid caller with
  | ok result =>
      obtain ⟨status, table⟩ := result
      simp
  | error cause => cases cause <;> simp

theorem step_join : kernel.Step (.join caller pid) (kernel.serve (.join caller pid)) := by
  rw [serve]
  cases result : kernel.join caller pid with
  | failed cause => exact .same
  | blocked => exact .same
  | status status after =>
      obtain ⟨table, joined, rfl⟩ := join_eq_status_iff.mp result
      obtain ⟨info, ripe, child, rfl⟩ := join_eq_joined_iff.mp joined
      exact .joined ripe child

theorem step_tryJoin :
    kernel.Step (.tryJoin caller pid) (kernel.serve (.tryJoin caller pid)) := by
  rw [serve]
  cases result : kernel.tryJoin caller pid with
  | error cause => exact .same
  | ok given =>
      obtain ⟨taken, after⟩ := given
      rcases tryJoin_eq_ok_iff.mp result with
        ⟨status, table, took, -, rfl⟩ | ⟨other, -, -, rfl⟩
      · obtain ⟨info, ripe, child, rfl⟩ := take_eq_ok_iff.mp took
        exact .taken ripe child
      · exact .same

theorem serve_step (sound : kernel.table.Sound) (request : Request) :
    kernel.Step request (kernel.serve request) := by
  cases request with
  | exec parent name arguments =>
      rw [serve]
      rcases exec_cases sound parent name arguments with
        ⟨cause, failed⟩ |
        ⟨process, left, running, admitted, room, unused, numbered, -, reserved, started⟩
      · rw [failed]
        exact .same
      · rw [started]
        exact .launched running admitted room unused numbered reserved
  | finish pid status =>
      rw [serve]
      cases held : kernel.process? pid with
      | none => exact .same
      | some process => exact .finished held
  | join caller pid => exact step_join
  | tryJoin caller pid => exact step_tryJoin
  | halt caller =>
      rw [serve, halt]
      split
      · exact .same
      · rename_i allowed
        obtain ⟨rooted, own⟩ := not_or.mp allowed
        exact .halted rooted (not_not.mp own)
  | compute context next console => exact .computed
  | schedule ready => exact .scheduled

def smallLoader : Loader (Program Int32) where
  store := ⟨[.memory ⟨[("a.coff", (Image.build "a" []).bytes)]⟩]⟩
  entries := ⟨[("a", .done 0)]⟩

example : (boot ⟨64, 2, 4, none, false⟩ smallLoader (.fresh false)).children
    [.exec kernelPid "a.coff" [], .exec 1 "a.coff" [], .exec 9 "a.coff" []] = [1, 2] := by
  decide +kernel

end Kernel

end Minikernel
