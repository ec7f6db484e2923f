import Minikernel.Process.Joining

/-!
Sequences of requests to a table, by any callers and in any order. A history holds one moment
for each request: the room that the request met, from which the reply and the next room follow.

Each request is served as a whole before the next. A join that has to sleep is served in two
or more parts: it falls asleep, and goes on once it was woken.
-/

namespace Minikernel

namespace JoinRoom

inductive Request where
  | register (name : String) (parent : Option Pid)
  | markRunning (pid : Pid)
  | markExited (pid : Pid) (status : ExitStatus)
  | discard (pid : Pid)
  | detach (pid : Pid)
  | take (pid caller : Pid)
  | join (pid caller : Pid)
  | resume (index : Nat)
  | orphanChildren (parent : Pid)
deriving DecidableEq

inductive Reply where
  | registered (pid : Pid)
  | done
  | collected (status : ExitStatus)
  | orphaned (count : Nat)
  | asleep
  | failed (cause : ProcessError)
deriving DecidableEq

/-- The reply to an operation; one that failed leaves the room as it was. -/
def answer (room : JoinRoom) (result : Except ProcessError (Reply × JoinRoom)) :
    Reply × JoinRoom :=
  match result with
  | .ok given => given
  | .error cause => (.failed cause, room)

def answerJoin : Option JoinOutcome × JoinRoom → Reply × JoinRoom
  | (some (.joined status _), room) => (.collected status, room)
  | (some (.failed cause), room) => (.failed cause, room)
  | (some .blocked, room) | (none, room) => (.asleep, room)

def serve (room : JoinRoom) : Request → Reply × JoinRoom
  | .register name parent => room.answer <| (room.table.register name parent).map
      fun (pid, table) => (.registered pid, { room with table := table })
  | .markRunning pid => room.answer <| (room.table.markRunning pid).map
      fun table => (.done, { room with table := table })
  | .markExited pid status => room.answer <| (room.finish pid (.exited status)).map
      fun room => (.done, room)
  | .discard pid => room.answer <| (room.finish pid .discarded).map
      fun room => (.done, room)
  | .detach pid => room.answer <| (room.table.detach pid).map
      fun table => (.done, { room with table := table })
  | .take pid caller => room.answer <| (room.table.take pid caller).map
      fun (status, table) => (.collected status, { room with table := table })
  | .join pid caller => answerJoin (room.enter pid caller)
  | .resume index => answerJoin (room.resume index)
  | .orphanChildren parent =>
      let (count, table) := room.table.orphanChildren parent
      (.orphaned count, { room with table := table })

def call? (room : JoinRoom) : Request → Option (Pid × Pid)
  | .take pid caller | .join pid caller => some (pid, caller)
  | .resume index => room.waiters[index]?.map fun waiter => (waiter.pid, waiter.caller)
  | _ => none

/-- One request of a history, with the room that it met. -/
structure Moment where
  before : JoinRoom
  request : Request

namespace Moment

def reply (moment : Moment) : Reply :=
  (moment.before.serve moment.request).1

def after (moment : Moment) : JoinRoom :=
  (moment.before.serve moment.request).2

def call? (moment : Moment) : Option (Pid × Pid) :=
  moment.before.call? moment.request

end Moment

def run (room : JoinRoom) : List Request → JoinRoom
  | [] => room
  | request :: rest => (room.serve request).2.run rest

def history (room : JoinRoom) : List Request → List Moment
  | [] => []
  | request :: rest => ⟨room, request⟩ :: (room.serve request).2.history rest

def empty (maxRecords : Nat) : JoinRoom :=
  ofTable (.ofLimit maxRecords)

variable {room : JoinRoom} {moment : Moment}

theorem history_split {requests : List Request} {past future : List Moment}
    (split : room.history requests = past ++ moment :: future) :
    ∃ earlier later, requests = earlier ++ moment.request :: later ∧
      past = room.history earlier ∧ moment.before = room.run earlier ∧
      future = moment.after.history later := by
  induction past generalizing room requests with
  | nil =>
      cases requests with
      | nil => simp [history] at split
      | cons request rest =>
          simp only [history, List.nil_append, List.cons.injEq] at split
          obtain ⟨rfl, rfl⟩ := split
          exact ⟨[], rest, rfl, rfl, rfl, rfl⟩
  | cons first past ih =>
      cases requests with
      | nil => simp [history] at split
      | cons request rest =>
          simp only [history, List.cons_append, List.cons.injEq] at split
          obtain ⟨rfl, split⟩ := split
          obtain ⟨earlier, later, rfl, rfl, met, rfl⟩ := ih split
          exact ⟨request :: earlier, later, rfl, rfl, met, rfl⟩

theorem history_induction {motive : List Moment → JoinRoom → Prop} (start : motive [] room)
    (step : ∀ past room request, motive past room →
      motive (past ++ [⟨room, request⟩]) (room.serve request).2) (requests : List Request) :
    motive (room.history requests) (room.run requests) := by
  suffices general : ∀ past room, motive past room →
      motive (past ++ room.history requests) (room.run requests) from general [] room start
  induction requests with
  | nil => simp [history, run]
  | cons request rest ih =>
      intro past room held
      simpa [history, run] using ih _ _ (step past room request held)

end JoinRoom

end Minikernel
