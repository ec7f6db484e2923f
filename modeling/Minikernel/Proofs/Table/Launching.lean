import Mathlib.Logic.Function.Iterate
import Minikernel.Kernel.State
import Minikernel.Proofs.Table.Departure

/-!
Starting a child takes several calls to the table, and so does ending its parent. Here each is cut
into these calls, so that any number of starts and the end of their parent can go on at the same
time, in between each other and in between what others ask of the table. Without anybody in
between, they do what the kernel does in one go.
-/

namespace Minikernel

inductive Launch where
  | asking
  | entering
  /-- The child is in the table; whether the parent is still live has to be asked once more. -/
  | rechecking (child : Pid)
  | detaching (child : Pid)
  | starting (child : Pid)
  | started (child : Pid)
  | discarding (child : Pid)
  | refused
deriving DecidableEq

namespace Launch

def child? : Launch → Option Pid
  | rechecking child | detaching child | starting child | started child | discarding child =>
      some child
  | asking | entering | refused => none

def pending? : Launch → Option Pid
  | rechecking child | detaching child | starting child => some child
  | asking | entering | started _ | discarding _ | refused => none

def cutsOff? : Launch → Option Pid
  | rechecking child | detaching child => some child
  | asking | entering | starting _ | started _ | discarding _ | refused => none

def isOver : Launch → Bool
  | started _ | refused => true
  | asking | entering | rechecking _ | detaching _ | starting _ | discarding _ => false

def next (parent : Pid) (name : String) : Launch × JoinRoom → Launch × JoinRoom
  | (asking, room) => (if room.table.admits parent then entering else refused, room)
  | (entering, room) =>
      match room.serve (.register name (some parent)) with
      | (.registered child, room) => (rechecking child, room)
      | (_, room) => (refused, room)
  | (rechecking child, room) =>
      (if room.table.admits parent then starting child else detaching child, room)
  | (detaching child, room) => (starting child, (room.serve (.detach child)).2)
  | (starting child, room) =>
      match room.serve (.markRunning child) with
      | (.done, room) => (started child, room)
      | (_, room) => (discarding child, room)
  | (discarding child, room) => (refused, (room.serve (.discard child)).2)
  | (started child, room) => (started child, room)
  | (refused, room) => (refused, room)

end Launch

inductive Leaving where
  | staying
  | orphaning
  | gone
deriving DecidableEq

def Leaving.next (pid : Pid) (status : ExitStatus) : Leaving × JoinRoom → Leaving × JoinRoom
  | (staying, room) => (orphaning, (room.serve (.markExited pid status)).2)
  | (orphaning, room) => (gone, (room.serve (.orphanChildren pid)).2)
  | (gone, room) => (gone, room)

structure LaunchRace (count : Nat) where
  parent : Pid
  names : Fin count → String
  status : ExitStatus
  room : JoinRoom
  launches : Fin count → Launch
  leaving : Leaving

namespace LaunchRace

variable {count : Nat}

inductive Move (count : Nat) where
  | launch (index : Fin count)
  | leave
  | other (request : JoinRoom.Request)
deriving DecidableEq

def fresh (parent : Pid) (names : Fin count → String) (status : ExitStatus) (room : JoinRoom) :
    LaunchRace count :=
  ⟨parent, names, status, room, fun _ => .asking, .staying⟩

def move (race : LaunchRace count) : Move count → LaunchRace count
  | .launch index =>
      let (launch, room) :=
        Launch.next race.parent (race.names index) (race.launches index, race.room)
      { race with room := room, launches := Function.update race.launches index launch }
  | .leave =>
      let (leaving, room) := Leaving.next race.parent race.status (race.leaving, race.room)
      { race with room := room, leaving := leaving }
  | .other request => { race with room := (race.room.serve request).2 }

def run (race : LaunchRace count) : List (Move count) → LaunchRace count
  | [] => race
  | move :: rest => (race.move move).run rest

def IsOver (race : LaunchRace count) : Prop :=
  race.leaving = .gone ∧ ∀ index, (race.launches index).isOver = true

end LaunchRace

section Alone

open ProcessTable

variable {table : ProcessTable} {parent child : Pid}

theorem finish_alone (table : ProcessTable) (pid : Pid) (ending : JoinRoom.Ending) :
    (JoinRoom.ofTable table).finish pid ending = (ending.apply table pid).map .ofTable := by
  cases found : table.find? pid with
  | none =>
      have missing := record_of_missing found
      cases ending with
      | exited status =>
          simp [JoinRoom.finish, JoinRoom.Ending.apply, markExited, missing, JoinRoom.ofTable, bind,
            Except.bind, Except.map]
      | discarded =>
          simp [JoinRoom.finish, JoinRoom.Ending.apply, ProcessTable.discard, missing,
            JoinRoom.ofTable, bind, Except.bind, Except.map]
  | some info =>
      cases applied : ending.apply table pid <;>
        simp [JoinRoom.finish, applied, record, found, JoinRoom.ofTable, JoinRoom.wake, bind,
          Except.bind, pure, Except.pure, Except.map]

theorem launch_alone_starting (table : ProcessTable) (child parent : Pid) (name : String) :
    (Launch.next parent name)^[2] (.starting child, .ofTable table) =
      match table.markRunning child with
      | .ok started => (.started child, .ofTable started)
      | .error _ =>
          match table.discard child with
          | .ok discarded => (.refused, .ofTable discarded)
          | .error _ => (.refused, .ofTable table) := by
  show Launch.next parent name (Launch.next parent name (.starting child, .ofTable table)) = _
  rw [Launch.next, JoinRoom.serve, JoinRoom.ofTable]
  cases table.markRunning child with
  | ok started => rfl
  | error cause =>
      show (Launch.refused, ((JoinRoom.ofTable table).serve (.discard child)).2) = _
      rw [JoinRoom.serve, finish_alone, JoinRoom.Ending.apply]
      cases table.discard child <;> rfl

theorem next_of_isOver {launch : Launch} (finished : launch.isOver = true) (parent : Pid)
    (name : String) (room : JoinRoom) :
    Launch.next parent name (launch, room) = (launch, room) := by
  cases launch with
  | started | refused => rfl
  | asking | entering | rechecking | detaching | starting | discarding => cases finished

theorem launch_alone_entered (table : ProcessTable) (child parent : Pid) (name : String) :
    (Launch.next parent name)^[4] (.rechecking child, .ofTable table) =
      (Launch.next parent name)^[2]
        (.starting child, .ofTable (Kernel.unlink table child parent)) := by
  by_cases admitted : table.admits parent = true
  · have asked : Launch.next parent name (.rechecking child, .ofTable table) =
        (.starting child, .ofTable table) := by
      rw [Launch.next, JoinRoom.ofTable, if_pos admitted]
    have finished :
        ((Launch.next parent name)^[2] (.starting child, .ofTable table)).1.isOver = true := by
      rw [launch_alone_starting]
      cases table.markRunning child with
      | ok started => rfl
      | error cause => cases table.discard child <;> rfl
    rw [Kernel.unlink, if_pos admitted, Function.iterate_succ_apply, asked,
      Function.iterate_succ_apply']
    exact next_of_isOver finished parent name _
  · have asked : Launch.next parent name (.rechecking child, .ofTable table) =
        (.detaching child, .ofTable table) := by
      rw [Launch.next, JoinRoom.ofTable, if_neg admitted]
    have detached : Launch.next parent name (.detaching child, .ofTable table) =
        (.starting child, .ofTable (Kernel.unlink table child parent)) := by
      rw [Launch.next, JoinRoom.serve, JoinRoom.ofTable, Kernel.unlink, if_neg admitted]
      cases table.detach child <;> rfl
    rw [Function.iterate_succ_apply, asked, Function.iterate_succ_apply, detached]

theorem launch_alone (admitted : table.admits parent = true) (name : String) :
    (Launch.next parent name)^[6] (.asking, .ofTable table) =
      match Kernel.enrol table name parent with
      | (.ok child, after) => (.started child, .ofTable after)
      | (.error _, after) => (.refused, .ofTable after) := by
  have asked : Launch.next parent name (.asking, .ofTable table) =
      (.entering, .ofTable table) := by
    rw [Launch.next, JoinRoom.ofTable, if_pos admitted]
  show (Launch.next parent name)^[4] (Launch.next parent name
    (Launch.next parent name (.asking, .ofTable table))) = _
  rw [asked, Launch.next, JoinRoom.serve, JoinRoom.ofTable, Kernel.enrol]
  cases table.register name (some parent) with
  | error cause => rfl
  | ok result =>
      obtain ⟨child, entered⟩ := result
      refine (launch_alone_entered entered child parent name).trans ?_
      rw [launch_alone_starting]
      dsimp only
      cases (Kernel.unlink entered child parent).markRunning child with
      | ok started => rfl
      | error cause => cases (Kernel.unlink entered child parent).discard child <;> rfl

theorem leaving_alone (table : ProcessTable) (pid : Pid) (status : ExitStatus) :
    (Leaving.next pid status)^[2] (.staying, .ofTable table) =
      (.gone, .ofTable (table.depart pid status)) := by
  have exits : ((JoinRoom.ofTable table).serve (.markExited pid status)).2 =
      .ofTable (match table.markExited pid status with
        | .ok marked => marked
        | .error _ => table) := by
    rw [JoinRoom.serve, finish_alone, JoinRoom.Ending.apply]
    cases table.markExited pid status <;> rfl
  show (Leaving.gone, (((JoinRoom.ofTable table).serve (.markExited pid status)).2.serve
    (.orphanChildren pid)).2) = _
  rw [exits]
  rfl

end Alone

end Minikernel
