import Minikernel.Proofs.Table.Delivery

/-!
Several callers at once ask for the status of one child. Those that come before it ends sleep
or are sent away; once it ends, the first to look at the record wins and the others come too late.
-/

namespace Minikernel

namespace JoinRoom

open ProcessTable

variable {room : JoinRoom} {request : Request} {pid caller : Pid} {info : ProcessInfo}
  {status : ExitStatus}

def waiting (room : JoinRoom) (pid : Pid) : Nat :=
  room.waiters.countP (·.pid = pid)

def returns (requests : List Request) : Nat :=
  requests.countP fun request => match request with
    | .resume _ => true
    | _ => false

def CallsFor (room : JoinRoom) (requests : List Request) (pid caller : Pid) : Prop :=
  ∀ moment ∈ room.history requests, moment.call? = some (pid, caller)

instance (requests : List Request) : Decidable (room.CallsFor requests pid caller) :=
  inferInstanceAs (Decidable (∀ moment ∈ room.history requests, moment.call? = some (pid, caller)))

structure Gathering (room : JoinRoom) (pid caller : Pid) (info : ProcessInfo) : Prop where
  found : room.table.find? pid = some info
  live : info.isLive = true
  child : info.parent = some caller
  asleep : ∀ waiter ∈ room.waiters, waiter.pid = pid → waiter = ⟨pid, caller, false⟩

def Gathers (pid caller : Pid) (request : Request) : Prop :=
  request = .take pid caller ∨ request = .join pid caller ∨ request = .markRunning pid

instance : Decidable (Gathers pid caller request) :=
  inferInstanceAs (Decidable (_ ∨ _ ∨ _))

theorem Gathering.take (gathering : room.Gathering pid caller info) :
    room.serve (.take pid caller) = (.failed (.notYetExited pid), room) := by
  have refused := take_of_live gathering.found gathering.live gathering.child
  simp [JoinRoom.serve, refused, answer, Except.map]

theorem Gathering.join (gathering : room.Gathering pid caller info) :
    room.serve (.join pid caller) =
      (.asleep, { room with waiters := room.waiters ++ [⟨pid, caller, false⟩] }) := by
  have blocked := join_eq_blocked_iff.mpr
    ⟨info, gathering.found, gathering.live, gathering.child⟩
  simp [JoinRoom.serve, enter, blocked, answerJoin]

theorem Gathering.step (gathering : room.Gathering pid caller info)
    (gathers : Gathers pid caller request) :
    ∃ later, (room.serve request).2.Gathering pid caller later ∧
      (later.state = .created → info.state = .created ∧ request ≠ .markRunning pid) ∧
      (room.serve request).2.table.erase pid = room.table.erase pid ∧
      (room.serve request).2.waiting pid =
        room.waiting pid + [request].count (.join pid caller) := by
  rcases gathers with rfl | rfl | rfl
  · rw [gathering.take]
    exact ⟨info, gathering, by simp, rfl, by simp⟩
  · rw [gathering.join]
    refine ⟨info, ⟨gathering.found, gathering.live, gathering.child, ?_⟩, by simp, rfl, ?_⟩
    · intro waiter member numbered
      rcases List.mem_append.mp member with old | new
      · exact gathering.asleep waiter old numbered
      · exact List.mem_singleton.mp new
    · simp [waiting]
  · rcases ProcessInfo.isLive_iff.mp gathering.live with created | running
    · have marked := markRunning_eq_ok_iff.mpr ⟨info, gathering.found, created, rfl⟩
      have served : (room.serve (.markRunning pid)).2 =
          { room with table := room.table.modify pid ({ · with state := .running }) } := by
        rw [serve, marked]
        rfl
      rw [served]
      have found := find?_modify_self ({ · with state := .running }) (fun _ => rfl) gathering.found
      exact ⟨_, ⟨found, by simp [ProcessInfo.isLive], gathering.child, gathering.asleep⟩, by simp,
        erase_modify _ (fun _ => rfl), by simp [waiting]⟩
    · have same : (room.serve (.markRunning pid)).2 = room := by
        simp [serve, ProcessTable.markRunning, record_eq_ok_iff.mpr gathering.found, bind,
          Except.bind, running, throw, throwThe, MonadExceptOf.throw, answer, Except.map]
      rw [same]
      exact ⟨info, gathering, by simp [running], rfl, by simp⟩

theorem Gathering.run (gathering : room.Gathering pid caller info) (requests : List Request)
    (gathers : ∀ request ∈ requests, Gathers pid caller request) :
    ∃ later, (room.run requests).Gathering pid caller later ∧
      (later.state = .created → info.state = .created ∧ .markRunning pid ∉ requests) ∧
      (room.run requests).table.erase pid = room.table.erase pid ∧
      (room.run requests).waiting pid = room.waiting pid + requests.count (.join pid caller) := by
  induction requests generalizing room info with
  | nil => exact ⟨info, gathering, by simp, rfl, rfl⟩
  | cons request rest ih =>
      obtain ⟨first, gathered, fresh, same, count⟩ := gathering.step (gathers request (by simp))
      obtain ⟨later, ends, stays, rested, counted⟩ :=
        ih gathered fun other member => gathers other (by simp [member])
      refine ⟨later, ends, fun created => ?_, rested.trans same, ?_⟩
      · obtain ⟨middle, unasked⟩ := stays created
        obtain ⟨begun, differs⟩ := fresh middle
        exact ⟨begun, by simp [unasked, differs.symm]⟩
      · have split : (request :: rest).count (.join pid caller) =
            [request].count (.join pid caller) + rest.count (.join pid caller) := by
          simp only [List.count_cons, List.count_nil]
          omega
        rw [JoinRoom.run, counted, count, split]
        omega

theorem Gathering.history (gathering : room.Gathering pid caller info) (requests : List Request)
    (gathers : ∀ request ∈ requests, Gathers pid caller request) :
    ∀ moment ∈ room.history requests,
      (moment.request = .take pid caller → moment.reply = .failed (.notYetExited pid)) ∧
      (moment.request = .join pid caller → moment.reply = .asleep) := by
  induction requests generalizing room info with
  | nil => simp [JoinRoom.history]
  | cons request rest ih =>
      obtain ⟨first, gathered, -⟩ := gathering.step (gathers request (by simp))
      intro moment member
      rcases List.mem_cons.mp member with rfl | later
      · refine ⟨?_, ?_⟩
        · rintro rfl
          exact congrArg Prod.fst gathering.take
        · rintro rfl
          exact congrArg Prod.fst gathering.join
      · exact ih gathered (fun other asked => gathers other (by simp [asked])) moment later

theorem waiting_wake (table : ProcessTable) :
    (wake { room with table := table } pid).waiting pid = room.waiting pid := by
  simp only [waiting, wake, List.countP_map]
  congr 1
  funext waiter
  by_cases woken : waiter.pid = pid <;> simp [woken]

theorem countP_eraseIdx {counts : Waiter → Bool} {waiters : List Waiter} {index : Nat}
    {waiter : Waiter} (present : waiters[index]? = some waiter) (counted : counts waiter = true) :
    (waiters.eraseIdx index).countP counts + 1 = waiters.countP counts := by
  induction waiters generalizing index with
  | nil => simp at present
  | cons first rest ih =>
      cases index with
      | zero =>
          obtain rfl : first = waiter := by simpa using present
          simp [counted]
      | succ index =>
          have later : (rest.eraseIdx index).countP counts + 1 = rest.countP counts :=
            ih (by simpa using present)
          simp only [List.eraseIdx_cons_succ, List.countP_cons]
          omega

theorem waiting_remaining (called : room.call? request = some (pid, caller))
    (table : ProcessTable) :
    (JoinRoom.mk table (room.remaining request)).waiting pid + returns [request] =
      room.waiting pid := by
  cases request with
  | resume index =>
      simp only [call?, Option.map_eq_some_iff, Prod.mk.injEq] at called
      obtain ⟨waiter, present, numbered, -⟩ := called
      exact countP_eraseIdx present (by simp [numbered])
  | _ => rfl

theorem remaining_roused (roused : ¬room.Sleeps pid) (table : ProcessTable) :
    ¬(JoinRoom.mk table (room.remaining request)).Sleeps pid := by
  rintro ⟨waiter, member, numbered, asleep⟩
  refine roused ⟨waiter, ?_, numbered, asleep⟩
  cases request with
  | resume index => exact List.mem_of_mem_eraseIdx member
  | _ => exact member

theorem CallsFor.called {rest : List Request}
    (calls : room.CallsFor (request :: rest) pid caller) :
    room.call? request = some (pid, caller) :=
  calls ⟨room, request⟩ (List.mem_cons_self ..)

theorem CallsFor.rest {rest : List Request}
    (calls : room.CallsFor (request :: rest) pid caller) :
    (room.serve request).2.CallsFor rest pid caller :=
  fun moment member => calls moment (List.mem_cons_of_mem _ member)

theorem returns_cons (request : Request) (rest : List Request) :
    returns (request :: rest) = returns [request] + returns rest := by
  simp only [returns, List.countP_cons, List.countP_nil]
  omega

theorem calls_for_missing (room : JoinRoom) (missing : room.table.find? pid = none)
    (roused : ¬room.Sleeps pid) {requests : List Request}
    (calls : room.CallsFor requests pid caller) :
    (room.history requests).map Moment.reply =
        List.replicate requests.length (.failed (.notFound pid)) ∧
      (room.run requests).waiting pid + returns requests = room.waiting pid ∧
      (room.run requests).table = room.table := by
  induction requests generalizing room with
  | nil => exact ⟨rfl, rfl, rfl⟩
  | cons request rest ih =>
      have called : room.call? request = some (pid, caller) := calls.called
      have served := serve_of_missing missing roused called
      have others := calls.rest
      rw [served] at others
      obtain ⟨replies, left, unchanged⟩ :=
        ih ⟨room.table, room.remaining request⟩ missing (remaining_roused roused _) others
      have first := waiting_remaining called room.table
      have split := returns_cons request rest
      simp only [history, run, Moment.reply, List.map_cons, served, List.length_cons,
        List.replicate_succ]
      exact ⟨congrArg (List.cons _) replies, by omega, unchanged⟩

theorem calls_for_ripe (room : JoinRoom) (ripe : room.table.Ripe pid info status)
    (child : info.parent = some caller) (roused : ¬room.Sleeps pid) {rest : List Request}
    (calls : room.CallsFor (request :: rest) pid caller) :
    (room.history (request :: rest)).map Moment.reply =
        .collected status :: List.replicate rest.length (.failed (.notFound pid)) ∧
      (room.run (request :: rest)).waiting pid + returns (request :: rest) = room.waiting pid ∧
      (room.run (request :: rest)).table = room.table.reclaim pid := by
  have served := serve_of_ripe ripe child roused calls.called
  have others := calls.rest
  rw [served] at others
  have missing : (room.table.reclaim pid).find? pid = none := by rw [find?_reclaim, if_pos rfl]
  obtain ⟨replies, left, unchanged⟩ :=
    calls_for_missing ⟨room.table.reclaim pid, room.remaining request⟩ missing
      (remaining_roused roused _) others
  have first := waiting_remaining calls.called (room.table.reclaim pid)
  have split := returns_cons request rest
  simp only [history, run, Moment.reply, List.map_cons, served]
  exact ⟨congrArg (List.cons _) replies, by omega, unchanged⟩

theorem Gathering.exit (gathering : room.Gathering pid caller info)
    (running : info.state = .running) (status : ExitStatus) :
    let (reply, exited) := room.serve (.markExited pid status)
    reply = .done ∧ ∀ first rest, exited.CallsFor (first :: rest) pid caller →
      (exited.history (first :: rest)).map Moment.reply =
        .collected status :: List.replicate rest.length (.failed (.notFound pid)) ∧
      (exited.run (first :: rest)).waiting pid + returns (first :: rest) = room.waiting pid ∧
      (exited.run (first :: rest)).table = room.table.reclaim pid := by
  have parented : info.parent ≠ none := by simp [gathering.child]
  simp only [serve_markExited gathering.found running, if_neg parented, true_and]
  intro first rest calls
  have ripe : (room.table.keep pid status).Ripe pid
      { info with state := .exited, exitStatus := some status } status :=
    ⟨find?_keep gathering.found, rfl, rfl⟩
  have won := calls_for_ripe (wake ⟨room.table.keep pid status, room.waiters⟩ pid) ripe
    gathering.child (wake_not_sleeps _) calls
  rw [waiting_wake] at won
  exact ⟨won.1, won.2.1, won.2.2.trans reclaim_keep⟩

theorem Gathering.discard (gathering : room.Gathering pid caller info) :
    let (reply, discarded) := room.serve (.discard pid)
    reply = .done ∧ ∀ leaving, discarded.CallsFor leaving pid caller →
      (discarded.history leaving).map Moment.reply =
        List.replicate leaving.length (.failed (.notFound pid)) ∧
      (discarded.run leaving).waiting pid + returns leaving = room.waiting pid ∧
      (discarded.run leaving).table = room.table.erase pid := by
  simp only [serve_discard gathering.found gathering.live, true_and]
  intro leaving calls
  have missing : (room.table.erase pid).find? pid = none := by rw [find?_erase, if_pos rfl]
  have missed := calls_for_missing (wake ⟨room.table.erase pid, room.waiters⟩ pid) missing
    (wake_not_sleeps _) calls
  rw [waiting_wake] at missed
  exact missed

/-- While their child is live, callers that take its status are sent away and callers that join
it fall asleep. Once it exits, of all calls in whatever order the first gets the status and the
others find nothing; once it is discarded, they all find nothing. No other record changes. -/
theorem race_has_one_winner (room : JoinRoom) (pid caller : Pid) (info : ProcessInfo)
    (gathering : room.Gathering pid caller info) (entering : List Request)
    (gathers : ∀ request ∈ entering, Gathers pid caller request) (status : ExitStatus) :
    let gathered := room.run entering
    let callers := room.waiting pid + entering.count (.join pid caller)
    (∀ moment ∈ room.history entering,
        (moment.request = .take pid caller → moment.reply = .failed (.notYetExited pid)) ∧
        (moment.request = .join pid caller → moment.reply = .asleep)) ∧
      ((info.state = .created → .markRunning pid ∈ entering) →
        let (reply, exited) := gathered.serve (.markExited pid status)
        reply = .done ∧ ∀ first rest, exited.CallsFor (first :: rest) pid caller →
          let final := exited.run (first :: rest)
          (exited.history (first :: rest)).map Moment.reply =
            .collected status :: List.replicate rest.length (.failed (.notFound pid)) ∧
          final.waiting pid + returns (first :: rest) = callers ∧
          final.table.reclaimed = room.table.reclaimed + 1 ∧
          ∀ other, final.table.find? other =
            if other = pid then none else room.table.find? other) ∧
      let (reply, discarded) := gathered.serve (.discard pid)
      reply = .done ∧ ∀ leaving, discarded.CallsFor leaving pid caller →
        let final := discarded.run leaving
        (discarded.history leaving).map Moment.reply =
          List.replicate leaving.length (.failed (.notFound pid)) ∧
        final.waiting pid + returns leaving = callers ∧
        final.table.reclaimed = room.table.reclaimed ∧
        ∀ other, final.table.find? other =
          if other = pid then none else room.table.find? other := by
  obtain ⟨later, gathered, fresh, same, count⟩ := gathering.run entering gathers
  refine ⟨gathering.history entering gathers, fun started => ?_, ?_⟩
  · -- A record that was created at first runs by now, since somebody asked for that.
    have running : later.state = .running := by
      rcases ProcessInfo.isLive_iff.mp gathered.live with created | running
      · obtain ⟨begun, unasked⟩ := fresh created
        exact absurd (started begun) unasked
      · exact running
    obtain ⟨done, won⟩ := gathered.exit running status
    refine ⟨done, fun first rest calls => ?_⟩
    obtain ⟨replies, left, taken⟩ := won first rest calls
    rw [reclaim_of_erase same] at taken
    refine ⟨replies, left.trans count, by rw [taken]; rfl, fun other => ?_⟩
    rw [taken, find?_reclaim]
  · obtain ⟨done, missed⟩ := gathered.discard
    refine ⟨done, fun leaving calls => ?_⟩
    obtain ⟨replies, left, taken⟩ := missed leaving calls
    rw [same] at taken
    refine ⟨replies, left.trans count, by rw [taken]; rfl, fun other => ?_⟩
    rw [taken, find?_erase]

theorem race_won_by_last_sleeper :
    let room := (empty 8).run [.register "child.coff" (some 0)]
    let gathered := room.run [.join 1 0, .markRunning 1, .take 1 0, .join 1 0]
    let exited := (gathered.serve (.markExited 1 (.normal 5))).2
    let discarded := (gathered.serve (.discard 1)).2
    (exited.history [.resume 1, .take 1 0, .resume 0]).map Moment.reply =
        [.collected (.normal 5), .failed (.notFound 1), .failed (.notFound 1)] ∧
      (discarded.history [.resume 1, .resume 0]).map Moment.reply =
        [.failed (.notFound 1), .failed (.notFound 1)] := by
  intro room gathered exited discarded
  have gathering : room.Gathering 1 0 (newborn 1 "child.coff" (some 0)) :=
    ⟨by decide, by decide, rfl, by decide⟩
  obtain ⟨-, won, -, missed⟩ := race_has_one_winner room 1 0 _ gathering
    [.join 1 0, .markRunning 1, .take 1 0, .join 1 0] (by decide) (.normal 5)
  exact ⟨((won (by decide)).2 (.resume 1) [.take 1 0, .resume 0] (by decide)).1,
    (missed [.resume 1, .resume 0] (by decide)).1⟩

end JoinRoom

end Minikernel
