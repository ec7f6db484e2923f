import Minikernel.Proofs.Memory.ExactTransfer
import Minikernel.Proofs.User.Pushing

/-!
The discipline of the stack. Whatever a program pushes, prints and takes off again, its stack
pointer stays between the image and the argument page, and nothing outside of there changes. A push
finds room exactly if its whole words fit between the stack limit and the stack pointer, and what
was pushed is there until the stack pointer has been above it.

A session remembers what the program has seen of its stack pointer, which is all that it may go back
to, and the blocks that the stack pointer has not been above.
-/

namespace Minikernel

inductive StackCall where
  | pushBytes (data : Bytes)
  | pushString (text : String)
  | pushInt (value : Int32)
  | pushPointers (pointers : List UInt32)
  | pushArguments (texts : List String)
  | print (text : String)
  | restoreStack (pointer : UInt32)

namespace StackCall

def after (kernel : Kernel) (context : Context) : StackCall → Context
  | pushBytes data => ((Program.pushBytes data).perform kernel context).2.2
  | pushString text => ((Program.pushString text).perform kernel context).2.2
  | pushInt value => ((Program.pushInt value).perform kernel context).2.2
  | pushPointers pointers => ((Program.pushPointers pointers).perform kernel context).2.2
  | pushArguments texts => ((Program.pushArguments texts).perform kernel context).2.2
  | print text => ((Program.print text).perform kernel context).2.2
  | restoreStack pointer => ((Program.restoreStack pointer).perform kernel context).2.2

def blocks (context : Context) : StackCall → List (UInt32 × Bytes)
  | pushBytes data => context.block data
  | pushString text => context.block (Text.Utf8.encode text ++ [0])
  | pushInt value => context.block (Bytes.ofWord value.toUInt32)
  | pushPointers pointers => context.block (pointers.flatMap Bytes.ofWord)
  | pushArguments texts => context.argumentBlocks texts
  | print _ | restoreStack _ => []

end StackCall

/-- A context, all the stack pointers that its program has seen, and the blocks on its stack that no
stack pointer has been above since they were pushed. -/
structure Session where
  context : Context
  pointers : List UInt32
  blocks : List (UInt32 × Bytes)

namespace Session

def start (context : Context) : Session :=
  ⟨context, [context.stackPointer], []⟩

def resume (session : Session) (context : Context) (pushed : List (UInt32 × Bytes)) : Session where
  context := context
  pointers := context.stackPointer :: session.pointers
  blocks := (pushed ++ session.blocks).filter fun block => context.stackPointer ≤ block.1

def call (session : Session) (kernel : Kernel) (made : StackCall) : Session :=
  session.resume (made.after kernel session.context) (made.blocks session.context)

/-- A stack pointer is restored only if it was seen before and there is no more on the stack than
when it was. -/
def Permits (session : Session) : StackCall → Prop
  | .restoreStack pointer =>
      pointer ∈ session.pointers ∧ session.context.stackPointer ≤ pointer ∧
        pointer ≤ session.context.space.initialStack
  | _ => True

/-- The sessions that a program can come to, whatever happens to the kernel between its calls. -/
inductive Reaches (context : Context) : Session → Prop where
  | start : Reaches context (start context)
  | call {session : Session} (earlier : Reaches context session) (kernel : Kernel)
      (made : StackCall) (permitted : session.Permits made) :
      Reaches context (session.call kernel made)

end Session

namespace Context

variable {context later : Context} {start : AddressSpace} {blocks : List (UInt32 × Bytes)}
  {pointer : UInt32}

structure InOrder (context : Context) (start : AddressSpace) : Prop where
  aligned : 4 ∣ context.stackPointer.toNat
  limit : start.stackLimit.toNat ≤ context.stackPointer.toNat
  top : context.stackPointer.toNat ≤ start.initialStack.toNat
  memory : context.space.SameOutside start start.stackLimit.toNat
    (start.initialStack.toNat - start.stackLimit.toNat)

structure Serves (context later : Context) (start : AddressSpace)
    (blocks : List (UInt32 × Bytes)) : Prop where
  inOrder : later.InOrder start
  memory : later.space.SameOutside context.space start.stackLimit.toNat
    (context.stackPointer.toNat - start.stackLimit.toNat)
  held : ∀ block ∈ blocks, later.space.memory.Holds block.1.toNat block.2

theorem InOrder.of_memory (inOrder : context.InOrder start)
    (memory : later.space.SameOutside context.space start.stackLimit.toNat
      (context.stackPointer.toNat - start.stackLimit.toNat)) :
    later.space.SameOutside start start.stackLimit.toNat
      (start.initialStack.toNat - start.stackLimit.toNat) := by
  have top := inOrder.top
  exact (memory.mono (by omega)).trans inOrder.memory

theorem Grown.serves (inOrder : context.InOrder start) (grown : context.Grown later blocks) :
    context.Serves later start blocks := by
  have same := inOrder.memory.stackLimit
  have limit : start.stackLimit.toNat ≤ later.stackPointer.toNat :=
    same ▸ grown.limited (same.symm ▸ inOrder.limit)
  have lower := grown.lower
  have memory := grown.memory.widen limit (Nat.le_of_eq (Nat.add_sub_cancel' lower))
  exact ⟨⟨grown.aligned inOrder.aligned, limit, Nat.le_trans lower inOrder.top,
    inOrder.of_memory memory⟩, memory, grown.held⟩

theorem Grown.serves_restored (inOrder : context.InOrder start)
    (grown : context.Grown later blocks) :
    context.Serves { context with space := later.space } start [] :=
  have served := grown.serves inOrder
  ⟨⟨inOrder.aligned, inOrder.limit, inOrder.top, served.inOrder.memory⟩, served.memory, nofun⟩

theorem InOrder.serves_refl (inOrder : context.InOrder start) : context.Serves context start [] :=
  (Grown.refl context).serves inOrder

theorem restoreStack_serves (inOrder : context.InOrder start) (aligned : 4 ∣ pointer.toNat)
    (above : context.stackPointer ≤ pointer) (top : pointer ≤ start.initialStack) :
    context.Serves (context.restoreStack pointer) start [] where
  inOrder :=
    ⟨aligned, Nat.le_trans inOrder.limit (UInt32.le_iff_toNat_le.mp above),
      UInt32.le_iff_toNat_le.mp top, inOrder.memory⟩
  memory := .refl _ _ _
  held := nofun

end Context

namespace Program

variable {context pushed : Context} {start : AddressSpace} {kernel : Kernel} {text : String}
  {address : UInt32}

theorem pushBytes_serves (small : context.space.size + 3 < UInt32.size)
    (inOrder : context.InOrder start) (data : Bytes) :
    context.Serves ((pushBytes data).perform kernel context).2.2 start (context.block data) := by
  unfold Context.block
  cases made : context.pushBytes data with
  | error cause =>
      rw [perform_pushBytes_of_error made]
      exact inOrder.serves_refl
  | ok result =>
      obtain ⟨address, pushed⟩ := result
      rw [perform_pushBytes_of_ok made]
      exact (Context.pushBytes_grown (.inl small) made).1.serves inOrder

theorem pushArguments_serves (small : context.space.size + 3 < UInt32.size)
    (inOrder : context.InOrder start) (texts : List String) :
    context.Serves ((pushArguments texts).perform kernel context).2.2 start
      (context.argumentBlocks texts) := by
  rw [perform_pushArguments]
  exact (Context.pushArguments_grown (.inl small)).serves inOrder

theorem print_performs (made : context.pushBytes (Text.Utf8.encode text) = .ok (address, pushed)) :
    ∃ value after, (print text).perform kernel context =
      (.over (.ok value), after, { context with space := pushed.space }) := by
  have restored := Context.restoreStack_of_adopt (Context.adopt_of_pushBytes made)
  unfold print
  rw [perform_bind_of_ok perform_stackPointer]
  dsimp only
  rw [perform_bind_of_ok (perform_pushBytes_of_ok made),
    perform_bind_of_ok (perform_invoke_catchTrap Kernel.syscall_write_eq),
    perform_bind_of_ok (perform_restoreStack _), perform_ofResult, restored]
  exact ⟨_, _, rfl⟩

theorem print_serves (small : context.space.size + 3 < UInt32.size)
    (inOrder : context.InOrder start) (text : String) :
    context.Serves ((print text).perform kernel context).2.2 start [] := by
  cases made : context.pushBytes (Text.Utf8.encode text) with
  | error stop =>
      have stopped : (print text).perform kernel context =
          (.ofOutcome (.error stop), kernel, context) :=
        (perform_bind_of_ok perform_stackPointer).trans
          (perform_bind_of_stop (perform_pushBytes_of_error made))
      rw [stopped]
      exact inOrder.serves_refl
  | ok result =>
      obtain ⟨address, pushed⟩ := result
      obtain ⟨value, after, performed⟩ := @print_performs context pushed kernel text address made
      rw [performed]
      exact (Context.pushBytes_grown (.inl small) made).1.serves_restored inOrder

end Program

namespace Session

variable {session : Session} {start : AddressSpace} {made : StackCall}

structure Sound (session : Session) (start : AddressSpace) : Prop where
  inOrder : session.context.InOrder start
  seen : ∀ pointer ∈ session.pointers, 4 ∣ pointer.toNat
  held : ∀ block ∈ session.blocks,
    session.context.stackPointer ≤ block.1 ∧
      session.context.space.memory.Holds block.1.toNat block.2

theorem Sound.serves (sound : session.Sound start) (small : start.size + 3 < UInt32.size)
    (kernel : Kernel) (permitted : session.Permits made) :
    session.context.Serves (made.after kernel session.context) start
      (made.blocks session.context) := by
  have inOrder := sound.inOrder
  have same : session.context.space.size + 3 < UInt32.size := by rwa [inOrder.memory.size]
  cases made with
  | pushBytes data => exact Program.pushBytes_serves same inOrder data
  | pushString text =>
      rw [StackCall.after, Program.pushString_eq]
      exact Program.pushBytes_serves same inOrder (Text.Utf8.encode text ++ [0])
  | pushInt value => exact Program.pushBytes_serves same inOrder (Bytes.ofWord value.toUInt32)
  | pushPointers pointers =>
      exact Program.pushBytes_serves same inOrder (pointers.flatMap Bytes.ofWord)
  | pushArguments texts => exact Program.pushArguments_serves same inOrder texts
  | print text => exact Program.print_serves same inOrder text
  | restoreStack pointer =>
      obtain ⟨member, above, top⟩ := permitted
      exact Context.restoreStack_serves inOrder (sound.seen pointer member) above
        (inOrder.memory.initialStack ▸ top)

theorem Sound.resume {later : Context} {blocks : List (UInt32 × Bytes)}
    (sound : session.Sound start) (served : session.context.Serves later start blocks) :
    (session.resume later blocks).Sound start := by
  refine ⟨served.inOrder, ?_, ?_⟩
  · intro pointer member
    rcases List.mem_cons.mp member with rfl | earlier
    · exact served.inOrder.aligned
    · exact sound.seen pointer earlier
  · intro block member
    obtain ⟨member, below⟩ := List.mem_filter.mp member
    refine ⟨of_decide_eq_true below, ?_⟩
    rcases List.mem_append.mp member with pushed | earlier
    · exact served.held block pushed
    · obtain ⟨above, held⟩ := sound.held block earlier
      have place := UInt32.le_iff_toNat_le.mp above
      have limit := sound.inOrder.limit
      exact served.memory.holds (.inr (by omega)) held

theorem Reaches.sound {context : Context} (reached : Reaches context session)
    (small : start.size + 3 < UInt32.size) (inOrder : context.InOrder start) :
    session.Sound start := by
  induction reached with
  | start =>
      refine ⟨inOrder, fun pointer member => ?_, nofun⟩
      rw [List.mem_singleton.mp member]
      exact inOrder.aligned
  | call earlier kernel made permitted ih => exact ih.resume (ih.serves small kernel permitted)

/-- What holds of a session whenever it is looked at. Its stack pointer is a multiple of four
between the ends of the stack, and outside of the stack memory is as it was at the start: the image
below and the argument page above. Whole words find room exactly if they fit, and a push that finds
none changes nothing; it is refused with a trap unless 32 bits are too few for the whole words.
Every block that the stack pointer has not been above is read back as it was pushed. -/
structure Disciplined (session : Session) (start : AddressSpace) : Prop where
  aligned : session.context.stackPointer.toNat % 4 = 0
  limit : start.stackLimit ≤ session.context.stackPointer
  top : session.context.stackPointer ≤ start.initialStack
  memory : session.context.space.SameOutside start start.stackLimit.toNat
    (start.initialStack.toNat - start.stackLimit.toNat)
  finds : ∀ (kernel : Kernel) (data : Bytes),
    (data.length + 3) / 4 * 4 ≤ session.context.stackPointer.toNat - start.stackLimit.toNat →
      ∃ address later, (Program.pushBytes data).perform kernel session.context =
          (.over (.ok address), kernel, later) ∧
        (address, data) ∈ (session.call kernel (.pushBytes data)).blocks
  refused : ∀ (kernel : Kernel) (data : Bytes),
    session.context.stackPointer.toNat - start.stackLimit.toNat < (data.length + 3) / 4 * 4 →
      ∃ stop, (Program.pushBytes data).perform kernel session.context =
          (.ofOutcome (.error stop), kernel, session.context) ∧
        (stop = .overflow ↔ UInt32.size ≤ (data.length % UInt32.size + 3) / 4 * 4)
  readsBack : ∀ block ∈ session.blocks,
    session.context.readBytes block.1 block.2.length = .ok block.2

theorem mem_blocks_of_pushBytes {data : Bytes} {address : UInt32} {pushed : Context}
    (made : session.context.pushBytes data = .ok (address, pushed))
    (top : pushed.stackPointer = address) (kernel : Kernel) :
    (address, data) ∈ (session.call kernel (.pushBytes data)).blocks := by
  rw [call, StackCall.after, StackCall.blocks, Program.perform_pushBytes_of_ok made, Context.block,
    made, resume]
  exact List.mem_filter.mpr ⟨List.mem_cons_self, decide_eq_true (UInt32.le_of_eq top)⟩

theorem Sound.disciplined (sound : session.Sound start) (small : start.size + 3 < UInt32.size)
    (inside : start.initialStack.toNat ≤ start.size) : session.Disciplined start := by
  have inOrder := sound.inOrder
  have limit := inOrder.limit
  have top := inOrder.top
  have same := inOrder.memory.size
  have counted : session.context.space.size + 3 < UInt32.size := by omega
  have room (data : Bytes) := @Context.pushBytes_isOk_iff session.context data counted (by omega)
    (by rwa [inOrder.memory.stackLimit])
  rw [inOrder.memory.stackLimit] at room
  refine ⟨Nat.mod_eq_zero_of_dvd inOrder.aligned, UInt32.le_iff_toNat_le.mpr limit,
    UInt32.le_iff_toNat_le.mpr top, inOrder.memory, ?_, ?_, ?_⟩
  · intro kernel data fits
    obtain ⟨address, pushed, made⟩ := (room data).mpr fits
    have placed := (Context.pushBytes_grown (.inl counted) made).2.1
    exact ⟨address, pushed, Program.perform_pushBytes_of_ok made,
      mem_blocks_of_pushBytes made placed kernel⟩
  · intro kernel data long
    cases made : session.context.pushBytes data with
    | error stop =>
        refine ⟨stop, Program.perform_pushBytes_of_error made, ?_⟩
        rw [← @Context.pushBytes_eq_overflow_iff session.context, made, Except.error.injEq]
    | ok result => exact absurd ((room data).mp ⟨result.1, result.2, made⟩) (Nat.not_le.mpr long)
  · intro block member
    unfold Context.readBytes
    rw [AddressSpace.readExact_of_holds (sound.held block member).2]
    rfl

/-- A process with memory that was just made, whatever it was filled with, uses its stack with
discipline for as long as it does nothing but push, print and go back to stack pointers that it has
seen. -/
theorem reaches_disciplined {code stack : UInt64} {pool taken : FramePool}
    {space filled : AddressSpace}
    (created : AddressSpace.create pool code stack = .ok (space, taken))
    (same : filled.SameShape space) (pid : Pid) (name : String) (layout : ArgumentLayout)
    (reached : Reaches (Context.fresh pid name filled layout) session) :
    session.Disciplined filled := by
  obtain ⟨limit, top, size⟩ := AddressSpace.create_stack created same
  have below := (AddressSpace.create_size created).1
  rw [← same.size] at below
  have page : Limits.pageSize = 1024 := rfl
  have bound : UInt32.size = 2 ^ 32 := rfl
  rw [page] at limit top size
  have small : filled.size + 3 < UInt32.size := by omega
  have fresh : (Context.fresh pid name filled layout).InOrder filled :=
    ⟨show 4 ∣ filled.initialStack.toNat by omega,
      show filled.stackLimit.toNat ≤ filled.initialStack.toNat by omega, Nat.le_refl _,
      .refl _ _ _⟩
  exact (reached.sound small fresh).disciplined small (by omega)

-- A page of stack. The arguments are pushed below the first block, a text is printed below them,
-- and the stack pointer goes back to where it was after the first push.
theorem four_calls_disciplined :
    let space : AddressSpace := ⟨.zeros 3, 1, 1⟩
    let kernel := Kernel.boot .default ⟨⟨[]⟩, ⟨[]⟩⟩ (.fresh false)
    let context := Context.fresh 1 "p.coff" space ⟨0, 0⟩
    let pushed := ((Session.start context).call kernel (.pushBytes [1, 2, 3])).call kernel
      (.pushArguments ["", "abcd"])
    let session := (pushed.call kernel (.print "hello")).call kernel (.restoreStack 2044)
    (∃ taken, AddressSpace.create (.ofSize 8) 1 1 = .ok (space, taken)) ∧
      space.SameShape space ∧
      Reaches context session ∧ session.Disciplined space ∧
      pushed.blocks.length = 4 ∧ session.blocks = [(2044, [1, 2, 3])] ∧
      session.context.readBytes 2044 3 = .ok [1, 2, 3] := by
  intro space kernel context pushed session
  obtain ⟨taken, created⟩ : ∃ taken, AddressSpace.create (.ofSize 8) 1 1 = .ok (space, taken) :=
    AddressSpace.create_of_room (by decide) (by decide)
  have permitted : (pushed.call kernel (.print "hello")).Permits (.restoreStack 2044) :=
    ⟨by decide +kernel, by decide +kernel, by decide +kernel⟩
  have reached : Reaches context session :=
    .call (.call (.call (.call .start kernel (.pushBytes [1, 2, 3]) trivial) kernel
      (.pushArguments ["", "abcd"]) trivial) kernel (.print "hello") trivial) kernel
      (.restoreStack 2044) permitted
  have disciplined : session.Disciplined space :=
    reaches_disciplined created (.refl space) 1 "p.coff" ⟨0, 0⟩ reached
  have left : session.blocks = [(2044, [1, 2, 3])] := by decide +kernel
  have first := disciplined.readsBack (2044, [1, 2, 3]) (left ▸ List.mem_singleton.mpr rfl)
  exact ⟨⟨taken, created⟩, .refl space, reached, disciplined, by decide +kernel, left, first⟩

end Session

end Minikernel
