import Minikernel.Proofs.Kernel.AllOrNothing
import Minikernel.Proofs.Memory.ArgumentPage
import Minikernel.Proofs.Text.Encoding
import Mathlib.Data.Option.Basic

/-!
The way of arguments from one process to another. The kernel copies them out of the caller's
memory as it is at the call, lays them out in the child's, and the child's own reader undoes the
layout. Each leg is known exactly, so what arrives is what the caller's pointers lead to.
-/

namespace Minikernel

namespace Kernel

open ProcessTable

variable {kernel : Kernel} {context : Context} {arguments : Arguments} {text : String}

theorem userText?_eq_some_iff {address : UInt32} :
    userText? context address = some text ↔
      (Text.Utf8.encode text).length ≤ Limits.maxStringLength ∧
        context.space.HoldsString address (Text.Utf8.encode text) := by
  have spelled : ∀ bytes, Text.Utf8.decode? bytes = some text ↔ bytes = Text.Utf8.encode text := by
    intro bytes
    rw [← Text.Utf8.decode_eq_ok_iff, Text.Utf8.decode?]
    cases Text.Utf8.decode bytes <;> simp [Except.toOption]
  unfold userText?
  simp only [Option.bind_eq_some_iff, AddressSpace.stringAt?_eq_some_iff, spelled]
  constructor
  · rintro ⟨bytes, held, rfl⟩
    exact held
  · intro held
    exact ⟨_, held, rfl⟩

theorem userArguments?_eq_readEach (space : AddressSpace) (pointers : UInt32) (count : Nat) :
    userArguments? space pointers count = Arguments.readEach space pointers 0 count := by
  rw [userArguments?, List.range_eq_range']
  generalize 0 = index
  induction count generalizing index with
  | zero => rfl
  | succ count ih =>
      rw [List.range'_succ, List.mapM_cons, ih, Arguments.readEach, userArgument?]
      simp only [Option.bind_eq_bind, Option.bind_assoc]

theorem execRequest?_eq_some_iff {name pointers : UInt32} {count : Int32} :
    execRequest? context name count pointers = some (text, arguments) ↔
      userText? context name = some text ∧ (0 ≤ count ∧ count.toInt ≤ Limits.maxArguments) ∧
        List.Forall₂ (context.space.HoldsArgument pointers) (List.range count.toInt.toNat)
          arguments := by
  rw [List.range_eq_range', ← Arguments.readEach_eq_some_iff, ← userArguments?_eq_readEach]
  unfold execRequest?
  simp only [Option.bind_eq_bind, Option.bind_eq_some_iff, Option.pure_def, Option.some.injEq,
    Prod.mk.injEq, Option.guard_eq_some']
  constructor
  · rintro ⟨name, read, _, bounded, passed, found, rfl, rfl⟩
    exact ⟨read, bounded, found⟩
  · rintro ⟨read, bounded, found⟩
    exact ⟨text, read, (), bounded, arguments, found, rfl, rfl⟩

theorem pid_toInt {pid : Pid} (seen : pid ≤ maxPid) : pid.toInt32.toInt = pid.toNat := by
  have bound : pid.toNat ≤ 0x7fffffff := UInt32.le_iff_toNat_le.mp seen
  apply BitVec.toInt_eq_toNat_of_lt
  show 2 * pid.toNat < 2 ^ 32
  omega

theorem syscall_exec_eq_value_iff {later : Context} {name pointers : UInt32} {count value : Int32}
    {after : Kernel} :
    kernel.syscall context (Syscall.exec.registers name.toInt32 count pointers.toInt32) =
        (.value value, after, later) ↔
      kernel.handleExec context name count pointers = (value, after) ∧ context = later := by
  have served : kernel.syscall context
      (Syscall.exec.registers name.toInt32 count pointers.toInt32) =
        (.value (kernel.handleExec context name count pointers).1,
          (kernel.handleExec context name count pointers).2, context) := rfl
  rw [served]
  simp only [Prod.mk.injEq, Reply.value.injEq]
  rw [Prod.ext_iff, and_assoc]

theorem prepare_of_built {name : String} {loaded : LoadedImage (Program Int32)}
    {space : AddressSpace} {left : FramePool} (loads : kernel.loader.load name = .ok loaded)
    (valid : arguments.validate = .ok ())
    (built : loaded.build kernel.frames kernel.config.stackPages = (.ok space, left)) :
    ∃ prepared, kernel.prepare name arguments = (.ok prepared, left) ∧
      prepared.routine = loaded.routine ∧ prepared.space.SameShape space := by
  obtain ⟨fresh, created, same⟩ := LoadedImage.build_created built
  have last := same.argumentsLast (AddressSpace.create_argumentsLast created)
  obtain ⟨layout, filled, marshalled⟩ :
      ∃ layout filled, arguments.marshal space = .ok (layout, filled) :=
    ⟨_, _, Arguments.marshal_of_valid last valid⟩
  refine ⟨⟨loaded.routine, filled, layout⟩, ?_, rfl, Arguments.marshal_shape marshalled⟩
  simp only [prepare, loads, valid, built, marshalled]

theorem prepare_rawArguments {name : String} {prepared : Prepared} {left : FramePool} (pid : Pid)
    (prepares : kernel.prepare name arguments = (.ok prepared, left)) :
    prepared.layout.count.toNat = arguments.length ∧
      (newcomer pid name prepared).context.rawArguments = .ok arguments := by
  obtain ⟨loaded, space, built, marshalled, -, -⟩ := prepare_marshalled prepares
  obtain ⟨fresh, created, same⟩ := LoadedImage.build_created built
  have last := same.argumentsLast (AddressSpace.create_argumentsLast created)
  obtain ⟨count, read⟩ := Arguments.unmarshal_marshal last marshalled
  refine ⟨count, ?_⟩
  show Context.rawArguments (Context.fresh pid name prepared.space prepared.layout) = _
  unfold Context.rawArguments Context.fresh
  rw [read]

theorem exec_passes_arguments (config : Config) (loader : Loader (Program Int32))
    (console : Console) (requests : List Request) (context later : Context)
    (name pointers : UInt32) (count value : Int32) (after : Kernel)
    (called : ((boot config loader console).run requests).syscall context
      (Syscall.exec.registers name.toInt32 count pointers.toInt32) = (.value value, after, later))
    (succeeded : value ≠ Limits.syscallFailure) :
    let kernel := (boot config loader console).run requests
    later = context ∧ 0 < value ∧ 0 ≤ count ∧ count ≤ 204 ∧
      ∃ child arguments,
        child.pid = kernel.table.nextPid ∧ value.toInt = child.pid.toNat ∧
        after.processes = child :: kernel.processes ∧
        after.table.records =
          ⟨child.pid, child.context.name, .running, some context.pid, none⟩ ::
            kernel.table.records ∧
        child.context = Context.fresh child.pid child.context.name child.context.space
          child.context.arguments ∧
        context.space.HoldsString name (Text.Utf8.encode child.context.name) ∧
        child.context.arguments.count.toNat = count.toInt ∧
        child.context.rawArguments = .ok arguments ∧
        List.Forall₂ (context.space.HoldsArgument pointers) (List.range count.toInt.toNat)
          arguments := by
  intro kernel
  have sound : kernel.Sound := (sound_boot config loader console).run requests
  obtain ⟨handled, rfl⟩ := syscall_exec_eq_value_iff.mp called
  rcases handleExec_outcomes sound context name count pointers with
    failed | ⟨text, arguments, prepared, left, asked, seen, prepares, launched⟩
  · rw [failed] at handled
    exact absurd (Prod.mk.inj handled).1.symm succeeded
  rw [launched] at handled
  obtain ⟨rfl, rfl⟩ := Prod.mk.inj handled
  obtain ⟨named, ⟨natural, few⟩, held⟩ := execRequest?_eq_some_iff.mp asked
  obtain ⟨counted, read⟩ := prepare_rawArguments kernel.table.nextPid prepares
  have number := pid_toInt seen
  have positive : 0 < kernel.table.nextPid.toInt32 := by
    have above : 0 < kernel.table.nextPid.toNat := UInt32.lt_iff_toNat_lt.mp sound.orderly.positive
    rw [Int32.lt_iff_toInt_lt, number]
    exact Int.natCast_pos.mpr above
  refine ⟨rfl, positive, natural, ?_, newcomer kernel.table.nextPid text prepared, arguments, rfl,
    number, rfl, rfl, rfl, (userText?_eq_some_iff.mp named).2, ?_, read, held⟩
  · rw [Int32.le_iff_toInt_le]
    exact few
  · have same := held.length_eq
    rw [List.length_range] at same
    have lower := Int32.le_iff_toInt_le.mp natural
    have whole : (count.toInt.toNat : Int) = count.toInt := Int.toNat_of_nonneg lower
    show (prepared.layout.count.toNat : Int) = count.toInt
    rw [counted, ← same, whole]

/-- The root process starts a child with its own name and arguments, straight from its own
argument page. -/
theorem root_passes_own_arguments :
    let kernel := (boot ⟨64, 2, 8, none, false⟩ smallLoader (.fresh false)).run
      [.exec kernelPid "a.coff" [Text.Utf8.encode "a.coff", [0x62]]]
    ∃ caller after child arguments, kernel.processes = [caller] ∧
      kernel.syscall caller.context
        (Syscall.exec.registers (UInt32.toInt32 3080) 2 (UInt32.toInt32 3072)) =
          (.value 2, after, caller.context) ∧
      after.processes = [child, caller] ∧
      child.context.rawArguments = .ok arguments ∧
      List.Forall₂ (caller.context.space.HoldsArgument 3072) (List.range 2) arguments := by
  intro kernel
  have answers : kernel.processes.map (fun process => (kernel.syscall process.context
      (Syscall.exec.registers (UInt32.toInt32 3080) 2 (UInt32.toInt32 3072))).1) = [.value 2] := by
    decide +kernel
  obtain ⟨caller, alone, answered⟩ := List.map_eq_singleton_iff.mp answers
  generalize outcome : kernel.syscall caller.context
    (Syscall.exec.registers (UInt32.toInt32 3080) 2 (UInt32.toInt32 3072)) = result at answered
  obtain ⟨reply, after, later⟩ := result
  cases answered
  obtain ⟨rfl, -, -, -, child, arguments, -, -, started, -, -, -, -, read, held⟩ :=
    exec_passes_arguments ⟨64, 2, 8, none, false⟩ smallLoader (.fresh false)
      [.exec kernelPid "a.coff" [Text.Utf8.encode "a.coff", [0x62]]] caller.context later 3080 3072
      2 2 after outcome (by decide)
  exact ⟨caller, after, child, arguments, alone, outcome, alone ▸ started, read, held⟩

end Kernel

end Minikernel
