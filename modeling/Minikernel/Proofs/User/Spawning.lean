import Minikernel.Proofs.Image.Acceptance
import Minikernel.Proofs.Kernel.ArgumentPassing
import Minikernel.Proofs.User.Pushing

/-!
Starting a child from a program. The caller puts strings on its stack and an array of pointers on
top of them, and the kernel follows the pointers. No push disturbs an earlier one, so the kernel
finds the list that the caller had, whatever the lengths of its strings, and a program that names an
executable and its arguments starts that executable with those arguments. It goes on with the stack
pointer that it had.
-/

namespace Minikernel

open Text

variable {context named later : Context} {kernel : Kernel} {texts : List String}
  {pointers namePointer : UInt32} {name : String}

theorem AddressSpace.holdsArguments_of_pointers {space : AddressSpace} {index : Nat}
    {addresses : List UInt32} {arguments : Arguments}
    (place : pointers.toNat + (index + addresses.length) * 4 < UInt32.size)
    (slots : space.memory.Holds (pointers.toNat + index * 4) (addresses.flatMap Bytes.ofWord))
    (strings : List.Forall₂ (fun address text =>
      text.length ≤ Limits.maxStringLength ∧ space.HoldsString address text) addresses arguments) :
    List.Forall₂ (space.HoldsArgument pointers) (List.range' index arguments.length) arguments := by
  induction strings generalizing index with
  | nil => exact .nil
  | @cons address text addresses arguments held others ih =>
      rw [List.length_cons] at place
      rw [List.flatMap_cons] at slots
      obtain ⟨slot, rest⟩ := Pages.holds_append_iff.mp slots
      have slotAt : (pointers + UInt32.ofNat (index * 4)).toNat = pointers.toNat + index * 4 :=
        toNat_advance (by omega)
      rw [Bytes.ofWord_length] at rest
      rw [List.length_cons, List.range'_succ]
      refine .cons ⟨address, slotAt ▸ slot, held⟩ (@ih (index + 1) (by omega) ?_)
      rwa [Nat.add_mul, ← Nat.add_assoc]

namespace Context

structure Passable (texts : List String) : Prop where
  few : texts.length ≤ Limits.maxArguments
  short : ∀ text ∈ texts, (Utf8.encode text).length ≤ Limits.maxStringLength
  noZero : ∀ text ∈ texts, '\x00' ∉ text.toList

theorem pushArguments_of_passable (passable : Passable texts)
    (made : context.pushArguments texts = (.ok pointers, later)) :
    context.Grown later (context.argumentBlocks texts) ∧
      List.Forall₂ (later.space.HoldsArgument pointers) (List.range texts.length)
        (texts.map Utf8.encode) := by
  have bound : UInt32.size = 2 ^ 32 := rfl
  have few : texts.length ≤ 204 := passable.few
  have grown := @pushArguments_grown context texts (.inr ⟨by omega, fun text member => by
    have short : (Utf8.encode text).length ≤ 256 := passable.short text member
    rw [List.length_append, List.length_singleton]
    omega⟩)
  rw [made] at grown
  refine ⟨grown, ?_⟩
  obtain ⟨addresses, linked, addressed⟩ := pushArguments_blocks made
  have place : pointers.toNat + (addresses.flatMap Bytes.ofWord).length ≤
      context.stackPointer.toNat := (grown.within _ linked).2
  have limit := context.stackPointer.toNat_lt
  rw [flatMap_ofWord_length] at place
  have strings : List.Forall₂ (fun address text =>
      text.length ≤ Limits.maxStringLength ∧ later.space.HoldsString address text) addresses
      (texts.map Utf8.encode) := by
    rw [List.forall₂_map_right_iff, List.forall₂_iff_zip]
    refine ⟨addressed.length_eq, fun paired => ?_⟩
    have member := (List.of_mem_zip paired).2
    have found := (List.forall₂_iff_zip.mp addressed).2 paired
    exact ⟨passable.short _ member, mt Utf8.zero_mem_encode_iff.mp (passable.noZero _ member),
      grown.held _ found⟩
  have decoded := @AddressSpace.holdsArguments_of_pointers pointers _ 0 _ _ (by omega)
    (by rw [Nat.zero_mul, Nat.add_zero]; exact grown.held _ linked) strings
  rwa [List.length_map, ← List.range_eq_range'] at decoded

end Context

namespace Kernel

def answer : Except ExecError Pid → Int32
  | .ok child => if child ≤ ProcessTable.maxPid then child.toInt32 else Limits.syscallFailure
  | .error _ => Limits.syscallFailure

theorem handleExec_of_request {text : String} {arguments : Arguments} {count : Int32}
    (asked : execRequest? context namePointer count pointers = some (text, arguments)) :
    kernel.handleExec context namePointer count pointers =
      (answer (kernel.exec context.pid text arguments).1,
        (kernel.exec context.pid text arguments).2) := by
  unfold handleExec
  rw [asked]
  dsimp only
  generalize kernel.exec context.pid text arguments = outcome
  obtain ⟨_ | _, after⟩ := outcome <;> rfl

theorem userText?_of_held (named : NamesExecutable name)
    (held : context.space.memory.Holds namePointer.toNat (Utf8.encode name ++ [0])) :
    userText? context namePointer = some name :=
  userText?_eq_some_iff.mpr ⟨by rw [Utf8.encode_length]; exact named.most,
    mt Utf8.zero_mem_encode_iff.mp named.noZero, held⟩

theorem execRequest?_of_pushed (valid : NamesExecutable name) (passable : Context.Passable texts)
    (first : context.pushString name = .ok (namePointer, named))
    (second : named.pushArguments texts = (.ok pointers, later)) :
    execRequest? later namePointer (Int32.ofNat texts.length) pointers =
      some (name, texts.map Utf8.encode) := by
  have few : texts.length ≤ 204 := passable.few
  have long : (Utf8.encode name).length ≤ 256 := by
    rw [Utf8.encode_length]
    exact valid.most
  have bound : UInt32.size = 2 ^ 32 := rfl
  have number : (Int32.ofNat texts.length).toInt = texts.length :=
    Int32.toInt_ofNat_of_lt (by omega)
  obtain ⟨grown, decoded⟩ := Context.pushArguments_of_passable passable second
  have started := (Context.pushBytes_grown
    (.inr (by rw [List.length_append, List.length_singleton]; omega)) first).1
  have whole := (started.trans grown).held _ (List.mem_append_left _ List.mem_cons_self)
  refine execRequest?_eq_some_iff.mpr ⟨userText?_of_held valid whole, ⟨?_, ?_⟩, ?_⟩
  · rw [Int32.le_iff_toInt_le, number]
    exact Int.natCast_nonneg _
  · rw [number]
    exact Int.ofNat_le.mpr few
  · rwa [number, Int.toNat_natCast]

end Kernel

namespace Context

theorem adopt_of_pushArguments (made : context.pushArguments texts = (.ok pointers, later)) :
    context.adopt later = later := by
  have adopted := adopt_pushArguments context texts
  rwa [made] at adopted

theorem adopt_of_pushes (first : context.pushString name = .ok (namePointer, named))
    (second : named.pushArguments texts = (.ok pointers, later)) : context.adopt later = later :=
  adopt_trans (adopt_of_pushBytes first) (adopt_of_pushArguments second)

end Context

namespace Program

theorem spawn_performs (kernel : Kernel)
    (first : context.pushString name = .ok (namePointer, named))
    (second : named.pushArguments texts = (.ok pointers, later)) :
    let handled := kernel.handleExec later namePointer (Int32.ofNat texts.length) pointers
    (spawn name texts).perform kernel context =
      (.over (.ok handled.1), handled.2, { context with space := later.space }) := by
  intro handled
  have pushed : (pushString name).perform kernel context =
      (.over (.ok namePointer), kernel, named) := by
    rw [pushString_eq]
    exact perform_pushBytes_of_ok first
  have linked : (pushArguments texts).perform kernel named =
      (.over (.ok pointers), kernel, later) := by
    rw [perform_pushArguments, second]
    rfl
  have called : kernel.syscall later (Syscall.exec.registers namePointer.toInt32
      (Int32.ofNat texts.length) pointers.toInt32) = (.value handled.1, handled.2, later) :=
    Kernel.syscall_exec_eq_value_iff.mpr ⟨rfl, rfl⟩
  have restored := Context.restoreStack_of_adopt (Context.adopt_of_pushes first second)
  unfold spawn
  rw [perform_bind_of_ok perform_stackPointer, perform_bind_of_ok pushed,
    perform_bind_of_ok linked]
  dsimp only
  rw [perform_bind_of_ok (perform_invoke_catchTrap called),
    perform_bind_of_ok (perform_restoreStack _), perform_ofResult, restored]

/-- Arguments that a program puts on its stack are those that the kernel finds there, in their
order, and a program that starts an executable with them hands over its name and just these
arguments. Once all that it pushes has found room, the program goes on with the stack pointer that
it had, whatever its call was answered. -/
theorem spawn_hands_over_arguments :
    (∀ (context later : Context) (texts : List String) (pointers : UInt32),
      Context.Passable texts → context.pushArguments texts = (.ok pointers, later) →
        Kernel.userArguments? later.space pointers texts.length =
          some (texts.map Utf8.encode)) ∧
    ∀ (kernel : Kernel) (context named later : Context) (name : String) (texts : List String)
        (namePointer pointers : UInt32),
      context.pushString name = .ok (namePointer, named) →
      named.pushArguments texts = (.ok pointers, later) →
        ∃ value after,
          (spawn name texts).perform kernel context =
            (.over (.ok value), after, { context with space := later.space }) ∧
          (NamesExecutable name → Context.Passable texts →
            let (child, launched) := kernel.exec context.pid name (texts.map Utf8.encode)
            value = Kernel.answer child ∧ after = launched) := by
  constructor
  · intro context later texts pointers passable made
    rw [Kernel.userArguments?_eq_readEach, Arguments.readEach_eq_some_iff, ← List.range_eq_range']
    exact (Context.pushArguments_of_passable passable made).2
  · intro kernel context named later name texts namePointer pointers first second
    refine ⟨_, _, spawn_performs kernel first second, fun valid passable => ?_⟩
    have same : context.pid = later.pid :=
      @congrArg _ _ (context.adopt later) later Context.pid (Context.adopt_of_pushes first second)
    rw [same, Kernel.handleExec_of_request
      (Kernel.execRequest?_of_pushed valid passable first second)]
    exact ⟨rfl, rfl⟩

-- Five strings, one of them empty and of all lengths modulo four, for a child of process one.
theorem spawn_hands_over_five_arguments :
    let kernel := (Kernel.boot ⟨64, 1, 8, none, false⟩ Kernel.smallLoader (.fresh false)).run
      [.exec kernelPid "a.coff" []]
    let context := Context.fresh 1 "a.coff" ⟨.zeros 3, 1, 1⟩ ⟨0, 0⟩
    let texts := ["", "a", "bc", "def", "ghij"]
    ∃ namePointer named pointers later value after,
      context.pushString "a.coff" = .ok (namePointer, named) ∧
      named.pushArguments texts = (.ok pointers, later) ∧
      NamesExecutable "a.coff" ∧ Context.Passable texts ∧
      Kernel.userArguments? later.space pointers 5 = some (texts.map Utf8.encode) ∧
      (spawn "a.coff" texts).perform kernel context =
        (.over (.ok value), after, { context with space := later.space }) ∧
      value = 2 ∧ after = (kernel.exec 1 "a.coff" (texts.map Utf8.encode)).2 := by
  intro kernel context texts
  have valid : NamesExecutable "a.coff" := Loader.isValidName_iff.mp (by decide)
  have passable : Context.Passable texts := ⟨by decide, by decide, by decide⟩
  have room : ((context.pushString "a.coff").toOption.bind fun result =>
      (result.2.pushArguments texts).1.toOption).isSome = true := by decide +kernel
  have child : Kernel.answer (kernel.exec 1 "a.coff" (texts.map Utf8.encode)).1 = 2 := by
    decide +kernel
  cases first : context.pushString "a.coff" with
  | error cause =>
      rw [first] at room
      cases room
  | ok result =>
      obtain ⟨namePointer, named⟩ := result
      rw [first] at room
      cases second : named.pushArguments texts with
      | mk outcome later =>
          cases outcome with
          | error cause =>
              simp [second, Except.toOption] at room
          | ok pointers =>
              obtain ⟨decoded, handed⟩ := spawn_hands_over_arguments
              obtain ⟨value, after, performed, asked⟩ :=
                handed kernel context named later "a.coff" texts namePointer pointers first second
              obtain ⟨answered, launched⟩ := asked valid passable
              exact ⟨namePointer, named, pointers, later, value, after, rfl, second, valid,
                passable, decoded named later texts pointers passable second, performed,
                answered.trans child, launched⟩

end Program

end Minikernel
