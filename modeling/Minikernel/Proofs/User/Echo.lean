import Minikernel.User.Builtin
import Minikernel.Proofs.Image.Placement
import Minikernel.Proofs.Kernel.ArgumentPassing
import Minikernel.Proofs.Text.Encoding
import Minikernel.Proofs.User.Completion
import Minikernel.Proofs.User.Printing

/-!
The echo program from its start to its join. It prints one line for the number of its arguments
and one for each of them, and a page of stack has room for the longest line: an argument is short,
and showing ill-formed bytes at most triples it.
-/

namespace Minikernel

namespace Builtin

open Program

variable {console : Console} {context : Context} {arguments : Arguments}

def countLine (count : Nat) : String :=
  s!"{count} arguments\n"

def argumentLine (index : Nat) (text : String) : String :=
  s!"arg {index}: {text}\n"

def argumentLines (index : Nat) (texts : List String) : Bytes :=
  (texts.zipIdx index).flatMap fun line => Text.Utf8.encode (argumentLine line.2 line.1)

def echoed (arguments : Arguments) : Bytes :=
  Text.Utf8.encode (countLine arguments.length) ++
    argumentLines 0 (arguments.map Text.Utf8.lossy)

/-- A line that is printed with a page of stack. -/
def Fits (line : String) : Prop :=
  (Text.Utf8.encode line).length + 3 ≤ Limits.pageSize

theorem print_line (prints : context.CanPrint Limits.pageSize) {line : String} (fits : Fits line) :
    ∃ written, Runs (print line) console context 6 written
      (console.write (Text.Utf8.encode line)) (context.scribbled (Text.Utf8.encode line)) := by
  have page : Limits.pageSize < 0x80000000 := by decide
  have fits : (Text.Utf8.encode line).length + 3 ≤ Limits.pageSize := fits
  exact ⟨_, print_runs prints fits (by omega)⟩

theorem printArguments_runs {index : Nat} {texts : List String}
    (prints : context.CanPrint Limits.pageSize)
    (fits : ∀ line ∈ texts.zipIdx index, Fits (argumentLine line.2 line.1)) :
    ∃ changed, Runs (printArguments index texts) console context (6 * texts.length) ()
      (console.write (argumentLines index texts)) changed := by
  induction texts generalizing index console context with
  | nil =>
      have same : console.write (argumentLines index []) = console :=
        Console.write_nil console
      rw [same]
      exact ⟨context, .done _ _ _⟩
  | cons text rest ih =>
      obtain ⟨written, first⟩ := @print_line console context prints (argumentLine index text)
        (fits (text, index) (.head _))
      obtain ⟨changed, later⟩ := @ih
        (console.write (Text.Utf8.encode (argumentLine index text)))
        (context.scribbled (Text.Utf8.encode (argumentLine index text))) (index + 1)
        (prints.scribbled _) fun line member => fits line (.tail _ member)
      rw [Console.write_write] at later
      rw [List.length_cons, Nat.mul_succ, Nat.add_comm]
      exact ⟨changed, first.bind later⟩

theorem echo_runs {arguments : Arguments} (prints : context.CanPrint Limits.pageSize)
    (given : context.rawArguments = .ok arguments) (counted : Fits (countLine arguments.length))
    (fits : ∀ line ∈ (arguments.map Text.Utf8.lossy).zipIdx, Fits (argumentLine line.2 line.1)) :
    ∃ changed, Runs echo console context (7 + 6 * arguments.length) 0
      (console.write (echoed arguments)) changed := by
  have texts : context.textArguments = .ok (arguments.map Text.Utf8.lossy) := by
    rw [Context.textArguments, given]
    rfl
  have length : (arguments.map Text.Utf8.lossy).length = arguments.length := List.length_map _
  obtain ⟨written, first⟩ := @print_line console context prints _ counted
  obtain ⟨changed, later⟩ := @printArguments_runs
    (console.write (Text.Utf8.encode (countLine arguments.length)))
    (context.scribbled (Text.Utf8.encode (countLine arguments.length))) 0
    (arguments.map Text.Utf8.lossy) (prints.scribbled _) fits
  rw [Console.write_write, length] at later
  have steps : 7 + 6 * arguments.length = 1 + (6 + (6 * arguments.length + 0)) := by omega
  refine ⟨changed, ?_⟩
  rw [steps]
  show Runs (Program.bind (observe Context.textArguments) _) _ _ _ _ _ _
  refine (observe_runs texts).bind ?_
  show Runs (Program.bind (print (countLine (arguments.map Text.Utf8.lossy).length)) _) _ _ _ _ _ _
  rw [length]
  refine first.bind ?_
  exact later.bind (.done _ _ _)

theorem number_length {number : Nat} (few : number ≤ Limits.maxArguments) :
    (Text.Utf8.encode (toString number)).length ≤ 12 := by
  have small : number < 10 ^ 3 := Nat.lt_of_le_of_lt few (by decide)
  have digits : (Nat.toDigits 10 number).length ≤ 3 :=
    (Nat.length_toDigits_le_iff (by decide) (by decide)).mpr small
  have spelled : (toString number).toList = Nat.toDigits 10 number := Nat.toList_repr
  have whole := Text.Utf8.encode_length_le (toString number)
  rw [spelled] at whole
  omega

theorem countLine_fits (few : arguments.length ≤ Limits.maxArguments) :
    Fits (countLine arguments.length) := by
  have number := number_length few
  have words : (Text.Utf8.encode " arguments\n").length = 11 := by decide
  have page : Limits.pageSize = 1024 := rfl
  have line : countLine arguments.length = toString arguments.length ++ " arguments\n" := rfl
  rw [Fits, line, Text.Utf8.encode_append, List.length_append]
  omega

theorem argumentLine_fits {index : Nat} {argument : Bytes} (few : index ≤ Limits.maxArguments)
    (short : argument.length ≤ Limits.maxStringLength) :
    Fits (argumentLine index (Text.Utf8.lossy argument)) := by
  have number := number_length few
  have shown := Text.Utf8.encode_lossy_length argument
  -- At most 4 + 12 + 2 + 3 * 256 + 1 bytes, and three more to fill the block on the stack.
  have words : (Text.Utf8.encode "arg ").length = 4 ∧ (Text.Utf8.encode ": ").length = 2 ∧
      (Text.Utf8.encode "\n").length = 1 := by decide
  have page : Limits.pageSize = 1024 := rfl
  have most : Limits.maxStringLength = 256 := rfl
  have line : argumentLine index (Text.Utf8.lossy argument) =
      "arg " ++ toString index ++ ": " ++ Text.Utf8.lossy argument ++ "\n" := rfl
  rw [Fits, line]
  simp only [Text.Utf8.encode_append, List.length_append]
  omega

theorem argumentLines_fit (few : arguments.length ≤ Limits.maxArguments)
    (short : ∀ argument ∈ arguments, argument.length ≤ Limits.maxStringLength) :
    ∀ line ∈ (arguments.map Text.Utf8.lossy).zipIdx, Fits (argumentLine line.2 line.1) := by
  rintro ⟨text, index⟩ member
  obtain ⟨argument, given, rfl⟩ := List.mem_map.mp (List.fst_mem_of_mem_zipIdx member)
  have place := List.snd_lt_of_mem_zipIdx member
  rw [List.length_map] at place
  exact argumentLine_fits (by omega) (short argument given)

def loadedEcho : LoadedImage (Program Int32) :=
  ⟨"echo.coff", image "echo", echo⟩

theorem echo_encode : (image "echo").encode = .ok (image "echo").bytes :=
  Image.encode_eq_ok_iff.mpr ⟨by decide +kernel, rfl⟩

theorem loads_echo {loader : Loader (Program Int32)}
    (stored : loader.store.find? "echo.coff" = some (image "echo").bytes)
    (bound : loader.entries.find? "echo" = some echo) :
    loader.load "echo.coff" = .ok loadedEcho :=
  Loader.load_build (by decide +kernel) (by decide) bound echo_encode stored

theorem builds_echo {pool taken : FramePool} {stack : UInt64} {space : AddressSpace}
    (created : AddressSpace.create pool 1 stack = .ok (space, taken)) :
    ∃ filled, loadedEcho.build pool stack = (.ok filled, taken) ∧ filled.SameShape space := by
  have pages : loadedEcho.codePages = 1 := by decide +kernel
  have counted : loadedEcho.codePages.toNat = loadedEcho.image.pageCount := by decide +kernel
  rw [← pages] at created
  exact LoadedImage.build_shape (Image.build_contiguous echo_encode).1 counted created

theorem prepare_echo {kernel : Kernel}
    (stored : kernel.loader.store.find? "echo.coff" = some (image "echo").bytes)
    (bound : kernel.loader.entries.find? "echo" = some echo)
    (stack : 0 < kernel.config.stackPages)
    (small : (kernel.config.stackPages.toNat + 2) * Limits.pageSize < UInt32.size)
    (room : kernel.frames.used + (kernel.config.stackPages.toNat + 2) ≤ kernel.frames.total)
    (valid : arguments.validate = .ok ()) :
    ∃ prepared left, kernel.prepare "echo.coff" arguments = (.ok prepared, left) ∧
      prepared.routine = echo ∧
      ∀ pid, (Kernel.newcomer pid "echo.coff" prepared).context.CanPrint Limits.pageSize := by
  have positive : 0 < kernel.config.stackPages.toNat := UInt64.lt_iff_toNat_lt.mp stack
  have pages : (1 : UInt64).toNat + kernel.config.stackPages.toNat + 1 =
      kernel.config.stackPages.toNat + 2 := by
    have one : (1 : UInt64).toNat = 1 := rfl
    omega
  obtain ⟨left, created⟩ := AddressSpace.create_of_room (by rwa [pages]) (by rwa [pages])
  obtain ⟨filled, built, same⟩ := builds_echo created
  obtain ⟨prepared, prepares, routine, shape⟩ :=
    Kernel.prepare_of_built (loads_echo stored bound) valid built
  exact ⟨prepared, left, prepares, routine, fun pid =>
    (Context.fresh_canPrint created (shape.trans same) pid "echo.coff" prepared.layout).mono
      (Nat.le_mul_of_pos_left Limits.pageSize positive)⟩

/-- Echo prints every argument that it can be given, however little stack it has, and is joined
with status zero. -/
theorem echo_prints_arguments (config : Config) (loader : Loader (Program Int32))
    (console : Console) (requests : List Kernel.Request)
    (vacant : ((Kernel.boot config loader console).run requests).Vacant)
    (stored : loader.store.find? "echo.coff" = some (image "echo").bytes)
    (bound : loader.entries.find? "echo" = some echo) (stack : 0 < config.stackPages)
    (small : (config.stackPages.toNat + 2) * Limits.pageSize < UInt32.size)
    (frames : config.stackPages.toNat + 2 ≤ config.physicalPages.toNat)
    (valid : arguments.validate = .ok ()) (journal : List (Pid × Reading)) :
    let kernel := (Kernel.boot config loader console).run requests
    ∃ pid machine after,
      (Machine.mk kernel journal).exec kernelPid "echo.coff" arguments = .ok (pid, machine) ∧
      machine.kernel.console.output = kernel.console.output ++ echoed arguments ∧
      machine.kernel.join kernelPid pid = .status (.normal 0) after ∧
      after.frames.used = 0 := by
  intro kernel
  have booted := Kernel.sound_boot config loader console
  have sound : kernel.Sound := booted.run requests
  obtain ⟨sameConfig, sameLoader, sameTotal⟩ := booted.run_sameMachine requests
  replace sameConfig : config = kernel.config := sameConfig.symm
  replace sameLoader : loader = kernel.loader := sameLoader.symm
  have total : kernel.frames.total = config.physicalPages.toNat := sameTotal
  have unused : kernel.frames.used = 0 := by
    rw [sound.frames, vacant.nobody]
    rfl
  obtain ⟨prepared, left, prepares, routine, prints⟩ := @prepare_echo arguments kernel
    (sameLoader ▸ stored) (sameLoader ▸ bound) (sameConfig ▸ stack) (sameConfig ▸ small)
    (by rw [← sameConfig, unused, total]; omega) valid
  obtain ⟨-, given⟩ := Kernel.prepare_rawArguments kernel.table.nextPid prepares
  obtain ⟨few, each, -⟩ := Arguments.validate_eq_ok_iff.mp valid
  obtain ⟨changed, runs⟩ := @echo_runs kernel.console _ _ (prints kernel.table.nextPid) given
    (countLine_fits few) (argumentLines_fit few fun argument member => (each argument member).1)
  have soon : 7 + 6 * arguments.length < Machine.stepBound := by
    have bound : 7 + 6 * Limits.maxArguments < Machine.stepBound := by decide
    omega
  obtain ⟨machine, after, started, shown, joined, freed⟩ :=
    @Machine.lone_process_completes kernel journal _ _ _ _ _ _ _ _ sound vacant prepares
      (routine ▸ runs) soon
  exact ⟨_, machine, after, started, congrArg Console.output shown, joined, freed⟩

-- A machine with frames for one process only, and a single page of stack.
theorem echo_on_smallest_machine :
    let config : Config := ⟨3, 1, 1, none, false⟩
    let kernel := (Kernel.boot config ⟨⟨[.memory images]⟩, entries⟩ (.fresh false)).run []
    let arguments : Arguments := [Text.Utf8.encode "hello", [0xff]]
    kernel.Vacant ∧ config.stackPages.toNat + 2 ≤ config.physicalPages.toNat ∧
      arguments.validate = .ok () ∧
      ∃ pid machine after,
        (Machine.mk kernel []).exec kernelPid "echo.coff" arguments = .ok (pid, machine) ∧
        machine.kernel.console.output =
          Text.Utf8.encode "2 arguments\narg 0: hello\narg 1: \uFFFD\n" ∧
        machine.kernel.join kernelPid pid = .status (.normal 0) after ∧
        after.frames.used = 0 := by
  intro config kernel arguments
  have vacant : kernel.Vacant := Kernel.boot_vacant (by decide) _ _
  have frames : config.stackPages.toNat + 2 ≤ config.physicalPages.toNat := by decide
  have valid : arguments.validate = .ok () := by decide +kernel
  have printed : echoed arguments =
      Text.Utf8.encode "2 arguments\narg 0: hello\narg 1: \uFFFD\n" := by decide +kernel
  obtain ⟨pid, machine, after, started, shown, joined, freed⟩ :=
    @echo_prints_arguments arguments config ⟨⟨[.memory images]⟩, entries⟩ (.fresh false) [] vacant
      (by decide +kernel) rfl (by decide) (by decide) frames valid []
  exact ⟨vacant, frames, valid, pid, machine, after, started, shown.trans printed, joined, freed⟩

end Builtin

end Minikernel
