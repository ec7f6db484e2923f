import Minikernel.Kernel.Config
import Minikernel.Proofs.Memory.Reservation
import Minikernel.Proofs.Text.Encoding

/-!
Where the numbers of a configuration come from: each from its variable, or else from the file, or
else from the defaults. A variable is held to be positive and so are the defaults, but nothing is
asked of a number in the file. A kernel can work with what was loaded unless the file gives a zero
that no variable takes the place of.
-/

namespace Minikernel

namespace Text.Decimal

theorem digitsFrom?_lt {limit start number : Nat} {text : List Char} (below : start < limit)
    (read : digitsFrom? limit start text = some number) : number < limit := by
  induction text generalizing start with
  | nil =>
      cases read
      exact below
  | cons character rest ih =>
      simp only [digitsFrom?] at read
      split at read
      · split at read
        · rename_i fits
          exact ih fits read
        · cases read
      · cases read

theorem unsigned?_lt {limit number : Nat} {text : List Char} (positive : 0 < limit)
    (read : unsigned? limit text = some number) : number < limit := by
  unfold unsigned? at read
  split at read
  · cases read
  · cases read
  · exact digitsFrom?_lt positive read
  · exact digitsFrom?_lt positive read

end Text.Decimal

theorem Json.Value.uint64?_eq_some_iff {value : Json.Value} {number : UInt64} :
    value.uint64? = some number ↔ value = .natural number.toNat := by
  constructor
  · intro decoded
    obtain ⟨count, found, rfl⟩ := Option.map_eq_some_iff.mp decoded
    unfold natural? at found
    split at found
    · split at found
      · rename_i fits
        cases found
        rw [UInt64.toNat_ofNat_of_lt' fits]
        rfl
      · cases found
    · cases found
  · rintro rfl
    have fits : number.toNat < UInt64.size := number.toNat_lt
    simp [uint64?, natural, natural?, fits]

namespace Config

variable {reader : FileReader} {environment : String → Option String} {config start : Config}
  {number current : UInt64}

inductive Setting where
  | physicalPages
  | stackPages
  | maxProcesses

namespace Setting

def key : Setting → String
  | physicalPages => "KERNEL_PHYS_PAGES"
  | stackPages => "KERNEL_STACK_PAGES"
  | maxProcesses => "KERNEL_MAX_PROCESSES"

def field : Setting → String
  | physicalPages => "phys_pages"
  | stackPages => "stack_pages"
  | maxProcesses => "max_processes"

def of (config : Config) : Setting → UInt64
  | physicalPages => config.physicalPages
  | stackPages => config.stackPages
  | maxProcesses => config.maxProcesses

theorem default_pos (setting : Setting) : 0 < setting.of .default := by
  cases setting <;> decide

end Setting

def namedRecord? (reader : FileReader) (environment : String → Option String) :
    Option Json.Record := do
  let path ← environment "KERNEL_CONFIG"
  let bytes ← (reader path).toOption
  let text ← Text.Utf8.decode? bytes
  let document ← Json.read? text
  Json.Record.ofValue? fieldNames document

def given? (reader : FileReader) (environment : String → Option String) (setting : Setting) :
    Option Json.Value :=
  (namedRecord? reader environment).bind (·.find? setting.field)

/-- The source that a number is taken from: its variable if that is set, else the file if the
number is given there, else the defaults. -/
inductive TakenFrom (reader : FileReader) (environment : String → Option String)
    (setting : Setting) (number : UInt64) : Prop where
  | environment (value : String) (set : environment setting.key = some value)
      (spells : Text.Decimal.unsigned? UInt64.size (Text.trimBlanks value.toList) =
        some number.toNat) (positive : 0 < number)
  | file (unset : environment setting.key = none)
      (given : given? reader environment setting = some (.natural number.toNat))
  | defaults (unset : environment setting.key = none)
      (absent : given? reader environment setting = none) (same : number = setting.of .default)

theorem spells_of_positive {key value : String} (accepted : positive key value = .ok number) :
    Text.Decimal.unsigned? UInt64.size (Text.trimBlanks value.toList) = some number.toNat ∧
      0 < number := by
  unfold positive at accepted
  split at accepted
  · rename_i count spelled
    split at accepted
    · rename_i above
      cases accepted
      have small := Text.Decimal.unsigned?_lt (by decide) spelled
      have same : (UInt64.ofNat count).toNat = count := UInt64.toNat_ofNat_of_lt' small
      refine ⟨by rw [spelled, same], ?_⟩
      rw [UInt64.lt_iff_toNat_lt, same]
      exact above
    · cases accepted
  · cases accepted

theorem numberOr_eq_ok_iff {key : String} :
    numberOr environment key current = .ok number ↔
      (∃ value, environment key = some value ∧ positive key value = .ok number) ∨
        environment key = none ∧ current = number := by
  unfold numberOr
  cases environment key <;> simp

theorem ofJson?_record {document : Json.Value} (described : ofJson? document = some config) :
    ∃ record, Json.Record.ofValue? fieldNames document = some record ∧
      ∀ setting : Setting, record.defaulted? setting.field (setting.of default)
        Json.Value.uint64? = some (setting.of config) := by
  unfold ofJson? at described
  simp only [Option.bind_eq_bind, Option.bind_eq_some_iff, Option.pure_def,
    Option.some.injEq] at described
  obtain ⟨record, read, physical, first, stack, second, most, third, _, -, _, -, rfl⟩ := described
  refine ⟨record, read, fun setting => ?_⟩
  cases setting
  · exact first
  · exact second
  · exact third

theorem ofFile_document {path : String} (named : environment "KERNEL_CONFIG" = some path)
    (loaded : ofFile reader path = .ok config) :
    ∃ record, namedRecord? reader environment = some record ∧
      ∀ setting : Setting, record.defaulted? setting.field (setting.of default)
        Json.Value.uint64? = some (setting.of config) := by
  unfold ofFile at loaded
  unfold namedRecord?
  obtain ⟨bytes, read, loaded⟩ := bind_eq_ok_iff.mp loaded
  have found : reader path = .ok bytes := by
    cases reached : reader path with
    | error cause =>
        rw [reached] at read
        cases read
    | ok contents =>
        rw [reached] at read
        cases read
        rfl
  split at loaded
  · cases loaded
  · rename_i text decoded
    split at loaded
    · rename_i described
      cases loaded
      obtain ⟨document, spelled, described⟩ := Option.bind_eq_some_iff.mp described
      obtain ⟨record, fields, each⟩ := ofJson?_record described
      refine ⟨record, ?_, each⟩
      simp [named, found, decoded, spelled, fields, Except.toOption]
    · cases loaded

def startOf (reader : FileReader) (environment : String → Option String) :
    Except ConfigError Config :=
  match environment "KERNEL_CONFIG" with
  | some path => ofFile reader path
  | none => .ok default

def laidOver (environment : String → Option String) (start : Config) :
    Except ConfigError Config := do
  let physicalPages ← numberOr environment "KERNEL_PHYS_PAGES" start.physicalPages
  let stackPages ← numberOr environment "KERNEL_STACK_PAGES" start.stackPages
  let maxProcesses ← numberOr environment "KERNEL_MAX_PROCESSES" start.maxProcesses
  return ⟨physicalPages, stackPages, maxProcesses,
    (environment "KERNEL_IMAGE_DIR").or start.imageDirectory,
    (environment "KERNEL_CONSOLE_ECHO").elim start.consoleEcho isTruth⟩

theorem ofVariables_eq :
    ofVariables reader default environment =
      startOf reader environment >>= laidOver environment := by
  unfold ofVariables startOf
  cases environment "KERNEL_CONFIG" <;> rfl

theorem ofVariables_settings (loaded : ofVariables reader default environment = .ok config) :
    ∃ start, startOf reader environment = .ok start ∧ ∀ setting : Setting,
      numberOr environment setting.key (setting.of start) = .ok (setting.of config) := by
  rw [ofVariables_eq] at loaded
  obtain ⟨start, begun, loaded⟩ := bind_eq_ok_iff.mp loaded
  obtain ⟨physical, first, loaded⟩ := bind_eq_ok_iff.mp loaded
  obtain ⟨stack, second, loaded⟩ := bind_eq_ok_iff.mp loaded
  obtain ⟨most, third, loaded⟩ := bind_eq_ok_iff.mp loaded
  cases loaded
  refine ⟨start, begun, fun setting => ?_⟩
  cases setting
  · exact first
  · exact second
  · exact third

theorem takenFrom_of_unset {setting : Setting} (unset : environment setting.key = none)
    (begun : startOf reader environment = .ok start) :
    TakenFrom reader environment setting (setting.of start) := by
  unfold startOf at begun
  cases named : environment "KERNEL_CONFIG" with
  | none =>
      rw [named] at begun
      cases begun
      exact .defaults unset (by simp [given?, namedRecord?, named]) rfl
  | some path =>
      rw [named] at begun
      obtain ⟨record, read, each⟩ := ofFile_document named begun
      have decoded := each setting
      have given : given? reader environment setting = record.find? setting.field := by
        rw [given?, read, Option.bind_some]
      unfold Json.Record.defaulted? at decoded
      cases held : record.find? setting.field with
      | none =>
          simp only [held, Option.some.injEq] at decoded
          exact .defaults unset (given.trans held) decoded.symm
      | some value =>
          simp only [held, Json.Value.uint64?_eq_some_iff] at decoded
          exact .file unset (by rw [given, held, decoded])

theorem takenFrom_of_loaded (loaded : ofVariables reader default environment = .ok config)
    (setting : Setting) : TakenFrom reader environment setting (setting.of config) := by
  obtain ⟨start, begun, each⟩ := ofVariables_settings loaded
  rcases numberOr_eq_ok_iff.mp (each setting) with ⟨value, set, accepted⟩ | ⟨unset, same⟩
  · obtain ⟨spells, above⟩ := spells_of_positive accepted
    exact .environment value set spells above
  · rw [← same]
    exact takenFrom_of_unset unset begun

theorem TakenFrom.pos_iff {setting : Setting}
    (taken : TakenFrom reader environment setting number) :
    0 < number ↔ (environment setting.key = none →
      given? reader environment setting ≠ some (.natural 0)) := by
  cases taken with
  | environment value set spells positive => simp [set, positive]
  | file unset given =>
      rw [given, UInt64.lt_iff_toNat_lt]
      simp [unset, Json.Value.natural]
      omega
  | defaults unset absent same =>
      rw [absent, same]
      simp [setting.default_pos]

/-- Whatever is loaded takes each number from a variable, from the file or from the defaults, and
all of them are positive unless the file gives a zero for which no variable is set. -/
theorem loaded_usable_iff
    (loaded : ofVariables reader default environment = .ok config) :
    (∀ setting : Setting, TakenFrom reader environment setting (setting.of config)) ∧
      ((1 ≤ config.physicalPages ∧ 1 ≤ config.stackPages ∧ 1 ≤ config.maxProcesses) ↔
        ∀ setting : Setting, environment setting.key = none →
          given? reader environment setting ≠ some (.natural 0)) := by
  have taken := takenFrom_of_loaded loaded
  refine ⟨taken, ?_⟩
  have above : ∀ number : UInt64, 1 ≤ number ↔ 0 < number := by
    intro number
    rw [UInt64.le_iff_toNat_le, UInt64.lt_iff_toNat_lt]
    rfl
  simp only [above]
  constructor
  · rintro ⟨physical, stack, most⟩ setting
    refine (taken setting).pos_iff.mp ?_
    cases setting
    · exact physical
    · exact stack
    · exact most
  · intro nonzero
    have each := fun setting => (taken setting).pos_iff.mpr (nonzero setting)
    exact ⟨each .physicalPages, each .stackPages, each .maxProcesses⟩

theorem ofFile_of_text {path text : String} (held : reader path = .ok (Text.Utf8.encode text))
    (described : (Json.read? text).bind ofJson? = some config) :
    ofFile reader path = .ok config := by
  have spelled : Text.Utf8.decode? (Text.Utf8.encode text) = some text := by
    rw [Text.Utf8.decode?, Text.Utf8.decode_eq_ok_iff.mpr rfl]
    rfl
  unfold ofFile
  refine bind_eq_ok_iff.mpr ⟨Text.Utf8.encode text, ?_, ?_⟩
  · rw [held]
    rfl
  · simp only [spelled, described]
    rfl

-- The zero in the file does not count, because its variable is set.
theorem zero_replaced_by_variable :
    let files := Files.ofPaths [("k.json", Text.Utf8.encode "[32,0,12]")] []
    let environment := fun key =>
      if key = "KERNEL_CONFIG" then some "k.json"
      else if key = "KERNEL_STACK_PAGES" then some " +2 " else none
    let config : Config := ⟨32, 2, 12, none, false⟩
    ofFile files.read "k.json" = .ok ⟨32, 0, 12, none, false⟩ ∧
      ofVariables files.read default environment = .ok config ∧
      (∀ setting : Setting, TakenFrom files.read environment setting (setting.of config)) ∧
      ∀ setting : Setting, environment setting.key = none →
        given? files.read environment setting ≠ some (.natural 0) := by
  intro files environment config
  have held : files.read "k.json" = .ok (Text.Utf8.encode "[32,0,12]") := rfl
  have begun : ofFile files.read "k.json" = .ok ⟨32, 0, 12, none, false⟩ :=
    ofFile_of_text held (by decide +kernel)
  have loaded : ofVariables files.read default environment = .ok config := by
    rw [ofVariables_eq]
    exact bind_eq_ok_iff.mpr ⟨_, begun, rfl⟩
  obtain ⟨taken, usable⟩ := loaded_usable_iff loaded
  exact ⟨begun, loaded, taken, usable.mp (by decide)⟩

/-- A file with a zero loads, and with what it gives no process has a stack. As the value of a
variable the same zero is refused. -/
theorem zero_in_file_is_loaded :
    let files := Files.ofPaths [("k.json", Text.Utf8.encode "\x7b\"stack_pages\":0\x7d")] []
    (∃ config, ofVariables files.read default
        (fun key => if key = "KERNEL_CONFIG" then some "k.json" else none) = .ok config ∧
      ¬(1 ≤ config.physicalPages ∧ 1 ≤ config.stackPages ∧ 1 ≤ config.maxProcesses)) ∧
      ofVariables files.read default
        (fun key => if key = "KERNEL_STACK_PAGES" then some "0" else none) =
          .error (.invalidValue "KERNEL_STACK_PAGES" "0") := by
  intro files
  have held : files.read "k.json" =
      .ok (Text.Utf8.encode "\x7b\"stack_pages\":0\x7d") := rfl
  have begun : ofFile files.read "k.json" = .ok ⟨1024, 0, 256, none, false⟩ :=
    ofFile_of_text held (by decide +kernel)
  refine ⟨⟨⟨1024, 0, 256, none, false⟩, ?_, by decide⟩, ?_⟩
  · rw [ofVariables_eq]
    exact bind_eq_ok_iff.mpr ⟨_, begun, rfl⟩
  · rw [ofVariables_eq]
    rfl

end Config

end Minikernel
