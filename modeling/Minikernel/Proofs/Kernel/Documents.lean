import Minikernel.Kernel.Snapshot
import Minikernel.Proofs.Json.Fidelity

/-!
Configurations, statistics, images, process records and shutdowns are read back from the documents
that they are written as, each by way of the fields that it consists of.
-/

namespace Minikernel

open Json (Value Record Keeps)
open Json.Value (keeps_uint8 keeps_uint16 keeps_uint32 keeps_uint64 keeps_int32 keeps_bool
  keeps_string keeps_list keeps_option record_plain)

theorem keeps_path : Keeps (.ofOption Value.string) (Value.nullable? Value.string?) :=
  keeps_option keeps_string nofun

theorem keeps_parent : Keeps (.ofOption fun parent : Pid => .natural parent.toNat)
    (Value.nullable? Value.uint32?) :=
  keeps_option keeps_uint32 nofun

theorem Config.keeps_json : Keeps Config.toJson Config.ofJson? where
  plain config := by
    refine record_plain ?_
    simp [keeps_uint64.plain, keeps_path.plain, keeps_bool.plain]
  decoded config := by
    rw [ofJson?, toJson, Record.ofValue?_record (by simp [fieldNames]) (by simp)]
    simp [Record.defaulted?, Record.find?, keeps_uint64.decoded, keeps_path.decoded,
      keeps_bool.decoded]

theorem FrameStats.keeps_json : Keeps FrameStats.toJson FrameStats.ofJson? where
  plain stats := by
    refine record_plain ?_
    simp [keeps_uint64.plain]
  decoded stats := by
    rw [ofJson?, toJson, Record.ofValue?_record (by simp) (by simp)]
    simp [Record.required?, Record.find?, keeps_uint64.decoded]

theorem Section.keeps_json : Keeps Section.toJson Section.ofJson? where
  plain part := by
    refine record_plain ?_
    simp [keeps_uint32.plain, keeps_string.plain, (keeps_list keeps_uint8).plain]
  decoded part := by
    rw [ofJson?, toJson, Record.ofValue?_record (by simp) (by simp)]
    simp [Record.required?, Record.find?, keeps_uint32.decoded, keeps_string.decoded,
      (keeps_list keeps_uint8).decoded]

theorem Image.keeps_json : Keeps Image.toJson Image.ofJson? where
  plain image := by
    refine record_plain ?_
    simp [keeps_uint16.plain, keeps_string.plain, (keeps_list Section.keeps_json).plain]
  decoded image := by
    rw [ofJson?, toJson, Record.ofValue?_record (by simp) (by simp)]
    simp [Record.required?, Record.find?, keeps_uint16.decoded, keeps_string.decoded,
      (keeps_list Section.keeps_json).decoded]

theorem ProcessState.keeps_json : Keeps ProcessState.toJson ProcessState.ofJson? where
  plain state := .text state.name
  decoded state := by cases state <;> rfl

theorem ExitKind.keeps_json : Keeps ExitKind.toJson ExitKind.ofJson? where
  plain kind := .text kind.name
  decoded kind := by cases kind <;> rfl

theorem ExitStatus.keeps_json : Keeps ExitStatus.toJson ExitStatus.ofJson? where
  plain status := by
    refine record_plain ?_
    simp [keeps_int32.plain, ExitKind.keeps_json.plain]
  decoded status := by
    rw [ofJson?, toJson, Record.ofValue?_record (by simp) (by simp)]
    simp [Record.required?, Record.find?, keeps_int32.decoded, ExitKind.keeps_json.decoded]

theorem ExitStatus.keeps_optional : Keeps (.ofOption ExitStatus.toJson)
    (Value.nullable? ExitStatus.ofJson?) :=
  keeps_option ExitStatus.keeps_json nofun

theorem ProcessInfo.keeps_json : Keeps ProcessInfo.toJson ProcessInfo.ofJson? where
  plain info := by
    refine record_plain ?_
    cases info.exitStatus <;>
      simp [keeps_uint32.plain, keeps_string.plain, ProcessState.keeps_json.plain,
        keeps_parent.plain, ExitStatus.keeps_json.plain]
  decoded info := by
    obtain ⟨pid, name, state, parent, exitStatus⟩ := info
    -- While there is no status its field is left out, which is read as none as well.
    cases exitStatus with
    | none =>
        rw [ofJson?, toJson, Record.ofValue?_record (by simp) (by simp)]
        simp [Record.required?, Record.optional?, Record.find?, keeps_uint32.decoded,
          keeps_string.decoded, ProcessState.keeps_json.decoded, keeps_parent.decoded]
    | some status =>
        have given := ExitStatus.keeps_optional.decoded (some status)
        rw [ofJson?, toJson, Record.ofValue?_record (by simp) (by simp)]
        rw [Value.ofOption] at given
        simp [Record.required?, Record.optional?, Record.find?, keeps_uint32.decoded,
          keeps_string.decoded, ProcessState.keeps_json.decoded, keeps_parent.decoded, given]

theorem Shutdown.keeps_json : Keeps Shutdown.toJson Shutdown.ofJson? where
  plain shutdown := by
    refine record_plain ?_
    simp [keeps_uint32.plain, ExitStatus.keeps_optional.plain, keeps_bool.plain]
  decoded shutdown := by
    rw [ofJson?, toJson, Record.ofValue?_record (by simp) (by simp)]
    simp [Record.required?, Record.optional?, Record.find?, keeps_uint32.decoded,
      ExitStatus.keeps_optional.decoded, keeps_bool.decoded]

theorem KernelStats.keeps_json : Keeps KernelStats.toJson KernelStats.ofJson? where
  plain stats := by
    refine record_plain ?_
    simp [keeps_uint64.plain, FrameStats.keeps_json.plain, keeps_bool.plain]
  decoded stats := by
    rw [ofJson?, toJson, Record.ofValue?_record (by simp) (by simp)]
    simp [Record.required?, Record.find?, keeps_uint64.decoded, FrameStats.keeps_json.decoded,
      keeps_bool.decoded]

/-- Every document that the kernel writes is read back as what was written, texts with any
characters, numbers of all sizes and values that are not there included. -/
theorem documents_read_back :
    (∀ config : Config, (Json.read? config.toJson.write).bind Config.ofJson? = some config) ∧
    (∀ stats : FrameStats, (Json.read? stats.toJson.write).bind FrameStats.ofJson? = some stats) ∧
    (∀ part : Section, (Json.read? part.toJson.write).bind Section.ofJson? = some part) ∧
    (∀ image : Image, (Json.read? image.toJson.write).bind Image.ofJson? = some image) ∧
    (∀ state : ProcessState,
      (Json.read? state.toJson.write).bind ProcessState.ofJson? = some state) ∧
    (∀ kind : ExitKind, (Json.read? kind.toJson.write).bind ExitKind.ofJson? = some kind) ∧
    (∀ status : ExitStatus,
      (Json.read? status.toJson.write).bind ExitStatus.ofJson? = some status) ∧
    (∀ info : ProcessInfo, (Json.read? info.toJson.write).bind ProcessInfo.ofJson? = some info) ∧
    (∀ shutdown : Shutdown,
      (Json.read? shutdown.toJson.write).bind Shutdown.ofJson? = some shutdown) ∧
    (∀ stats : KernelStats,
      (Json.read? stats.toJson.write).bind KernelStats.ofJson? = some stats) :=
  ⟨Config.keeps_json.reads_back, FrameStats.keeps_json.reads_back, Section.keeps_json.reads_back,
    Image.keeps_json.reads_back, ProcessState.keeps_json.reads_back,
    ExitKind.keeps_json.reads_back, ExitStatus.keeps_json.reads_back,
    ProcessInfo.keeps_json.reads_back, Shutdown.keeps_json.reads_back,
    KernelStats.keeps_json.reads_back⟩

end Minikernel
