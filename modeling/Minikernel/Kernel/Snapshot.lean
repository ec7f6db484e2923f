import Minikernel.Image.Section
import Minikernel.Json.Record
import Minikernel.Kernel.State

/-!
The JSON forms of statistics, images, process records and shutdowns: one way to write each,
and what is read back as each.
-/

namespace Minikernel

open Json (Value Record)

namespace FrameStats

def toJson (stats : FrameStats) : Value :=
  .record [
    ("total_frames", .natural stats.totalFrames.toNat),
    ("used_frames", .natural stats.usedFrames.toNat),
    ("free_frames", .natural stats.freeFrames.toNat)]

def ofJson? (value : Value) : Option FrameStats := do
  let record ← Record.ofValue? ["total_frames", "used_frames", "free_frames"] value
  return {
    totalFrames := ← record.required? "total_frames" Value.uint64?
    usedFrames := ← record.required? "used_frames" Value.uint64?
    freeFrames := ← record.required? "free_frames" Value.uint64? }

end FrameStats

namespace Section

def toJson (part : Section) : Value :=
  .record [
    ("name", .string part.name),
    ("first_vpn", .natural part.firstPage.toNat),
    ("num_pages", .natural part.pageCount.toNat),
    ("data", .array (part.data.map fun byte => .natural byte.toNat))]

def ofJson? (value : Value) : Option Section := do
  let record ← Record.ofValue? ["name", "first_vpn", "num_pages", "data"] value
  return {
    name := ← record.required? "name" Value.string?
    firstPage := ← record.required? "first_vpn" Value.uint32?
    pageCount := ← record.required? "num_pages" Value.uint32?
    data := ← record.required? "data" (Value.list? Value.uint8?) }

end Section

namespace Image

def toJson (image : Image) : Value :=
  .record [
    ("magic", .natural image.magic.toNat),
    ("entry", .string image.entry),
    ("sections", .array (image.sections.map Section.toJson))]

def ofJson? (value : Value) : Option Image := do
  let record ← Record.ofValue? ["magic", "entry", "sections"] value
  return {
    magic := ← record.required? "magic" Value.uint16?
    entry := ← record.required? "entry" Value.string?
    sections := ← record.required? "sections" (Value.list? Section.ofJson?) }

end Image

namespace ProcessState

def name : ProcessState → String
  | created => "created"
  | running => "running"
  | exited => "exited"
  | reclaimed => "reclaimed"

def toJson (state : ProcessState) : Value := .string state.name

def ofJson? (value : Value) : Option ProcessState := do
  let found ← value.variant?
  [created, running, exited, reclaimed].find? fun state => state.name = found

end ProcessState

namespace ExitKind

def name : ExitKind → String
  | normal => "normal"
  | abnormal => "abnormal"

def toJson (kind : ExitKind) : Value := .string kind.name

def ofJson? (value : Value) : Option ExitKind := do
  let found ← value.variant?
  [normal, abnormal].find? fun kind => kind.name = found

end ExitKind

namespace ExitStatus

def toJson (status : ExitStatus) : Value :=
  .record [("code", .integer status.code.toInt), ("kind", status.kind.toJson)]

def ofJson? (value : Value) : Option ExitStatus := do
  let record ← Record.ofValue? ["code", "kind"] value
  return {
    code := ← record.required? "code" Value.int32?
    kind := ← record.required? "kind" ExitKind.ofJson? }

end ExitStatus

namespace ProcessInfo

/-- The status is left out while there is none. -/
def toJson (info : ProcessInfo) : Value :=
  .record ([
    ("pid", .natural info.pid.toNat),
    ("name", .string info.name),
    ("state", info.state.toJson),
    ("parent", .ofOption (fun parent => .natural parent.toNat) info.parent)] ++
      (info.exitStatus.map fun status => ("exit_status", status.toJson)).toList)

def ofJson? (value : Value) : Option ProcessInfo := do
  let record ← Record.ofValue? ["pid", "name", "state", "parent", "exit_status"] value
  return {
    pid := ← record.required? "pid" Value.uint32?
    name := ← record.required? "name" Value.string?
    state := ← record.required? "state" ProcessState.ofJson?
    parent := ← record.optional? "parent" Value.uint32?
    exitStatus := ← record.optional? "exit_status" ExitStatus.ofJson? }

end ProcessInfo

namespace Shutdown

def toJson (shutdown : Shutdown) : Value :=
  .record [
    ("root", .natural shutdown.root.toNat),
    ("status", .ofOption ExitStatus.toJson shutdown.status),
    ("halted", .bool shutdown.halted)]

def ofJson? (value : Value) : Option Shutdown := do
  let record ← Record.ofValue? ["root", "status", "halted"] value
  return {
    root := ← record.required? "root" Value.uint32?
    status := ← record.optional? "status" ExitStatus.ofJson?
    halted := ← record.required? "halted" Value.bool? }

end Shutdown

namespace KernelStats

def toJson (stats : KernelStats) : Value :=
  .record [
    ("live_records", .natural stats.liveRecords.toNat),
    ("running", .natural stats.running.toNat),
    ("registered", .natural stats.registered.toNat),
    ("reclaimed", .natural stats.reclaimed.toNat),
    ("frames", stats.frames.toJson),
    ("halted", .bool stats.halted)]

def ofJson? (value : Value) : Option KernelStats := do
  let record ← Record.ofValue?
    ["live_records", "running", "registered", "reclaimed", "frames", "halted"] value
  return {
    liveRecords := ← record.required? "live_records" Value.uint64?
    running := ← record.required? "running" Value.uint64?
    registered := ← record.required? "registered" Value.uint64?
    reclaimed := ← record.required? "reclaimed" Value.uint64?
    frames := ← record.required? "frames" FrameStats.ofJson?
    halted := ← record.required? "halted" Value.bool? }

end KernelStats

end Minikernel
