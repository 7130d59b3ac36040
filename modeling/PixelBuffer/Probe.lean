import PixelBuffer.CommandLine
import PixelBuffer.Service.Packer
import PixelBuffer.Session

/-!
# The probe

The probe allocates a number of buffers the way a camera would, reports the planes of each, holds
all of them at the same time and lets them go. When one allocation fails, the buffers held so far
are dropped and the failure is reported.
-/

namespace PixelBuffer

/-- What the probe reports about one plane. -/
structure PlaneReport where
  descriptor? : Option Descriptor
  offset : UInt64
  length : UInt64
deriving DecidableEq

/-- What the probe reports about one buffer. -/
structure BufferReport where
  id? : Option UInt32
  format : FourCC
  size : Size
  stride : UInt32
  usage : Usage
  planes : List PlaneReport
deriving DecidableEq

/-- Why a run of the probe fails. -/
inductive ProbeFault where
  | size (fault : SizeFault)
  | failure (failure : Failure)
deriving DecidableEq

/-- A run of the probe: what it reported, what passed between it and the service, what was logged,
and why it failed, if it did. -/
structure ProbeRun where
  reports : List BufferReport := []
  calls : Array Call := #[]
  log : Array Event := #[]
  fault? : Option ProbeFault := none

namespace PlaneReport

/-- The report about a plane. -/
def ofPlane (platform : Platform) (plane : Plane) : PlaneReport where
  descriptor? := platform.descriptorOf? plane.share
  offset := plane.offset
  length := plane.length

/-- The descriptor as shown by `showDescriptor`. -/
def descriptorText (showDescriptor : Descriptor → String) (report : PlaneReport) : String :=
  (report.descriptor?.map showDescriptor).getD "-1"

/-- The report on part of a line. -/
def text (showDescriptor : Descriptor → String) (report : PlaneReport) : String :=
  " [fd:" ++ report.descriptorText showDescriptor ++ " " ++ toString report.offset ++ "+" ++
    toString report.length ++ "]"

/-- The report as an object. -/
def json (showDescriptor : Descriptor → String) (report : PlaneReport) : String :=
  "\x7b\"fd\":" ++ report.descriptorText showDescriptor ++ ",\"length\":" ++
    toString report.length ++ ",\"offset\":" ++ toString report.offset ++ "\x7d"

end PlaneReport

namespace BufferReport

/-- The report about a buffer. -/
def ofBuffer (platform : Platform) (buffer : Buffer) : BufferReport where
  id? := buffer.id?
  format := buffer.format
  size := buffer.size
  stride := buffer.stride
  usage := buffer.usage
  planes := buffer.planes.map (PlaneReport.ofPlane platform)

/-- Bytes of all planes. -/
def totalLength (report : BufferReport) : UInt64 :=
  (report.planes.map PlaneReport.length).foldl (· + ·) 0

/-- The report on one line, up to the bytes of all planes. The time that the allocation took would
follow; time is no part of a run. -/
def text (showDescriptor : Descriptor → String) (report : BufferReport) : String :=
  report.size.text ++ " " ++ report.format.text ++ " stride:" ++ toString report.stride ++
    String.join (report.planes.map (PlaneReport.text showDescriptor)) ++ " total: " ++
    toString report.totalLength

/-- A text in an object, where quotes and backslashes are escaped. -/
def jsonText (text : String) : String :=
  String.ofList ('"' :: (text.toList.flatMap fun c =>
    if c = '"' ∨ c = '\\' then ['\\', c] else [c]) ++ ['"'])

/-- The report as an object with its fields in alphabetical order. -/
def json (showDescriptor : Descriptor → String) (report : BufferReport) : String :=
  "\x7b\"format\":" ++ jsonText report.format.text ++ ",\"height\":" ++
    toString report.size.height ++ ",\"id\":" ++ (report.id?.map toString).getD "null" ++
    ",\"planes\":[" ++ ",".intercalate (report.planes.map (PlaneReport.json showDescriptor)) ++
    "],\"stride\":" ++ toString report.stride ++ ",\"usage\":" ++ toString report.usage.bits ++
    ",\"width\":" ++ toString report.size.width ++ "\x7d"

end BufferReport

namespace ProbeFault

/-- The shape of a fault in diagnostics. -/
def description : ProbeFault → String
  | .size fault => fault.description
  | .failure cause => cause.description

end ProbeFault

namespace Settings

/-- The service that the settings select. -/
def service (settings : Settings) : Service Packer :=
  match settings.memory with
  | .heap kind => heapService kind
  | .anonymous => memoryService

/-- A session that has not done anything yet. -/
def session (settings : Settings) : Session Packer where
  client := { service := Packer.withAlign {} settings.align }

end Settings

namespace Session

/-- Logs one event. -/
def log {σ : Type} (session : Session σ) (event : Event) : Session σ :=
  { session with client := (Client.inWorld (Act.log event) session.client).2 }

end Session

namespace Probe

/-- Allocates buffers and reports each of them, up to the first failure. -/
def allocate (allocator : Allocator Packer) (code : Int32) (size : Size) (usage : Usage) :
    (count : Nat) → Session Packer → List BufferReport × Option Failure × Session Packer
  | 0, session => ([], none, session)
  | count + 1, session =>
      match session.perform allocator (.allocate code size usage) with
      | (.allocated _ buffer, session) =>
          let report := BufferReport.ofBuffer session.client.world.platform buffer
          let (reports, failure?, session) := allocate allocator code size usage count session
          (report :: reports, failure?, session)
      | (.failed failure, session) => ([], some failure, session)
      | (_, session) => ([], none, session)

/-- Runs the probe. -/
def run (settings : Settings) : ProbeRun :=
  match settings.frameSize with
  | .error fault => { fault? := some (.size fault) }
  | .ok size =>
      let allocator : Allocator Packer := { service := settings.service }
      match allocator.resolver.resolve settings.format with
      | .error failure => { fault? := some (.failure failure) }
      | .ok resolved =>
          let count := settings.count.toNat
          let session := settings.session.log
            (.probing count size resolved.geometry.name settings.memory.text)
          let (reports, failure?, session) :=
            allocate allocator settings.format size settings.usage count session
          let session :=
            if failure?.isSome then session else session.log (.releasing reports.length)
          let client := (session.close allocator).client
          { reports := reports, calls := client.calls, log := client.world.log
            fault? := failure?.map .failure }

end Probe

namespace ProbeRun

/-- The status with which the run ends. -/
def exitStatus (run : ProbeRun) : Nat :=
  if run.fault?.isSome then 1 else 0

/-- The lines that the run prints, one for each buffer. -/
def output (showDescriptor : Descriptor → String) (settings : Settings) (run : ProbeRun) :
    List String :=
  run.reports.map fun report =>
    if settings.json then report.json showDescriptor else report.text showDescriptor

/-- The notice for a journal that was asked for, since this platform has none. -/
def journalNotice (settings : Settings) : List String :=
  if settings.journald then
    ["journald logging unavailable: " ++ Errno.message Errno.noSuchFile.toInt]
  else []

/-- The lines of the log that the settings show. -/
def logLines (showDescriptor : Descriptor → String) (settings : Settings) (run : ProbeRun) :
    List String :=
  let least := if settings.verbose then Level.debug else Level.info
  (run.log.toList.filter fun event => least.rank ≤ event.level.rank).map
    (Event.fullLine showDescriptor)

/-- The lines that the run prints about itself: notices, the log, and the failure at last. -/
def diagnostics (showDescriptor : Descriptor → String) (settings : Settings) (run : ProbeRun) :
    List String :=
  journalNotice settings ++ run.logLines showDescriptor settings ++
    (run.fault?.map fun fault => "Error: " ++ fault.description).toList

end ProbeRun

end PixelBuffer
