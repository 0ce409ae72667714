import SchedLatency.Command
import SchedLatency.Text.Utf8

/-! The machine that a measurement runs on, seen through what it answers. A host is a value, so a
run on it is a function: the same questions get the same answers. -/
namespace SchedLatency

open Text (Bytes)

structure Captured where
  exit : Exit
  stdout : Bytes
  stderr : Bytes
  deriving Repr

structure LoadJob where
  command : Command
  dir : String
  deriving DecidableEq, Repr

structure Platform where
  /-- What `lscpu` prints. How it exits does not matter. -/
  lscpu : Except OsError Bytes
  cpuinfo : Except OsError Bytes

structure Host extends Platform where
  startLoad : LoadJob → Except OsError Unit
  /-- Runs the probe to its end, beside the load that has been started, if any. -/
  runProbe : Option LoadJob → Command → Except OsError Captured
  /-- How a started load ends, awaited after the probe has ended. -/
  awaitLoad : LoadJob → Command → Except OsError Exit

namespace Platform

def cpuCount (p : Platform) : Except TopologyFault Nat :=
  match p.lscpu with
  | .ok output => Lscpu.readCount (Text.Utf8.lossy output)
  | .error cause => .error (.notRun "lscpu" cause)

/-- A machine whose cores report no kind is worth an error message, but it is an answer. -/
def coreRanges (p : Platform) : Answer (List String) :=
  match p.cpuinfo with
  | .error cause => { result := .error (.notRead "/proc/cpuinfo" cause) }
  | .ok bytes =>
    match Text.Utf8.decode? bytes with
    | none => { result := .error (.notRead "/proc/cpuinfo" .notUtf8) }
    | some text =>
      let ranges := (Cpuinfo.ranges text).map CoreRange.text
      { notes := if ranges.isEmpty then
          [(.error, "NO CPU PART ENTRIES IN /proc/cpuinfo -- CANNOT GROUP CORES")] else []
        result := .ok ranges }

/-- The machine's own processors, asked afresh each time. -/
def topology (p : Platform) : Topology := ⟨{ result := p.cpuCount }, p.coreRanges⟩

end Platform
end SchedLatency
