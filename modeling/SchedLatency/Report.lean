import SchedLatency.Error
import SchedLatency.Text.Utf8
import SchedLatency.Stats

/-! The report of a measurement, as text with one block for each thread or as one JSON object, and
the place it is written to. The medium may have room for only so many bytes; a write that does not fit
is taken in part and fails. -/
namespace SchedLatency

open Text (Bytes)

structure Medium where
  /-- The bytes that it can take; `none` if there is no limit. -/
  room : Option Nat := none
  /-- How a write fails for want of room. It is never an interruption, after which the bytes would be
  offered again. -/
  refusal : OsError := .nothingTaken
  flushFault : Option OsError := none
  deriving DecidableEq, Repr

/-- A medium in use: `room` is what is left of it. -/
structure Sink extends Medium where
  taken : Array UInt8 := #[]
  flushes : Nat := 0
  deriving Repr

def Medium.fresh (m : Medium) : Sink := { toMedium := m }

namespace Sink

def write (s : Sink) (bytes : Bytes) : Except OsError Unit × Sink :=
  match s.room with
  | none => (.ok (), { s with taken := s.taken ++ bytes })
  | some room =>
    if bytes.length ≤ room then
      (.ok (), { s with room := some (room - bytes.length), taken := s.taken ++ bytes })
    else (.error s.refusal, { s with room := some 0, taken := s.taken ++ bytes.take room })

def writeAll (s : Sink) : List Bytes → Except OsError Unit × Sink
  | [] => (.ok (), s)
  | piece :: more =>
    match s.write piece with
    | (.ok (), s) => s.writeAll more
    | failed => failed

/-- Prints line by line, up to the first that is not taken as a whole. -/
def print (s : Sink) (lines : List String) : Except OsError Unit × Sink :=
  s.writeAll (lines.map fun line => Text.Utf8.encode (line ++ "\n"))

def flush (s : Sink) : Except OsError Unit × Sink :=
  let s := { s with flushes := s.flushes + 1 }
  match s.flushFault with
  | none => (.ok (), s)
  | some e => (.error e, s)

@[simp] theorem writeAll_nil (s : Sink) : s.writeAll [] = (.ok (), s) := rfl

end Sink

namespace Report

inductive Format where
  | text
  | json
  deriving DecidableEq, Repr

def block (s : ThreadStats) : List String :=
  [s!"Thread #{s.thread}:\n", s!"min: {s.min}\n", s!"median: {s.median}\n", s!"p99: {s.p99}\n",
    s!"max: {s.max}\n"]

def object (s : ThreadStats) : String :=
  "\x7b\"thread_id\":" ++ toString s.thread ++ ",\"min\":" ++ toString s.min ++ ",\"median\":" ++
    toString s.median ++ ",\"p99\":" ++ toString s.p99 ++ ",\"max\":" ++ toString s.max ++ "\x7d"

def pieces (format : Format) (stats : List ThreadStats) : List String :=
  match format with
  | .text => stats.flatMap block
  | .json => "\x7b\"stats\":[" :: ((stats.map object).intersperse "," ++ ["]\x7d", "\n"])

def render (format : Format) (stats : List ThreadStats) : String :=
  String.join (pieces format stats)

/-- Writes the report and flushes the sink once, after the last byte. -/
def write (format : Format) (stats : List ThreadStats) (sink : Sink) :
    Except Error Unit × Sink :=
  match sink.writeAll ((pieces format stats).map Text.Utf8.encode) with
  | (.ok (), sink) => let (flushed, sink) := sink.flush; (flushed.mapError .os, sink)
  | (.error e, sink) => (.error (.os e), sink)

end Report
end SchedLatency
