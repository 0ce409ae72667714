import SchedLatency.Host
import SchedLatency.Report
import SchedLatency.Cli.Invocation

/-! The machine as the commands see it, with files, standard streams and an environment, and what a
command leaves on it. The place that a report goes to is opened only when there is a report, so a
command that fails before that leaves the place as it was. -/
namespace SchedLatency.Cli

open Text (Bytes)

structure Machine extends Host where
  /-- Whether the program runs with the rights that real-time scheduling needs. -/
  isRoot : Bool
  env : String → Option String
  stdin : Except OsError Bytes
  fileBytes : String → Except OsError Bytes
  /-- Makes a file empty, if need be a new one, and opens it. -/
  create : String → Except OsError Medium
  stdout : Medium
  finds : String → Bool

def Machine.tempDir (m : Machine) : String := (m.env "TMPDIR").getD "/tmp"

inductive Failure where
  /-- What a command was about when it failed, and why that failed, outermost cause first. -/
  | reported (what : String) (causes : List String := [])
  /-- The program stops where it is. -/
  | panicked (message : String)
  deriving DecidableEq, Repr

def Failure.ofError (what : String) (e : Error) : Failure :=
  .reported what (e.message :: (e.cause?.map OsError.text).toList)

def Failure.status : Failure → Nat
  | .reported _ _ => 1
  | .panicked _ => 101

/-- What a command wrote. The file, if there is one, holds nothing else. -/
structure Output where
  stdout : Bytes := []
  file : Option (String × Bytes) := none
  deriving Repr

structure Completion where
  result : Except Failure Unit
  output : Output := {}

def Completion.status (c : Completion) : Nat :=
  match c.result with
  | .ok () => 0
  | .error failure => failure.status

abbrev Course := Traced Completion

def Course.fail (failure : Failure) : Course := pure { result := .error failure }

def Machine.openOutput (m : Machine) (path : String) : Except Failure Medium :=
  if path = stdioPath then .ok m.stdout
  else (m.create path).mapError fun e =>
    .reported s!"failed to create output file {path}" [e.text]

def Output.at (path : String) (taken : Text.Bytes) : Output :=
  if path = stdioPath then { stdout := taken } else { file := some (path, taken) }

def deliver (m : Machine) (args : OutputArgs) (stats : List ThreadStats) : Completion :=
  match m.openOutput args.path with
  | .error failure => { result := .error failure }
  | .ok medium =>
    let (written, sink) := Report.write args.format stats medium.fresh
    { result := written.mapError (Failure.ofError "failed to write report")
      output := .at args.path sink.taken.toList }

end SchedLatency.Cli
