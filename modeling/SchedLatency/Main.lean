import SchedLatency.Cli.Program

/-! The executable. It collects what the commands ask of the machine, runs the program on that, and
carries out what came of it. It starts no other program: on the host that it shows to a run, every
attempt to start one fails. -/
namespace SchedLatency.Main

open Cli
open Text (Bytes)

def notImplemented : OsError := ⟨"Function not implemented (os error 38)"⟩

def describe : IO.Error → OsError
  | .noFileOrDirectory .. => .notFound
  | e => ⟨toString e⟩

def attempt (action : IO α) : IO (Except OsError α) := do
  try return .ok (← action)
  catch e => return .error (describe e)

partial def readAll (input : IO.FS.Stream) (taken : ByteArray) : IO ByteArray := do
  let chunk ← input.read 65536
  if chunk.isEmpty then return taken else readAll input (taken ++ chunk)

def fileBytes (path : String) : IO (Except OsError Bytes) :=
  attempt (ByteArray.toList <$> IO.FS.readBinFile path)

def finds (tool : String) : IO Bool := do
  let dirs := ((← IO.getEnv "PATH").getD "").splitOn ":"
  dirs.anyM fun dir => do
    return (← attempt (IO.FS.Handle.mk (dir ++ "/" ++ tool) .read)).toBool

/-- Whether the second user id of this process, the effective one, is zero. -/
def isRoot : IO Bool := do
  match ← fileBytes "/proc/self/status" with
  | .error _ => return false
  | .ok bytes => return ((Text.Utf8.lossy bytes).splitOn "\n").any fun line =>
      line.startsWith "Uid:" && (line.splitOn "\t").getD 2 "" == "0"

def variableNames : List String :=
  ["RUST_LOG", "TMPDIR", "CYCLICBENCH_PROBE_BIN", "CYCLICBENCH_LOAD_BIN"]

def environment : IO (List (String × String)) := do
  variableNames.filterMapM fun name => do return (← IO.getEnv name).map (name, ·)

def machine (env : String → Option String) (request : Option Request) : IO Machine := do
  let cpuinfo ← fileBytes "/proc/cpuinfo"
  let input := match request with
    | some (.parse args) => some args.input
    | _ => none
  let stdin ← if input == some stdioPath then
      attempt do return (← readAll (← IO.getStdin) .empty).toList
    else pure (.ok [])
  let content ← match input with
    | some path => if path == stdioPath then pure (.ok []) else fileBytes path
    | none => pure (.ok [])
  let found ← match request with
    | some (.check programs) => (tools programs).filterM finds
    | _ => pure []
  let root ← isRoot
  return {
    lscpu := .error notImplemented
    cpuinfo := cpuinfo
    startLoad := fun _ => .error notImplemented
    runProbe := fun _ _ => .error notImplemented
    awaitLoad := fun _ _ => .error notImplemented
    isRoot := root
    env := env
    stdin := stdin
    fileBytes := fun _ => content
    create := fun _ => .ok {}
    stdout := {}
    finds := found.contains }

/-- Writes the file that an outcome asks for. If that fails, the program is run again on a machine
where the file cannot be made. -/
def settle (m : Machine) (arguments : List String) : IO Outcome := do
  let outcome := execute m arguments
  match outcome.output.file with
  | none => return outcome
  | some (path, bytes) =>
    match ← attempt (IO.FS.writeBinFile path ⟨bytes.toArray⟩) with
    | .ok () => return outcome
    | .error e => return execute { m with create := fun _ => .error e } arguments

/-- Writes what an outcome leaves on standard output, again with a second outcome if that fails. -/
def print (m : Machine) (arguments : List String) (outcome : Outcome) : IO Outcome := do
  if outcome.output.stdout.isEmpty then return outcome
  let output ← IO.getStdout
  match ← attempt (do output.write ⟨outcome.output.stdout.toArray⟩; output.flush) with
  | .ok () => return outcome
  | .error e => return execute { m with stdout := { room := some 0, refusal := e } } arguments

def introduce (m : Message) : String := s!"[{m.level.label} {m.source.path}]"

def run (arguments : List String) : IO UInt32 := do
  let env ← environment
  let lookup := fun name => env.lookup name
  let request := (Invocation.read lookup arguments).toOption.map Invocation.request
  let m ← machine lookup request
  let outcome ← print m arguments (← settle m arguments)
  IO.eprint (outcome.stderr introduce)
  return outcome.exit.toUInt32

end SchedLatency.Main

def main (arguments : List String) : IO UInt32 := SchedLatency.Main.run arguments
