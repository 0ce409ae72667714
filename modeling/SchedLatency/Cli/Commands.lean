import SchedLatency.Cli.Machine
import SchedLatency.Runner

/-! The commands. `run` is one run on this machine and its report, `parse` the report of a log that
was captured earlier, and `check` tells whether the programs that a run may need are there and the
processors can be counted. Core groups are shown by the check, but a run can do without them. -/
namespace SchedLatency.Cli

def runNote (level : Level) (text : String) : Traced Unit := Traced.log level .runCommand text

def RunArgs.wantsRealTime (args : RunArgs) : Bool :=
  args.probe.sched.policy == .realTime || args.load.any (·.sched.policy == .realTime)

def describeProbe (c : ProbeConfig) : String :=
  s!"PROBE: policy={c.sched.policy.label} priority={c.sched.priority} interval={c.interval}us " ++
    s!"threads={c.threads} loops={c.loops} affinity={c.affinity.label}"

def describeLoad : Option LoadConfig → String
  | none => "LOAD:  none"
  | some c => s!"LOAD:  policy={c.sched.policy.label} priority={c.sched.priority} " ++
      s!"workers/cpu={c.workersPerCpu}"

def announce (m : Machine) (args : RunArgs) : Traced Unit := do
  if args.wantsRealTime && !m.isRoot then
    runNote .warn "REAL-TIME POLICY REQUESTED WITHOUT ROOT -- THE PROBE WILL LIKELY FAIL"
  runNote .info (describeProbe args.probe)
  runNote .info (describeLoad args.load)

def RunArgs.runner (m : Machine) (args : RunArgs) : Runner :=
  { probe := args.probe, load := args.load, programs := args.programs, loadDir := m.tempDir }

def RunArgs.execute (m : Machine) (args : RunArgs) : Course := do
  announce m args
  match ← (args.runner m).attempt m.toHost with
  | .error e => Course.fail (.ofError "benchmark run failed" e)
  | .ok report =>
    runNote .info (s!"COLLECTED {report.log.total} SAMPLES ACROSS {report.log.threads} THREADS " ++
      s!"({report.stats.length} REPORTED)")
    return deliver m args.output report.stats

def parseNote (level : Level) (text : String) : Traced Unit := Traced.log level .parseCommand text

/-- The text of the log, which has to be UTF-8. -/
def ParseArgs.read (m : Machine) (args : ParseArgs) : Except Failure String :=
  let (bytes, origin) :=
    if args.input = stdioPath then (m.stdin, "from stdin") else (m.fileBytes args.input, args.input)
  match bytes with
  | .error e => .error (.reported s!"failed to read probe log {origin}" [e.text])
  | .ok bytes =>
    match Text.Utf8.decode? bytes with
    | some text => .ok text
    | none => .error (.reported s!"failed to read probe log {origin}" [OsError.notUtf8.text])

def ParseArgs.execute (m : Machine) (args : ParseArgs) : Course :=
  if args.threads = 0 then Course.fail (.reported "at least one thread is required")
  else
    match args.read m with
    | .error failure => Course.fail failure
    | .ok text => do
      let log ← Log.read text args.threads
      if 0 < log.rejected then
        parseNote .warn s!"{log.rejected} MALFORMED LINES SKIPPED"
      parseNote .info s!"PARSED {log.total} SAMPLES ACROSS {log.threads} THREADS"
      return deliver m args.output log.stats

def row (label text : String) : String :=
  "  " ++ label ++ String.ofList (List.replicate (24 - label.length) ' ') ++ text

def tools (programs : Programs) : List String := [programs.probe, programs.load, "nice", "lscpu"]

def Machine.toolRow (m : Machine) (tool : String) : String :=
  row tool (if m.finds tool then "OK" else "MISSING")

def Machine.rootRow (m : Machine) : String :=
  row "root" (if m.isRoot then "YES" else "NO (rr POLICY WILL FAIL)")

def cpuRow : Except TopologyFault Nat → String
  | .ok n => row "cpus" (toString n)
  | .error fault => row "cpus" s!"UNKNOWN ({fault.error.message})"

def coreRows : Except TopologyFault (List String) → List String
  | .ok [small, big] => [row "small cores" small, row "big cores" big]
  | .ok ranges => [row "core groups" (s!"{ranges.length} GROUP(S) {Text.quoteAll ranges}" ++
      " -- small_core/big_core FALL BACK TO CPU 0")]
  | .error fault => [row "core groups" s!"UNKNOWN ({fault.error.message})"]

def Machine.isReady (m : Machine) (programs : Programs) : Bool :=
  (tools programs).all m.finds && m.cpuCount.toBool

def Machine.hints (m : Machine) (programs : Programs) : List String :=
  (if m.finds programs.probe then [] else ["  Install cyclictest: part of rt-tests"]) ++
  (if m.finds programs.load then [] else ["  Install stress-ng: pacman -S stress-ng"])

def Machine.verdict (m : Machine) (programs : Programs) : Except Failure Unit :=
  if m.isReady programs then .ok () else .error (.reported "SOME CHECKS FAILED")

def Machine.firstRows (m : Machine) (programs : Programs) : List String :=
  ["CYCLICBENCH DEPENDENCY CHECK", ""] ++ (tools programs).map m.toolRow ++
  ["", m.rootRow, "", "TOPOLOGY:", cpuRow m.cpuCount]

def Machine.lastRows (m : Machine) (programs : Programs)
    (ranges : Except TopologyFault (List String)) : List String :=
  coreRows ranges ++ [""] ++
  (if m.isReady programs then ["ALL CHECKS PASSED"] else m.hints programs)

/-- The end of a command that prints. It panics if standard output does not take all. -/
def Completion.printed (result : Except Failure Unit) : Except OsError Unit × Sink → Completion
  | (.ok (), sink) => { result := result, output := { stdout := sink.taken.toList } }
  | (.error cause, sink) =>
    { result := .error (.panicked s!"failed printing to stdout: {cause.text}")
      output := { stdout := sink.taken.toList } }

/-- The core groups are asked for, and what that logs is logged, between the lines. -/
def Machine.check (m : Machine) (programs : Programs) : Course :=
  match m.stdout.fresh.print (m.firstRows programs) with
  | (.ok (), sink) => do
    let ranges ← m.coreRanges.traced
    return .printed (m.verdict programs) (sink.print (m.lastRows programs ranges))
  | stuck => return .printed (m.verdict programs) stuck

end SchedLatency.Cli
