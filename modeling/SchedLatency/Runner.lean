import SchedLatency.Host
import SchedLatency.Stats

/-! A run of the probe, with or without load. The load is started first and not awaited, the probe
is run to its end, and the load is awaited only after that. A probe that fails ends the run; a load
that fails is reported and the measurement stands. In a session, changes to a runner's set-up leave
the phase alone, and runs, on hosts that may differ from one to the next, leave all else alone. -/
namespace SchedLatency

inductive LoadOutcome where
  | notConfigured
  | completed
  | failed (text : String)
  deriving DecidableEq, Repr

structure RunReport where
  stats : List ThreadStats
  log : Log
  load : LoadOutcome
  deriving Repr

/-- A measurement set up to be run, any number of times. -/
structure Runner where
  probe : ProbeConfig
  load : Option LoadConfig
  programs : Programs := {}
  topology : Platform → Topology := Platform.topology
  /-- The load generator needs a directory that it can write to. -/
  loadDir : String
  phase : Phase := .idle

namespace Runner

def note (level : Level) (text : String) : Traced Unit := Traced.log level .runner text

def enter (phase : Phase) : Traced Unit := Traced.emit (.entered phase)

def commands (r : Runner) (t : Topology) : Attempt (Command × Option Command) := do
  Attempt.ofExcept (r.probe.validate.mapError ConfigFault.error)
  let probe ← r.probe.command r.programs t
  let load ← loadCommand r.load r.probe.loadTimeout r.programs t
  return (probe, load)

def startLoad (host : Host) (job : LoadJob) : Attempt Unit := do
  note .info s!"EXECUTE COMMAND: {job.command.line}"
  Traced.emit (.launchedLoad job.dir job.command.argv)
  Attempt.ofExcept ((host.startLoad job).mapError (.spawn job.command.program))
  enter .loadStarted

def startLoad? (host : Host) (job : Option LoadJob) : Attempt Unit :=
  match job with
  | none => pure ()
  | some job => startLoad host job

def runProbe (host : Host) (job : Option LoadJob) (probe : Command) : Attempt Captured := do
  note .info s!"EXECUTE COMMAND: {probe.line}"
  enter .probeRunning
  Traced.emit (.launchedProbe probe.argv)
  let output ← Attempt.ofExcept ((host.runProbe job probe).mapError (.spawn probe.program))
  Traced.emit (.probeEnded output.exit)
  enter .probeComplete
  return output

def probeFailure (output : Captured) : Error :=
  .probe output.exit (Text.Utf8.lossy output.stdout) (Text.Utf8.lossy output.stderr)

/-- What is said of a failed probe. Its load is still running and is left to its timeout. -/
def failureReport (output : Captured) (timeout : Nat) (job : Option LoadJob) : List Message :=
  [⟨.error, .runner, s!"FAILED TO EXECUTE PROBE: {output.exit.label}"⟩,
    ⟨.error, .runner, s!"STDOUT: {Text.Utf8.lossy output.stdout}"⟩,
    ⟨.error, .runner, s!"STDERR: {Text.Utf8.lossy output.stderr}"⟩] ++
  if job.isSome then
    [⟨.warn, .runner, s!"LOAD GENERATOR LEFT TO EXPIRE ON ITS OWN ({timeout}s TIMEOUT)"⟩]
  else []

def loadFailure? (command : Command) : Except OsError Exit → Option Error
  | .ok exit =>
    if exit.isSuccess then none else some (.load s!"{command.line} finished with {exit.label}")
  | .error cause => some (.load s!"failed to wait for {command.program}: {cause.text}")

def awaitLoad (host : Host) (job : LoadJob) (probe : Command) : Traced LoadOutcome := do
  Traced.emit .awaitedLoad
  let outcome ← match loadFailure? job.command (host.awaitLoad job probe) with
    | none => pure LoadOutcome.completed
    | some failure => do
      note .error failure.message
      pure (LoadOutcome.failed failure.message)
  enter .loadVerified
  return outcome

def awaitLoad? (host : Host) (job : Option LoadJob) (probe : Command) : Traced LoadOutcome :=
  match job with
  | none => pure .notConfigured
  | some job => awaitLoad host job probe

/-- What is said of refused lines, and of threads with too few samples. -/
def shortfalls (c : ProbeConfig) (log : Log) : List Message :=
  (if 0 < log.rejected then
    [⟨.warn, .runner, s!"{log.rejected} MALFORMED PROBE LINES SKIPPED"⟩] else []) ++
  (log.latencies.zipIdx.filter fun (samples, _) => samples.length < c.loops).map
    fun (samples, thread) =>
      ⟨.debug, .runner, s!"THREAD {thread}: {samples.length} OF {c.loops} SAMPLES"⟩

def readOutput (c : ProbeConfig) (stdout : Text.Bytes) : Traced Log := do
  let log ← Log.read (Text.Utf8.lossy stdout) c.threads
  Traced.say (shortfalls c log)
  return log

/-- A measurement with commands that are known, up to its report or its first fatal failure. -/
def measure (r : Runner) (host : Host) (probe : Command) (job : Option LoadJob) :
    Attempt RunReport := do
  startLoad? host job
  let output ← runProbe host job probe
  if output.exit.isSuccess then
    let outcome ← awaitLoad? host job probe
    let log ← readOutput r.probe output.stdout
    return ⟨log.stats, log, outcome⟩
  else
    Traced.say (failureReport output r.probe.loadTimeout job)
    throw (probeFailure output)

def execute (r : Runner) (host : Host) : Attempt RunReport := do
  let (probe, load) ← r.commands (r.topology host.toPlatform)
  r.measure host probe (load.map (⟨·, r.loadDir⟩))

/-- A run, whose last phase tells how it went. -/
def attempt (r : Runner) (host : Host) : Traced (Except Error RunReport) := do
  let result ← (r.execute host).run
  enter (match result with
    | .ok _ => .done
    | .error _ => .failed)
  return result

/-- A runner keeps nothing of a run but the phase it ended in. -/
def run (r : Runner) (host : Host) : Traced (Except Error RunReport) × Runner :=
  let ran := r.attempt host
  (ran, { r with phase := phaseAfter r.phase ran.events })

def messages (r : Runner) (host : Host) : List Message :=
  SchedLatency.messages r.phase (r.attempt host).events

end Runner

inductive Change where
  | programs (programs : Programs)
  | topology (topology : Topology)
  | loadDir (dir : String)

inductive Step where
  | change (c : Change)
  | run (host : Host)

namespace Runner

def change (r : Runner) : Change → Runner
  | .programs programs => { r with programs := programs }
  | .topology topology => { r with topology := fun _ => topology }
  | .loadDir dir => { r with loadDir := dir }

def step (r : Runner) : Step → Runner
  | .change c => r.change c
  | .run host => (r.run host).2

def play (r : Runner) (steps : List Step) : Runner := steps.foldl step r

@[simp] theorem phase_change (r : Runner) (c : Change) : (r.change c).phase = r.phase := by
  cases c <;> rfl

@[simp] theorem play_nil (r : Runner) : r.play [] = r := rfl

theorem play_cons (r : Runner) (s : Step) (steps : List Step) :
    r.play (s :: steps) = (r.step s).play steps := rfl

end Runner
end SchedLatency
