import SchedLatency.Proofs.Refusals
import SchedLatency.Proofs.SuccessLog

/-! What a log says of the samples that it lacks. Its reading tells each refused line; a run that succeeds
then warns of their number, if there are any, and names the threads with too few samples. Main statement:
`shortfalls_told`. -/
namespace SchedLatency

open Text (lines)

theorem messages_map_logged (start : Phase) (told : List Message) (rest : List Event) :
    messages start (told.map .logged ++ rest) = told ++ messages start rest := by
  induction told with
  | nil => rfl
  | cons m told ih => rw [List.map_cons, List.cons_append, messages, ih, List.cons_append]

theorem mem_messages {events : List Event} (member : m ∈ messages start events) :
    (∃ old new, m = phaseChange old new) ∨ m ∈ logged events := by
  induction events generalizing start with
  | nil => cases member
  | cons e events ih =>
    cases e with
    | entered next =>
      rcases List.mem_cons.mp member with rfl | later
      · exact .inl ⟨_, _, rfl⟩
      · exact ih later
    | logged m' =>
      rcases List.mem_cons.mp member with rfl | later
      · exact .inr List.mem_cons_self
      · exact (ih later).imp_right (List.mem_cons_of_mem _)
    | asked | launchedLoad | launchedProbe | probeEnded | awaitedLoad => exact ih member

def skippedLines (log : Log) : List Message :=
  if 0 < log.rejected then [⟨.warn, .runner, s!"{log.rejected} MALFORMED PROBE LINES SKIPPED"⟩] else []

/-- The threads with fewer samples than are expected of each, in the order of the threads. -/
def shortThreads (expected : Nat) (log : Log) : List Message :=
  ((List.range log.threads).filter fun t => (log.thread t).length < expected).map fun t =>
    ⟨.debug, .runner, s!"THREAD {t}: {(log.thread t).length} OF {expected} SAMPLES"⟩

theorem zipIdx_latencies (log : Log) :
    log.latencies.zipIdx = (List.range log.threads).map fun t => (log.thread t, t) := by
  rw [log.latencies_eq]
  apply List.ext_getElem
  · simp
  · intro t _ _
    simp

theorem shortfalls_eq (c : ProbeConfig) (log : Log) :
    Runner.shortfalls c log = skippedLines log ++ shortThreads c.loops log := by
  rw [Runner.shortfalls, zipIdx_latencies, List.filter_map, List.map_map]
  rfl

/-- The journal of a successful run up to the reading of what the probe printed. -/
def Runner.journalBefore (r : Runner) (host : Host) (output : Captured) : List Event :=
  r.queried host ++ startingLoad (r.loadJob? host) ++ runningProbe (r.probeCommand host) output.exit ++
    (r.awaited host).events

section Journal
variable (r : Runner) (host : Host) (output : Captured)

theorem messages_journalOf (start : Phase) : messages start (r.journalOf host output) =
    messages start (r.journalBefore host output) ++ (r.reportOf host output).log.messages ++
      Runner.shortfalls r.probe (r.reportOf host output).log ++
      [phaseChange (phaseAfter start (r.journalBefore host output)) .done] := by
  have parts : r.journalOf host output = r.journalBefore host output ++
      (((r.reportOf host output).log.messages ++
        Runner.shortfalls r.probe (r.reportOf host output).log).map .logged ++ [.entered .done]) := by
    rw [Runner.journalOf, Runner.events_readOutput, List.append_assoc]
    rfl
  rw [parts, messages_append, messages_map_logged]
  simp only [List.append_assoc]
  rfl

theorem kind_journalBefore (member : m ∈ messages start (r.journalBefore host output)) :
    (∃ old new, m = phaseChange old new) ∨ m.source = .topology ∨
      m.source = .runner ∧ (m.level = .info ∨ m.level = .error) := by
  refine (mem_messages member).imp_right ?_
  intro told
  have probe : logged (runningProbe (r.probeCommand host) output.exit) =
    [executing (r.probeCommand host)] := rfl
  rw [Runner.journalBefore, logged_append, logged_append, logged_append, Runner.logged_startingLoad, probe,
    Runner.logged_awaited] at told
  simp only [List.mem_append, List.mem_map, List.mem_singleton] at told
  rcases told with ((asked | ⟨job, _, rfl⟩) | rfl) | load
  · rcases queried_fromTopology r host (mem_logged.mp asked) with ⟨query, same⟩ | ⟨level, text, same⟩
    · cases same
    · cases same
      exact .inl rfl
  · exact .inr ⟨rfl, .inl rfl⟩
  · exact .inr ⟨rfl, .inl rfl⟩
  · obtain ⟨level, source⟩ := LoadOutcome.kind_errors load
    exact .inr ⟨source, .inr level⟩

end Journal

/-- What a run says that has succeeded: whatever it says first, then each refused line of what the probe
printed, then what it lacks. -/
structure TellsShortfalls (r : Runner) (host : Host) (report : RunReport) : Prop where
  log : ∃ output, r.probeOutcome host = .ok output ∧
    report.log = .parse (Text.Utf8.lossy output.stdout) r.probe.threads ∧
    RefusalLog r.probe.threads (lines (Text.Utf8.lossy output.stdout).toList) report.log.messages
  told : ∃ before last, r.messages host =
      before ++ report.log.messages ++ skippedLines report.log ++ shortThreads r.probe.loops report.log ++
        [phaseChange last .done] ∧
    ∀ m ∈ before, (∃ old new, m = phaseChange old new) ∨ m.source = .topology ∨
      m.source = .runner ∧ (m.level = .info ∨ m.level = .error)

theorem Course.tellsShortfalls (course : Course r host events value) (finished : value = .ok report) :
    TellsShortfalls r host report := by
  obtain ⟨output, _, ran, _, rfl, rfl⟩ := course.exists_of_ok finished
  have log : (r.reportOf host output).log = .parse (Text.Utf8.lossy output.stdout) r.probe.threads := by
    rw [r.reportOf_eq host output]
  constructor
  · refine ⟨output, ran, log, ?_⟩
    rw [log]
    exact refusalLog_messages _ _
  · refine ⟨messages r.phase (r.journalBefore host output), phaseAfter r.phase (r.journalBefore host output),
      ?_, fun m => kind_journalBefore r host output⟩
    rw [Runner.messages, course.attempt_eq, messages_journalOf, shortfalls_eq]
    simp only [List.append_assoc]

/-- The reading of a text says which of its lines are refused and why, and nothing else, one message for
each rejected line. A run that succeeds says so of what its probe has printed, and then how many lines
there were, if any, and which threads have too few samples. -/
theorem shortfalls_told :
    (∀ text n, ∃ told, Log.read text n = ⟨told.map .logged, .parse text n⟩ ∧
      RefusalLog n (lines text.toList) told ∧ told.length = (Log.parse text n).rejected) ∧
    ∀ r host report, (Runner.run r host).1.value = .ok report → TellsShortfalls r host report := by
  constructor
  · intro text n
    exact ⟨_, rfl, refusalLog_messages text n, by simp [Log.messages, Log.rejected]⟩
  · intro r host report finished
    exact (r.attempt_course host).tellsShortfalls finished

/-- A probe that prints a sample, a line that is wrong in its second and third field, and a line of a
thread that there is not. -/
def faultyHost : Host where
  lscpu := .error .notFound
  cpuinfo := .error .notFound
  startLoad _ := .ok ()
  runProbe _ _ := .ok ⟨.code 0, Text.Utf8.encode "0: 0: 9\n0: +1: x\n7: 0: 1\n", []⟩
  awaitLoad _ _ := .ok (.code 0)

def pairRunner : Runner where
  probe := ⟨⟨.realTime, 80⟩, 1000, 2, 2, .all⟩
  load := none
  loadDir := "/tmp"

def pairShortfalls : List Message := [
  ⟨.error, .log, "failed to parse latency line \"0: +1: x\": \"+1\" is not an unsigned integer"⟩,
  ⟨.error, .log, "failed to parse latency line \"7: 0: 1\": thread id 7 outside 0..2"⟩,
  ⟨.warn, .runner, "2 MALFORMED PROBE LINES SKIPPED"⟩,
  ⟨.debug, .runner, "THREAD 0: 1 OF 2 SAMPLES"⟩,
  ⟨.debug, .runner, "THREAD 1: 0 OF 2 SAMPLES"⟩]

theorem shortfalls_told_pair : ∃ report before last, (pairRunner.run faultyHost).1.value = .ok report ∧
    pairRunner.messages faultyHost = before ++ pairShortfalls ++ [phaseChange last .done] := by
  cases value : (pairRunner.run faultyHost).1.value with
  | error e =>
    have succeeds : (pairRunner.run faultyHost).1.value.isOk = true := by decide +kernel
    simp [value, Except.isOk, Except.toBool] at succeeds
  | ok report =>
    obtain ⟨⟨output, ran, log, _⟩, before, last, told, _⟩ := shortfalls_told.2 _ _ report value
    have printed : .ok output = pairRunner.probeOutcome faultyHost := ran.symm
    obtain rfl : output = _ := Except.ok.inj printed
    refine ⟨report, before, last, rfl, told.trans ?_⟩
    have lacks : report.log.messages ++ skippedLines report.log ++
        shortThreads pairRunner.probe.loops report.log = pairShortfalls := by
      rw [log]
      decide +kernel
    rw [← lacks]
    simp only [List.append_assoc]

end SchedLatency
