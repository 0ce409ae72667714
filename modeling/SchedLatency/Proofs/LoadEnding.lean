import SchedLatency.Proofs.SuccessLog

/-! What the end of a load has a part in. Two runs on hosts that differ only in how loads end measure
the same; the end shows in what is reported of the load, and only after a successful probe. Main
statement: `run_ending`. -/
namespace SchedLatency

def Host.ending (host : Host) (ends : LoadJob → Command → Except OsError Exit) : Host :=
  { host with awaitLoad := ends }

/-- Two results that differ at most in what became of the load. -/
inductive SameMeasurement : Except Error RunReport → Except Error RunReport → Prop where
  | failed (e : Error) : SameMeasurement (.error e) (.error e)
  | measured (stats : List ThreadStats) (log : Log) (load load' : LoadOutcome) :
      SameMeasurement (.ok ⟨stats, log, load⟩) (.ok ⟨stats, log, load'⟩)

theorem SameMeasurement.isOk_eq (same : SameMeasurement value value') : value.isOk = value'.isOk := by
  cases same <;> rfl

namespace Runner
variable {r : Runner} {host : Host}

theorem Ready.ending_iff (ends : LoadJob → Command → Except OsError Exit) :
    r.Ready (host.ending ends) ↔ r.Ready host := by
  constructor
  · intro ready
    exact ⟨ready.interval, ready.threads, ready.loops, ready.workers⟩
  · intro ready
    exact ⟨ready.interval, ready.threads, ready.loops, ready.workers⟩

def alone (r : Runner) : Runner := { r with load := none }

theorem Ready.alone (ready : r.Ready host) (host' : Host) : r.alone.Ready host' :=
  ⟨ready.interval, ready.threads, ready.loops, fun _ load => nomatch load⟩

theorem alone_loadJob? (r : Runner) (host : Host) : r.alone.loadJob? host = none := rfl

theorem alone_loadStarts (r : Runner) (host : Host) : r.alone.LoadStarts host :=
  fun _ started => nomatch started

end Runner

/-- A run that fails has looked at no load's end. -/
theorem Course.ending {r : Runner} {host : Host} (course : Course r host events value)
    (ends : LoadJob → Command → Except OsError Exit) :
    (∃ e, value = .error e ∧ Course r (host.ending ends) events value) ∨
    ∃ output events', value = .ok (r.reportOf host output) ∧
      Course r (host.ending ends) events' (.ok (r.reportOf (host.ending ends) output)) := by
  have still (ready : r.Ready host) : r.Ready (host.ending ends) := (Runner.Ready.ending_iff ends).mpr ready
  cases course with
  | invalid fault refused => exact .inl ⟨_, rfl, .invalid fault refused⟩
  | uncounted c fault valid load count => exact .inl ⟨_, rfl, .uncounted c fault valid load count⟩
  | overflow c cpus valid load count tooMany =>
    exact .inl ⟨_, rfl, .overflow c cpus valid load count tooMany⟩
  | loadNotStarted job cause ready load fails =>
    exact .inl ⟨_, rfl, .loadNotStarted job cause (still ready) load fails⟩
  | probeNotStarted cause ready starts fails =>
    exact .inl ⟨_, rfl, .probeNotStarted cause (still ready) starts fails⟩
  | probeFailed output ready starts ran unsuccessful =>
    exact .inl ⟨_, rfl, .probeFailed output (still ready) starts ran unsuccessful⟩
  | measured output ready starts ran successful =>
    exact .inr ⟨output, _, rfl, .measured output (still ready) starts ran successful⟩

def failedLoad (command : Command) : Exit → String
  | .code n => s!"load generator failed: {command.line} finished with exit code {n}"
  | .signal => s!"load generator failed: {command.line} finished with no exit code (terminated by signal)"

namespace Runner
variable {r : Runner} {host : Host}

theorem message_failedLoad (command : Command) (exit : Exit) :
    (Error.load s!"{command.line} finished with {exit.label}").message = failedLoad command exit := by
  have text (s : String) : (Error.load s).message = "load generator failed: " ++ s := rfl
  rw [text]
  cases exit with
  | code n =>
    have words : " finished with exit code " = " finished with " ++ "exit code " := rfl
    unfold failedLoad Exit.label
    simp only [toString_text, words, String.append_assoc]
  | signal =>
    unfold failedLoad Exit.label
    simp only [toString_text, String.append_assoc]
    rfl

theorem loadFailure?_eq_none_iff (command : Command) (ended : Except OsError Exit) :
    loadFailure? command ended = none ↔ ended = .ok (.code 0) := by
  cases ended with
  | error cause => simp [loadFailure?]
  | ok exit => simp [loadFailure?, Exit.isSuccess_iff]

theorem loadFailure?_of_exit (command : Command) {exit : Exit} (unsuccessful : exit ≠ .code 0) :
    ∃ failure, loadFailure? command (.ok exit) = some failure ∧
      failure.message = failedLoad command exit := by
  have success : exit.isSuccess = false := by simpa [← Exit.isSuccess_iff] using unsuccessful
  exact ⟨_, by simp [loadFailure?, success], message_failedLoad command exit⟩

/-- Without a load the same measurement has the same report, but for the load. -/
theorem alone_reportOf (r : Runner) (host host' : Host) (output : Captured) :
    r.alone.reportOf host' output = { r.reportOf host output with load := .notConfigured } := by
  have probe : r.alone.probe = r.probe := rfl
  unfold reportOf
  rw [probe, awaited_none (r.alone_loadJob? host')]

theorem sameMeasurement_reportOf (r : Runner) (host host' : Host) (output : Captured) :
    SameMeasurement (.ok (r.reportOf host output)) (.ok (r.reportOf host' output)) := by
  unfold reportOf
  exact .measured _ _ _ _

end Runner

def ownErrors (ms : List Message) : List Message :=
  ms.filter fun m => m.level = .error ∧ m.source ≠ .topology

/-- What a successful run makes of its load, in its report and in its messages. -/
structure LoadReported (r : Runner) (host : Host) (report : RunReport) : Prop where
  notConfigured : report.load = .notConfigured ↔ r.load = none
  completed : report.load = .completed ↔ ∃ job, r.loadJob? host = some job ∧
    host.awaitLoad job (r.probeCommand host) = .ok (.code 0)
  failed : ∀ job exit, r.loadJob? host = some job →
    host.awaitLoad job (r.probeCommand host) = .ok exit → exit ≠ .code 0 →
      report.load = .failed (failedLoad job.command exit)
  /-- The command that is named is the one that was started. -/
  launched : ∀ job, r.loadJob? host = some job →
    .launchedLoad job.dir job.command.argv ∈ (r.run host).1.events
  errors : ownErrors (r.messages host) = report.load.errors ++ report.log.messages
  once : ∀ text, report.load = .failed text →
    (ownErrors (r.messages host)).filter (·.text = text) = [⟨.error, .runner, text⟩]

section Reported
variable {r : Runner} {host : Host}

theorem ownErrors_journalOf (start : Phase) (output : Captured) :
    ownErrors (messages start (r.journalOf host output)) =
      (r.reportOf host output).load.errors ++ (r.reportOf host output).log.messages := by
  have load : ownErrors (r.reportOf host output).load.errors =
      (r.reportOf host output).load.errors := by
    apply List.filter_eq_self.mpr
    intro m member
    simp [LoadOutcome.kind_errors member]
  have lines : ownErrors (r.reportOf host output).log.messages =
      (r.reportOf host output).log.messages := by
    apply List.filter_eq_self.mpr
    intro m member
    simp [Log.kind_messages member]
  have short : ownErrors (Runner.shortfalls r.probe (r.reportOf host output).log) = [] := by
    apply List.filter_eq_nil_iff.mpr
    intro m member
    rcases (Runner.kind_shortfalls member).2 with warn | debug <;> simp [*]
  unfold ownErrors at load lines short ⊢
  rw [filter_messages_logged _ (by simp [phaseChange]),
    r.filter_logged_journalOf host output _ (by simp) (by simp), load, lines, short, List.append_nil]

/-- What is said of a load does not begin as what is said of a line does. -/
theorem text_ne_of_awaited_failed (failed : (r.awaited host).value = .failed text) {log : Log}
    {m : Message} (member : m ∈ log.messages) : m.text ≠ text := by
  have begins : text.toList.head? = some 'l' := by
    cases load : r.loadJob? host with
    | none => simp [Runner.awaited_none load] at failed
    | some job =>
      cases ended : Runner.loadFailure? job.command (host.awaitLoad job (r.probeCommand host)) with
      | none => simp [Runner.awaited_completed load ended] at failed
      | some e =>
        obtain ⟨why, rfl⟩ := Runner.exists_of_loadFailure? ended
        have words : (Error.load why).message = "load generator failed: " ++ why := rfl
        simp only [Runner.awaited_failed load ended, LoadOutcome.failed.injEq, words] at failed
        simp [← failed]
  obtain ⟨reject, _, rfl⟩ := List.mem_map.mp member
  have words : reject.error.message =
      "failed to parse latency line " ++ Text.quote reject.line ++ ": " ++ reject.fault.reason := rfl
  rintro rfl
  simp [words] at begins

theorem awaited_of_exit {exit : Exit} (load : r.loadJob? host = some job)
    (ended : host.awaitLoad job (r.probeCommand host) = .ok exit) (unsuccessful : exit ≠ .code 0) :
    (r.awaited host).value = .failed (failedLoad job.command exit) := by
  obtain ⟨failure, found, text⟩ := Runner.loadFailure?_of_exit job.command unsuccessful
  rw [← ended] at found
  rw [Runner.awaited_failed load found, text]

theorem awaited_completed_iff : (r.awaited host).value = .completed ↔ ∃ job,
    r.loadJob? host = some job ∧ host.awaitLoad job (r.probeCommand host) = .ok (.code 0) := by
  cases load : r.loadJob? host with
  | none => simp [Runner.awaited_none load]
  | some job =>
    have success := Runner.loadFailure?_eq_none_iff job.command (host.awaitLoad job (r.probeCommand host))
    cases ended : Runner.loadFailure? job.command (host.awaitLoad job (r.probeCommand host)) with
    | none => simp [Runner.awaited_completed load ended, success.mp ended]
    | some failure =>
      have other : host.awaitLoad job (r.probeCommand host) ≠ .ok (.code 0) := by simp [← success, ended]
      simp [Runner.awaited_failed load ended, other]

theorem awaited_notConfigured_iff : (r.awaited host).value = .notConfigured ↔ r.loadJob? host = none := by
  cases load : r.loadJob? host with
  | none => simp [Runner.awaited_none load]
  | some job =>
    cases ended : Runner.loadFailure? job.command (host.awaitLoad job (r.probeCommand host)) with
    | none => simp [Runner.awaited_completed load ended]
    | some failure => simp [Runner.awaited_failed load ended]

theorem loadReported_reportOf (output : Captured) (ready : r.Ready host)
    (journal : (r.run host).1.events = r.journalOf host output) :
    LoadReported r host (r.reportOf host output) := by
  have configured : r.loadJob? host = none ↔ r.load = none := by
    rw [← Option.isNone_iff_eq_none, ← Option.isNone_iff_eq_none, ← Option.not_isSome,
      ← Option.not_isSome, ready.isSome_loadJob?]
  have errors : ownErrors (r.messages host) =
      (r.reportOf host output).load.errors ++ (r.reportOf host output).log.messages := by
    rw [← ownErrors_journalOf r.phase output, ← journal]
    rfl
  refine ⟨awaited_notConfigured_iff.trans configured, awaited_completed_iff, ?_, ?_, errors, ?_⟩
  · intro job exit load ended unsuccessful
    exact awaited_of_exit load ended unsuccessful
  · intro job load
    rw [journal]
    simp [Runner.journalOf, load, startingLoad, launchingLoad]
  · intro text failed
    have quiet : (r.reportOf host output).log.messages.filter (·.text = text) = [] := by
      apply List.filter_eq_nil_iff.mpr
      intro m member
      simpa using text_ne_of_awaited_failed failed member
    rw [errors, failed, List.filter_append, quiet]
    simp [LoadOutcome.errors]

end Reported

/-- A run beside another on a host where loads end in another way. -/
structure Unaffected (r : Runner) (host host' : Host) : Prop where
  result : SameMeasurement (r.run host).1.value (r.run host').1.value
  /-- A run that fails has not looked at the load's end. -/
  failed : (r.run host).1.value.isOk = false → r.run host = r.run host'
  probe : ∀ argv, .launchedProbe argv ∈ (r.run host).1.events ↔
    .launchedProbe argv ∈ (r.run host').1.events
  left : (r.run host).2 = (r.run host').2

theorem Runner.unaffected (r : Runner) (host : Host) (ends : LoadJob → Command → Except OsError Exit) :
    Unaffected r host (host.ending ends) := by
  have course : Course r host (r.run host).1.events (r.run host).1.value := r.attempt_course host
  rcases course.ending ends with ⟨e, failed, other⟩ | ⟨output, events', finished, other⟩
  · have attempt : r.attempt (host.ending ends) = r.attempt host := other.attempt_eq
    have same : r.run host = r.run (host.ending ends) := by rw [run, run, attempt]
    refine ⟨?_, fun _ => same, fun argv => by rw [same], by rw [same]⟩
    rw [← same, failed]
    exact .failed e
  · have value : (r.run (host.ending ends)).1.value = .ok (r.reportOf (host.ending ends) output) :=
      congrArg Traced.value other.attempt_eq
    have result : SameMeasurement (r.run host).1.value (r.run (host.ending ends)).1.value := by
      rw [finished, value]
      exact sameMeasurement_reportOf r host (host.ending ends) output
    have launched (argv : List String) := course.launchedProbe_iff argv
    have launched' (argv : List String) := (r.attempt_course (host.ending ends)).launchedProbe_iff argv
    refine ⟨result, ?_, ?_, by rw [run_snd, run_snd, result.isOk_eq]⟩
    · intro failed
      simp [finished, Except.isOk, Except.toBool] at failed
    · intro argv
      rw [launched argv]
      exact ((launched' argv).trans (and_congr_left' (Ready.ending_iff ends))).symm

/-- How the load ends decides what is reported of the load, and nothing else: a run fails or succeeds
with the same measurement whatever the end, and with the measurement that is made without any load if
the probe does the same there. -/
theorem run_ending (r : Runner) (host : Host) (ends : LoadJob → Command → Except OsError Exit) :
    Unaffected r host (host.ending ends) ∧
    ∀ report, (r.run host).1.value = .ok report → LoadReported r host report ∧
      ∀ host', r.alone.probeOutcome host' = r.probeOutcome host →
        (r.alone.run host').1.value = .ok { report with load := .notConfigured } := by
  refine ⟨r.unaffected host ends, ?_⟩
  intro report finished
  obtain ⟨output, ready, ran, successful, rfl, journal⟩ :=
    (r.attempt_course host).exists_of_ok finished
  refine ⟨loadReported_reportOf output ready journal, ?_⟩
  intro host' same
  have measured := Course.measured output (ready.alone host') (r.alone_loadStarts host')
    (same.trans ran) successful
  rw [← Runner.alone_reportOf r host host' output]
  exact congrArg Traced.value measured.attempt_eq

def killingHost : Host where
  lscpu := .error .notFound
  cpuinfo := .error .notFound
  startLoad _ := .ok ()
  runProbe _ _ := .ok ⟨.code 0, [], []⟩
  awaitLoad _ _ := .ok .signal

def loadedRunner : Runner where
  probe := ⟨⟨.realTime, 80⟩, 1000, 1, 5, .all⟩
  load := some ⟨⟨.realTime, 20⟩, 2⟩
  topology _ := .fixed (.ok 4) (.ok [])
  loadDir := "/tmp"

theorem run_ending_killed : ∃ report, (loadedRunner.run killingHost).1.value = .ok report ∧
    report.load = .failed ("load generator failed: stress-ng --timeout=1s --cpu=8 --sched=rr " ++
      "--sched-prio=20 finished with no exit code (terminated by signal)") ∧
    loadedRunner.alone.probeOutcome killingHost = loadedRunner.probeOutcome killingHost ∧
    (loadedRunner.alone.run killingHost).1.value = .ok { report with load := .notConfigured } := by
  have succeeds : (loadedRunner.run killingHost).1.value.isOk = true := by decide
  have job : loadedRunner.loadJob? killingHost = some ⟨⟨"stress-ng", ["--timeout=1s", "--cpu=8",
    "--sched=rr", "--sched-prio=20"]⟩, "/tmp"⟩ := by decide
  cases value : (loadedRunner.run killingHost).1.value with
  | error e => simp [value, Except.isOk, Except.toBool] at succeeds
  | ok report =>
    obtain ⟨reported, alone⟩ := (run_ending loadedRunner killingHost killingHost.awaitLoad).2 report value
    have failed := reported.failed _ .signal job rfl (by decide)
    refine ⟨report, rfl, failed.trans (congrArg LoadOutcome.failed ?_), rfl, alone killingHost rfl⟩
    decide +kernel

end SchedLatency
