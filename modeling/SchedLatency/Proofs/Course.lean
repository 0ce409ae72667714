import SchedLatency.Runner

/-! The courses of a run. `Course` has a constructor for each place where a run can end, with the
circumstances that lead there, the whole journal and the result. Main statements: `attempt_course`,
from which the laws of a run are read off, and `Course.attempt_eq`, that a run has no other course. -/
namespace SchedLatency

namespace Runner
variable (r : Runner) (host : Host)

def view : Topology := r.topology host.toPlatform

/-- The processors are asked for the probe first, and then for the load. -/
def queried : List Event :=
  (r.probe.affinity.resolve (r.view host)).events ++
    if r.load.isSome then (r.view host).askCpuCount.events else []

def probeCommand : Command :=
  .ofProbe r.probe r.programs.probe (r.probe.affinity.resolve (r.view host)).value

/-- The load to be started, if one is configured and the processors can be counted. -/
def loadJob? : Option LoadJob := do
  let c ← r.load
  let cpus ← (r.view host).cpuCount.result.toOption
  return ⟨.ofLoad c r.programs.load r.probe.loadTimeout (c.workersPerCpu * cpus), r.loadDir⟩

/-- Everything is in order that is looked at before anything is started. -/
structure Ready : Prop where
  interval : r.probe.interval ≠ 0
  threads : r.probe.threads ≠ 0
  loops : r.probe.loops ≠ 0
  workers : ∀ c, r.load = some c → ∃ cpus, (r.view host).cpuCount.result = .ok cpus ∧
    c.workersPerCpu * cpus < Text.wordLimit

/-- A number in the configuration is zero, or the workers do not fit into a 64-bit word. -/
def Misconfigured : Prop :=
  r.probe.interval = 0 ∨ r.probe.threads = 0 ∨ r.probe.loops = 0 ∨
    ∃ c cpus, r.load = some c ∧ (r.view host).cpuCount.result = .ok cpus ∧
      Text.wordLimit ≤ c.workersPerCpu * cpus

/-- A load is configured and the processors cannot be counted for it. -/
def Uncounted : Prop := ∃ c fault, r.load = some c ∧ (r.view host).cpuCount.result = .error fault

theorem ready_iff : r.Ready host ↔ ¬ r.Misconfigured host ∧ ¬ r.Uncounted host := by
  constructor
  · intro ready
    refine ⟨?_, ?_⟩
    · rintro (zero | zero | zero | ⟨c, cpus, load, count, tooMany⟩)
      · exact ready.interval zero
      · exact ready.threads zero
      · exact ready.loops zero
      · obtain ⟨cpus', count', fits⟩ := ready.workers c load
        obtain rfl : cpus = cpus' := Except.ok.inj (count.symm.trans count')
        omega
    · rintro ⟨c, fault, load, count⟩
      obtain ⟨cpus, counted, _⟩ := ready.workers c load
      cases count.symm.trans counted
  · rintro ⟨configured, counted⟩
    simp only [Misconfigured, not_or] at configured
    obtain ⟨interval, threads, loops, workers⟩ := configured
    refine ⟨interval, threads, loops, fun c load => ?_⟩
    cases count : (r.view host).cpuCount.result with
    | error fault => exact absurd ⟨c, fault, load, count⟩ counted
    | ok cpus => exact ⟨cpus, rfl, Nat.lt_of_not_le fun tooMany => workers ⟨c, cpus, load, count, tooMany⟩⟩

def LoadStarts : Prop := ∀ job, r.loadJob? host = some job → host.startLoad job = .ok ()

def probeOutcome : Except OsError Captured := host.runProbe (r.loadJob? host) (r.probeCommand host)

def awaited : Traced LoadOutcome := awaitLoad? host (r.loadJob? host) (r.probeCommand host)

def reportOf (output : Captured) : RunReport :=
  let log := (readOutput r.probe output.stdout).value
  ⟨log.stats, log, (r.awaited host).value⟩

end Runner

def launchingLoad (job : LoadJob) : List Event :=
  [.logged ⟨.info, .runner, s!"EXECUTE COMMAND: {job.command.line}"⟩,
    .launchedLoad job.dir job.command.argv]

def startingLoad : Option LoadJob → List Event
  | none => []
  | some job => launchingLoad job ++ [.entered .loadStarted]

def launchingProbe (probe : Command) : List Event :=
  [.logged ⟨.info, .runner, s!"EXECUTE COMMAND: {probe.line}"⟩, .entered .probeRunning,
    .launchedProbe probe.argv]

def runningProbe (probe : Command) (exit : Exit) : List Event :=
  launchingProbe probe ++ [.probeEnded exit, .entered .probeComplete]

/-- The journal and the result of a run, by the place where it ends. -/
inductive Course (r : Runner) (host : Host) : List Event → Except Error RunReport → Prop where
  | invalid (fault : ConfigFault) (refused : r.probe.validate = .error fault) :
      Course r host [.entered .failed] (.error fault.error)
  | uncounted (c : LoadConfig) (fault : TopologyFault) (valid : r.probe.validate = .ok ())
      (load : r.load = some c) (count : (r.view host).cpuCount.result = .error fault) :
      Course r host (r.queried host ++ [.entered .failed]) (.error fault.error)
  | overflow (c : LoadConfig) (cpus : Nat) (valid : r.probe.validate = .ok ())
      (load : r.load = some c) (count : (r.view host).cpuCount.result = .ok cpus)
      (tooMany : Text.wordLimit ≤ c.workersPerCpu * cpus) :
      Course r host (r.queried host ++ [.entered .failed])
        (.error (ConfigFault.workersOverflow c.workersPerCpu cpus).error)
  | loadNotStarted (job : LoadJob) (cause : OsError) (ready : r.Ready host)
      (load : r.loadJob? host = some job) (fails : host.startLoad job = .error cause) :
      Course r host (r.queried host ++ launchingLoad job ++ [.entered .failed])
        (.error (.spawn job.command.program cause))
  | probeNotStarted (cause : OsError) (ready : r.Ready host) (starts : r.LoadStarts host)
      (fails : r.probeOutcome host = .error cause) :
      Course r host (r.queried host ++ startingLoad (r.loadJob? host) ++
          launchingProbe (r.probeCommand host) ++ [.entered .failed])
        (.error (.spawn (r.probeCommand host).program cause))
  | probeFailed (output : Captured) (ready : r.Ready host) (starts : r.LoadStarts host)
      (ran : r.probeOutcome host = .ok output) (unsuccessful : output.exit ≠ .code 0) :
      Course r host (r.queried host ++ startingLoad (r.loadJob? host) ++
          runningProbe (r.probeCommand host) output.exit ++
          (Runner.failureReport output r.probe.loadTimeout (r.loadJob? host)).map .logged ++
          [.entered .failed])
        (.error (Runner.probeFailure output))
  | measured (output : Captured) (ready : r.Ready host) (starts : r.LoadStarts host)
      (ran : r.probeOutcome host = .ok output) (successful : output.exit = .code 0) :
      Course r host (r.queried host ++ startingLoad (r.loadJob? host) ++
          runningProbe (r.probeCommand host) output.exit ++ (r.awaited host).events ++
          (Runner.readOutput r.probe output.stdout).events ++ [.entered .done])
        (.ok (r.reportOf host output))

namespace Runner

section Parts
variable (host : Host) (job : LoadJob) (job? : Option LoadJob) (probe : Command)

theorem run_startLoad?_ok (starts : ∀ job, job? = some job → host.startLoad job = .ok ()) :
    (startLoad? host job?).run = ⟨startingLoad job?, .ok ()⟩ := by
  cases job? with
  | none => rfl
  | some job =>
    simp only [startLoad?, startLoad, starts job rfl]
    rfl

theorem run_startLoad?_error (fails : host.startLoad job = .error cause) :
    (startLoad? host (some job)).run =
      ⟨launchingLoad job, .error (.spawn job.command.program cause)⟩ := by
  simp only [startLoad?, startLoad, fails]
  rfl

theorem run_runProbe_ok (ran : host.runProbe job? probe = .ok output) :
    (runProbe host job? probe).run = ⟨runningProbe probe output.exit, .ok output⟩ := by
  simp only [runProbe, ran]
  rfl

theorem run_runProbe_error (fails : host.runProbe job? probe = .error cause) :
    (runProbe host job? probe).run = ⟨launchingProbe probe, .error (.spawn probe.program cause)⟩ := by
  simp only [runProbe, fails]
  rfl

end Parts

section Commands
variable (programs : Programs) (timeout : Nat) (t : Topology) (c : LoadConfig)

theorem run_countCpus : (Attempt.ofTraced (Except.mapError TopologyFault.error <$> t.askCpuCount)).run =
    ⟨t.askCpuCount.events, t.cpuCount.result.mapError TopologyFault.error⟩ := by
  apply Traced.ext <;> simp [Topology.askCpuCount, Answer.traced]

theorem run_loadCommand_uncounted (count : t.cpuCount.result = .error fault) :
    (loadCommand (some c) timeout programs t).run = ⟨t.askCpuCount.events, .error fault.error⟩ := by
  have answer := run_countCpus t
  rw [count, mapError_error] at answer
  rw [loadCommand, LoadConfig.command, map_eq_pure_bind]
  exact Attempt.run_bind_error (Attempt.run_bind_error answer)

theorem run_loadCommand_counted (count : t.cpuCount.result = .ok cpus) :
    (loadCommand (some c) timeout programs t).run = ⟨t.askCpuCount.events,
      ((c.workers cpus).mapError ConfigFault.error).map
        (some ∘ Command.ofLoad c programs.load timeout)⟩ := by
  have answer := run_countCpus t
  rw [count, mapError_ok] at answer
  rw [loadCommand, LoadConfig.command, ExceptT.run_map, Attempt.run_bind_ok answer]
  cases h : c.workers cpus <;> apply Traced.ext <;> simp [Attempt.ofExcept, Except.map]

end Commands

variable (r : Runner) (host : Host)

theorem run_commands_invalid (t : Topology) (refused : r.probe.validate = .error fault) :
    (r.commands t).run = ⟨[], .error fault.error⟩ := by
  simp only [commands, refused]
  rfl

/-- The probe's command can always be built, so the load's decides. -/
theorem run_commands (t : Topology) (valid : r.probe.validate = .ok ())
    (load : (loadCommand r.load r.probe.loadTimeout r.programs t).run = ⟨events, result⟩) :
    (r.commands t).run = ⟨(r.probe.affinity.resolve t).events ++ events,
      result.map (Command.ofProbe r.probe r.programs.probe (r.probe.affinity.resolve t).value, ·)⟩ := by
  have checked : (Attempt.ofExcept (r.probe.validate.mapError ConfigFault.error)).run =
      ⟨[], .ok ()⟩ := by rw [valid]; rfl
  have probe : (liftM (r.probe.command r.programs t) : Attempt Command).run =
      ⟨(r.probe.affinity.resolve t).events,
        .ok (.ofProbe r.probe r.programs.probe (r.probe.affinity.resolve t).value)⟩ := by
    apply Traced.ext <;> simp [ProbeConfig.command, Except.map]
  rw [commands, Attempt.run_bind_ok checked, Attempt.run_bind_ok probe]
  apply Traced.ext <;> cases result <;> simp [load, Except.map]

theorem misconfigured_of_invalid (refused : r.probe.validate = .error fault) :
    r.Misconfigured host := by
  by_cases interval : r.probe.interval = 0
  · exact .inl interval
  by_cases threads : r.probe.threads = 0
  · exact .inr (.inl threads)
  by_cases loops : r.probe.loops = 0
  · exact .inr (.inr (.inl loops))
  have valid := ProbeConfig.validate_eq_ok_iff.mpr ⟨interval, threads, loops⟩
  cases refused.symm.trans valid

theorem attempt_of_error (failed : (r.execute host).run = ⟨events, .error e⟩) :
    r.attempt host = ⟨events ++ [.entered .failed], .error e⟩ := by
  simp only [attempt, failed]
  rfl

theorem attempt_of_ok (finished : (r.execute host).run = ⟨events, .ok report⟩) :
    r.attempt host = ⟨events ++ [.entered .done], .ok report⟩ := by
  simp only [attempt, finished]
  rfl

theorem run_commands_ready (ready : r.Ready host) : ∃ load,
    (r.commands (r.view host)).run = ⟨r.queried host, .ok (r.probeCommand host, load)⟩ ∧
      load.map (⟨·, r.loadDir⟩) = r.loadJob? host := by
  have valid : r.probe.validate = .ok () :=
    ProbeConfig.validate_eq_ok_iff.mpr ⟨ready.interval, ready.threads, ready.loops⟩
  cases load : r.load with
  | none =>
    have none : (loadCommand r.load r.probe.loadTimeout r.programs (r.view host)).run =
        ⟨[], .ok none⟩ := by rw [load]; rfl
    exact ⟨.none, by rw [run_commands r _ valid none]; simp [queried, load, probeCommand, Except.map],
      by simp [loadJob?, load]⟩
  | some c =>
    obtain ⟨cpus, count, fits⟩ := ready.workers c load
    have workers : c.workers cpus = .ok (c.workersPerCpu * cpus) := if_pos fits
    have counted := run_loadCommand_counted r.programs r.probe.loadTimeout (r.view host) c count
    rw [← load] at counted
    refine ⟨some (.ofLoad c r.programs.load r.probe.loadTimeout (c.workersPerCpu * cpus)), ?_, ?_⟩
    · rw [run_commands r _ valid counted]
      simp [queried, load, probeCommand, workers, Except.map]
    · simp [loadJob?, load, count, Except.toOption]

theorem run_execute (ready : r.Ready host) : (r.execute host).run =
    ⟨r.queried host ++ (r.measure host (r.probeCommand host) (r.loadJob? host)).run.events,
      (r.measure host (r.probeCommand host) (r.loadJob? host)).run.value⟩ := by
  obtain ⟨load, built, same⟩ := run_commands_ready r host ready
  rw [← same]
  exact Attempt.run_bind_ok built

theorem run_measure_loadNotStarted (probe : Command) (fails : host.startLoad job = .error cause) :
    (r.measure host probe (some job)).run =
      ⟨launchingLoad job, .error (.spawn job.command.program cause)⟩ :=
  Attempt.run_bind_error (run_startLoad?_error host job fails)

section Measure
variable (probe : Command) (job? : Option LoadJob)
  (starts : ∀ job, job? = some job → host.startLoad job = .ok ())
include starts

theorem run_measure_probeNotStarted (fails : host.runProbe job? probe = .error cause) :
    (r.measure host probe job?).run =
      ⟨startingLoad job? ++ launchingProbe probe, .error (.spawn probe.program cause)⟩ := by
  rw [measure, Attempt.run_bind_ok (run_startLoad?_ok host job? starts),
    Attempt.run_bind_error (run_runProbe_error host job? probe fails)]

theorem run_measure_probeFailed (ran : host.runProbe job? probe = .ok output)
    (unsuccessful : output.exit ≠ .code 0) :
    (r.measure host probe job?).run =
      ⟨startingLoad job? ++ (runningProbe probe output.exit ++
        (failureReport output r.probe.loadTimeout job?).map .logged),
        .error (probeFailure output)⟩ := by
  have exit : output.exit.isSuccess = false := by simpa [← Exit.isSuccess_iff] using unsuccessful
  rw [measure, Attempt.run_bind_ok (run_startLoad?_ok host job? starts),
    Attempt.run_bind_ok (run_runProbe_ok host job? probe ran)]
  apply Traced.ext <;> simp [exit, ExceptT.run_bind]

theorem run_measure_ok (ran : host.runProbe job? probe = .ok output)
    (successful : output.exit = .code 0) :
    (r.measure host probe job?).run =
      ⟨startingLoad job? ++ (runningProbe probe output.exit ++
        ((awaitLoad? host job? probe).events ++ (readOutput r.probe output.stdout).events)),
        .ok ⟨(readOutput r.probe output.stdout).value.stats,
          (readOutput r.probe output.stdout).value, (awaitLoad? host job? probe).value⟩⟩ := by
  have exit : output.exit.isSuccess = true := Exit.isSuccess_iff.mpr successful
  rw [measure, Attempt.run_bind_ok (run_startLoad?_ok host job? starts),
    Attempt.run_bind_ok (run_runProbe_ok host job? probe ran)]
  apply Traced.ext <;> simp [exit, ExceptT.run_bind, Except.map]

end Measure

section Refused
variable (valid : r.probe.validate = .ok ()) (load : r.load = some c)
include valid load

theorem run_commands_uncounted (count : (r.view host).cpuCount.result = .error fault) :
    (r.commands (r.view host)).run = ⟨r.queried host, .error fault.error⟩ := by
  have command := run_loadCommand_uncounted r.programs r.probe.loadTimeout (r.view host) c count
  rw [← load] at command
  rw [run_commands r _ valid command]
  simp [queried, load, Except.map]

theorem run_commands_overflow (count : (r.view host).cpuCount.result = .ok cpus)
    (tooMany : Text.wordLimit ≤ c.workersPerCpu * cpus) :
    (r.commands (r.view host)).run =
      ⟨r.queried host, .error (ConfigFault.workersOverflow c.workersPerCpu cpus).error⟩ := by
  have command := run_loadCommand_counted r.programs r.probe.loadTimeout (r.view host) c count
  have workers : c.workers cpus = .error (.workersOverflow c.workersPerCpu cpus) :=
    if_neg (Nat.not_lt_of_le tooMany)
  rw [← load, workers] at command
  rw [run_commands r _ valid command]
  simp [queried, load, Except.map]

end Refused

theorem attempt_of_refused (refused : (r.commands (r.view host)).run = ⟨events, .error e⟩) :
    r.attempt host = ⟨events ++ [.entered .failed], .error e⟩ :=
  attempt_of_error r host (Attempt.run_bind_error refused)

end Runner

variable {r : Runner} {host : Host}

/-- The circumstances of a course determine the run. -/
theorem Course.attempt_eq (course : Course r host events value) :
    r.attempt host = ⟨events, value⟩ := by
  cases course with
  | invalid fault refused =>
    exact r.attempt_of_refused host (r.run_commands_invalid (r.view host) refused)
  | uncounted c fault valid load count =>
    exact r.attempt_of_refused host (r.run_commands_uncounted host valid load count)
  | overflow c cpus valid load count tooMany =>
    exact r.attempt_of_refused host (r.run_commands_overflow host valid load count tooMany)
  | loadNotStarted job cause ready load fails =>
    have execute := r.run_execute host ready
    rw [load, r.run_measure_loadNotStarted host _ fails] at execute
    exact r.attempt_of_error host execute
  | probeNotStarted cause ready starts fails =>
    have execute := r.run_execute host ready
    rw [r.run_measure_probeNotStarted host _ _ starts fails] at execute
    simpa using r.attempt_of_error host execute
  | probeFailed output ready starts ran unsuccessful =>
    have execute := r.run_execute host ready
    rw [r.run_measure_probeFailed host _ _ starts ran unsuccessful] at execute
    simpa using r.attempt_of_error host execute
  | measured output ready starts ran successful =>
    have execute := r.run_execute host ready
    rw [r.run_measure_ok host _ _ starts ran successful] at execute
    simpa [Runner.awaited, Runner.reportOf] using r.attempt_of_ok host execute

def Runner.journalOf (r : Runner) (host : Host) (output : Captured) : List Event :=
  r.queried host ++ startingLoad (r.loadJob? host) ++ runningProbe (r.probeCommand host) output.exit ++
    (r.awaited host).events ++ (readOutput r.probe output.stdout).events ++ [.entered .done]

theorem Course.exists_of_ok (course : Course r host events value) (finished : value = .ok report) :
    ∃ output, r.Ready host ∧ r.probeOutcome host = .ok output ∧ output.exit = .code 0 ∧
      report = r.reportOf host output ∧ events = r.journalOf host output := by
  cases course with
  | invalid | uncounted | overflow | loadNotStarted | probeNotStarted | probeFailed => cases finished
  | measured output ready starts ran successful =>
    exact ⟨output, ready, ran, successful, (Except.ok.inj finished).symm, rfl⟩

namespace Runner

/-- What is not in order is the configuration, the count of processors or the number of workers. -/
theorem exists_course_of_unready (unready : ¬ r.Ready host) : ∃ events e,
    (r.commands (r.view host)).run = ⟨events, .error e⟩ ∧
      Course r host (events ++ [.entered .failed]) (.error e) := by
  cases valid : r.probe.validate with
  | error fault => exact ⟨[], _, r.run_commands_invalid _ valid, .invalid fault valid⟩
  | ok =>
    obtain ⟨interval, threads, loops⟩ := ProbeConfig.validate_eq_ok_iff.mp valid
    cases load : r.load with
    | none => exact absurd ⟨interval, threads, loops, by simp [load]⟩ unready
    | some c =>
      cases count : (r.view host).cpuCount.result with
      | error fault =>
        exact ⟨_, _, r.run_commands_uncounted host valid load count, .uncounted c fault valid load count⟩
      | ok cpus =>
        have tooMany : Text.wordLimit ≤ c.workersPerCpu * cpus := by
          apply Nat.le_of_not_lt
          intro fits
          refine unready ⟨interval, threads, loops, ?_⟩
          intro c' same
          obtain rfl : c = c' := Option.some.inj (load.symm.trans same)
          exact ⟨cpus, count, fits⟩
        exact ⟨_, _, r.run_commands_overflow host valid load count tooMany,
          .overflow c cpus valid load count tooMany⟩

theorem exists_course_of_ready (ready : r.Ready host) : ∃ events value, Course r host events value := by
  by_cases starts : r.LoadStarts host
  · cases ran : r.probeOutcome host with
    | error cause => exact ⟨_, _, .probeNotStarted cause ready starts ran⟩
    | ok output =>
      by_cases successful : output.exit = .code 0
      · exact ⟨_, _, .measured output ready starts ran successful⟩
      · exact ⟨_, _, .probeFailed output ready starts ran successful⟩
  · obtain ⟨job, load, fails⟩ : ∃ job, r.loadJob? host = some job ∧ host.startLoad job ≠ .ok () := by
      simpa [LoadStarts] using starts
    cases started : host.startLoad job with
    | ok => exact absurd started fails
    | error cause => exact ⟨_, _, .loadNotStarted job cause ready load started⟩

theorem ready_iff_commands :
    r.Ready host ↔ ∃ built, (r.commands (r.view host)).run.value = .ok built := by
  constructor
  · intro ready
    obtain ⟨load, built, _⟩ := r.run_commands_ready host ready
    exact ⟨_, congrArg Traced.value built⟩
  · rintro ⟨built, same⟩
    apply Classical.byContradiction
    intro unready
    obtain ⟨events, e, refused, _⟩ := exists_course_of_unready unready
    cases same.symm.trans (congrArg Traced.value refused)

variable (r host) in
theorem attempt_course : Course r host (r.attempt host).events (r.attempt host).value := by
  obtain ⟨events, value, course⟩ : ∃ events value, Course r host events value := by
    by_cases ready : r.Ready host
    · exact exists_course_of_ready ready
    · obtain ⟨events, e, _, course⟩ := exists_course_of_unready ready
      exact ⟨_, _, course⟩
  rw [course.attempt_eq]
  exact course

end Runner
end SchedLatency
