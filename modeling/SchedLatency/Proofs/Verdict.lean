import SchedLatency.Proofs.Protocol

/-! How a run ends: the failures that end it, in the order in which they are met, and those that do
not. Main statement: `run_verdict`. -/
namespace SchedLatency

namespace Runner
variable (r : Runner) (host : Host)

/-- The load cannot be started, or else the probe cannot; the program is the first word of the
command. -/
def Unstartable (program : String) (cause : OsError) : Prop :=
  (∃ job, r.loadJob? host = some job ∧ host.startLoad job = .error cause ∧
    job.command.argv.head? = some program) ∨
  (r.LoadStarts host ∧ r.probeOutcome host = .error cause ∧
    (r.probeCommand host).argv.head? = some program)

variable {r host}

theorem LoadStarts.unstartable_iff (starts : r.LoadStarts host) :
    r.Unstartable host program cause ↔
      r.probeOutcome host = .error cause ∧ (r.probeCommand host).argv.head? = some program := by
  constructor
  · rintro (⟨job, load, fails, _⟩ | ⟨_, fails⟩)
    · cases fails.symm.trans (starts job load)
    · exact fails
  · exact fun fails => .inr ⟨starts, fails⟩

theorem unstartable_of_load (load : r.loadJob? host = some job)
    (fails : host.startLoad job = .error cause) :
    r.Unstartable host program cause' ↔ job.command.program = program ∧ cause = cause' := by
  constructor
  · rintro (⟨job', load', fails', first⟩ | ⟨starts, _⟩)
    · obtain rfl : job = job' := Option.some.inj (load.symm.trans load')
      exact ⟨Option.some.inj first, Except.error.inj (fails.symm.trans fails')⟩
    · cases fails.symm.trans (starts job load)
  · rintro ⟨rfl, rfl⟩
    exact .inl ⟨job, load, fails, rfl⟩

end Runner

/-- What the result of a run says, and what it cannot say. -/
structure Verdict (r : Runner) (host : Host) (result : Except Error RunReport) : Prop where
  config : (∃ text, result = .error (.config text)) ↔ r.Misconfigured host
  topology : (∃ text, result = .error (.topology text)) ↔
    ¬ r.Misconfigured host ∧ r.Uncounted host
  spawn : ∀ program cause, result = .error (.spawn program cause) ↔
    ¬ r.Misconfigured host ∧ ¬ r.Uncounted host ∧ r.Unstartable host program cause
  probe : ∀ exit stdout stderr, result = .error (.probe exit stdout stderr) ↔
    ¬ r.Misconfigured host ∧ ¬ r.Uncounted host ∧ r.LoadStarts host ∧
      ∃ output, r.probeOutcome host = .ok output ∧ output.exit ≠ .code 0 ∧ exit = output.exit ∧
        stdout = Text.Utf8.lossy output.stdout ∧ stderr = Text.Utf8.lossy output.stderr
  ok : result.isOk ↔ ¬ r.Misconfigured host ∧ ¬ r.Uncounted host ∧ r.LoadStarts host ∧
      ∃ output, r.probeOutcome host = .ok output ∧ output.exit = .code 0
  never : ∀ e, result = .error e → ∀ text line reason cause,
    e ≠ .affinity text ∧ e ≠ .load text ∧ e ≠ .logLine line reason ∧ e ≠ .os cause

theorem Course.verdict (course : Course r host events result) : Verdict r host result := by
  cases course with
  | invalid fault refused =>
    have misconfigured := r.misconfigured_of_invalid host refused
    constructor <;> simp [misconfigured, ConfigFault.error, Except.isOk, Except.toBool]
  | uncounted c fault valid load count =>
    have uncounted : r.Uncounted host := ⟨c, fault, load, count⟩
    have configured : ¬ r.Misconfigured host := by
      obtain ⟨interval, threads, loops⟩ := ProbeConfig.validate_eq_ok_iff.mp valid
      simp [Runner.Misconfigured, interval, threads, loops, count]
    constructor <;>
      simp [configured, uncounted, TopologyFault.error, Except.isOk, Except.toBool]
  | overflow c cpus valid load count tooMany =>
    have misconfigured : r.Misconfigured host := .inr (.inr (.inr ⟨c, cpus, load, count, tooMany⟩))
    constructor <;> simp [misconfigured, ConfigFault.error, Except.isOk, Except.toBool]
  | loadNotStarted job cause ready load fails =>
    obtain ⟨configured, counted⟩ := r.ready_iff host |>.mp ready
    have unstarted : ¬ r.LoadStarts host := fun starts => by cases fails.symm.trans (starts job load)
    constructor <;> simp [configured, counted, unstarted, Runner.unstartable_of_load load fails,
      Except.isOk, Except.toBool]
  | probeNotStarted cause ready starts fails =>
    obtain ⟨configured, counted⟩ := r.ready_iff host |>.mp ready
    constructor <;> simp [configured, counted, starts, starts.unstartable_iff, fails, Command.argv,
      Except.isOk, Except.toBool, and_comm]
  | probeFailed output ready starts ran unsuccessful =>
    obtain ⟨configured, counted⟩ := r.ready_iff host |>.mp ready
    constructor <;> simp [configured, counted, starts, starts.unstartable_iff, ran, unsuccessful,
      Runner.probeFailure, Except.isOk, Except.toBool, eq_comm]
  | measured output ready starts ran successful =>
    obtain ⟨configured, counted⟩ := r.ready_iff host |>.mp ready
    constructor <;> simp [configured, counted, starts, starts.unstartable_iff, ran, successful,
      Except.isOk, Except.toBool]

theorem Course.not_launched (course : Course r host events result) (unready : ¬ r.Ready host) :
    (∀ dir argv, .launchedLoad dir argv ∉ events) ∧ ∀ argv, .launchedProbe argv ∉ events := by
  have load := course.acts.launchedLoad
  have probe := course.acts.launchedProbe
  simp only [mem_acts, Event.isAct, and_true] at load probe
  refine ⟨fun dir argv launched => ?_, fun argv launched => ?_⟩
  · exact unready (load.mp ⟨dir, argv, launched⟩).2
  · exact unready ((probe argv).mp launched).1

section Advisory
variable {r r' : Runner} {host host' : Host}

/-- What a run depends on for its success: the configuration, the count of processors, the start of
the load, and how the probe exits. -/
structure Alike (r r' : Runner) (host host' : Host) : Prop where
  probe : r'.probe = r.probe
  load : r'.load = r.load
  programs : r'.programs = r.programs
  loadDir : r'.loadDir = r.loadDir
  count : (r'.view host').cpuCount.result = (r.view host).cpuCount.result
  starts : host'.startLoad = host.startLoad
  exits : (r'.probeOutcome host').map Captured.exit = (r.probeOutcome host).map Captured.exit

theorem Alike.loadJob? (alike : Alike r r' host host') : r'.loadJob? host' = r.loadJob? host := by
  simp only [Runner.loadJob?, alike.probe, alike.load, alike.programs, alike.loadDir, alike.count]

theorem Alike.isOk (alike : Alike r r' host host') :
    (r'.run host').1.value.isOk = (r.run host).1.value.isOk := by
  have exit (outcome : Except OsError Captured) :
      (∃ output, outcome = .ok output ∧ output.exit = .code 0) ↔
        outcome.map Captured.exit = .ok (.code 0) := by
    cases outcome <;> simp [Except.map]
  have verdict := (r.attempt_course host).verdict.ok
  have verdict' := (r'.attempt_course host').verdict.ok
  rw [exit] at verdict verdict'
  simp only [Runner.Misconfigured, Runner.Uncounted, Runner.LoadStarts, alike.probe, alike.load,
    alike.loadJob?, alike.count, alike.starts, alike.exits] at verdict'
  exact Bool.eq_iff_iff.mpr (verdict'.trans verdict.symm)

end Advisory

/-- The first failure in order decides; nothing else can make a run fail, and nothing is launched by
a run that fails over its configuration or the count of processors. -/
theorem run_verdict (r : Runner) (host : Host) :
    Verdict r host (r.run host).1.value ∧
    (∀ text, (r.run host).1.value = .error (.config text) ∨
        (r.run host).1.value = .error (.topology text) →
      (∀ dir argv, .launchedLoad dir argv ∉ (r.run host).1.events) ∧
      ∀ argv, .launchedProbe argv ∉ (r.run host).1.events) ∧
    ∀ r' host', Alike r r' host host' →
      (r'.run host').1.value.isOk = (r.run host).1.value.isOk := by
  have course : Course r host (r.run host).1.events (r.run host).1.value := r.attempt_course host
  refine ⟨course.verdict, ?_, fun r' host' alike => alike.isOk⟩
  intro text failed
  apply course.not_launched
  intro ready
  obtain ⟨configured, counted⟩ := r.ready_iff host |>.mp ready
  rcases failed with config | topology
  · exact configured (course.verdict.config.mp ⟨text, config⟩)
  · exact counted (course.verdict.topology.mp ⟨text, topology⟩).2

end SchedLatency
