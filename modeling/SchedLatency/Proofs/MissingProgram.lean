import SchedLatency.Proofs.Verdict

/-! Programs that are not installed. Under the real-time policy a missing program cannot be started
and ends the run. Under the normal policy `nice` is started in its place and exits with 127, so a
missing probe is a failed probe, and a missing load is only reported. Main statement: `run_missing`. -/
namespace SchedLatency

/-- A host where the commands of a run can be started just if their programs are found, `nice` among
them. A program that `nice` does not find is an exit of `nice` with 127. -/
structure Host.Offers (host : Host) (r : Runner) (found : String → Prop) : Prop where
  nice : found "nice"
  startLoad : ∀ job, r.loadJob? host = some job →
    (host.startLoad job = .ok () ↔ found job.command.program)
  runProbe : (∃ output, r.probeOutcome host = .ok output) ↔ found (r.probeCommand host).program
  awaitNice : ∀ job priority program args, r.loadJob? host = some job →
    job.command = ⟨"nice", "-n" :: priority :: program :: args⟩ → ¬ found program →
      host.awaitLoad job (r.probeCommand host) = .ok (.code 127)
  runNice : ∀ priority program args output,
    r.probeCommand host = ⟨"nice", "-n" :: priority :: program :: args⟩ → ¬ found program →
      r.probeOutcome host = .ok output → output.exit = .code 127

namespace Command

theorem prioritize_program (c : Command) (sched : Sched) (option : String) :
    (c.prioritize sched option).program =
      if sched.policy = .realTime then c.program else "nice" := by
  cases h : sched.policy <;> simp [prioritize, h]

theorem prioritize_normal (c : Command) (normal : sched.policy = .normal) (option : String) :
    c.prioritize sched option =
      ⟨"nice", "-n" :: toString sched.priority :: c.program :: c.args⟩ := by
  simp [prioritize, normal, argv]

end Command

theorem Runner.exists_of_loadJob? {r : Runner} {host : Host} (load : r.load = some c)
    (started : r.loadJob? host = some job) : ∃ workers,
      job = ⟨.ofLoad c r.programs.load r.probe.loadTimeout workers, r.loadDir⟩ := by
  cases count : (r.view host).cpuCount.result with
  | error fault => simp [Runner.loadJob?, load, count, Except.toOption] at started
  | ok cpus =>
    simp only [Runner.loadJob?, load, count, Except.toOption, Option.bind_eq_bind,
      Option.bind_some, Option.pure_def, Option.some.injEq] at started
    exact ⟨_, started.symm⟩

theorem Runner.Ready.exists_loadJob {r : Runner} {host : Host} (ready : r.Ready host)
    (load : r.load = some c) : ∃ job, r.loadJob? host = some job := by
  apply Option.isSome_iff_exists.mp
  rw [ready.isSome_loadJob?, load, Option.isSome_some]

/-- What a run makes of a program that is not installed, by the policy that it is started under. -/
structure MissingPrograms (r : Runner) (host : Host) (found : String → Prop) (events : List Event)
    (result : Except Error RunReport) : Prop where
  /-- A missing load ends the run before the probe just if no `nice` stands before it. -/
  load : ∀ c, r.load = some c → ¬ found r.programs.load →
    (((∃ program cause, result = .error (.spawn program cause)) ∧
      ∀ argv, .launchedProbe argv ∉ events) ↔ r.Ready host ∧ c.sched.policy = .realTime)
  loadThroughNice : ∀ c, r.load = some c → ¬ found r.programs.load → ∀ report, result = .ok report →
    c.sched.policy = .normal ∧ ∃ job, r.loadJob? host = some job ∧ report.load =
      .failed (Error.load s!"{job.command.line} finished with {(Exit.code 127).label}").message
  probe : ¬ found r.programs.probe → (∀ c, r.load = some c → found r.programs.load) →
    ((∃ program cause, result = .error (.spawn program cause)) ↔
      r.Ready host ∧ r.probe.sched.policy = .realTime)
  probeThroughNice : ¬ found r.programs.probe → (∀ c, r.load = some c → found r.programs.load) →
    ((∃ stdout stderr, result = .error (.probe (.code 127) stdout stderr)) ↔
      r.Ready host ∧ r.probe.sched.policy = .normal)

section Missing
variable {r : Runner} {host : Host} {found : String → Prop} (offers : host.Offers r found)
include offers

theorem startLoad_iff (load : r.load = some c) (started : r.loadJob? host = some job) :
    host.startLoad job = .ok () ↔ (c.sched.policy = .realTime → found r.programs.load) := by
  rw [offers.startLoad job started]
  obtain ⟨workers, rfl⟩ := Runner.exists_of_loadJob? load started
  rw [Command.ofLoad, Command.prioritize_program]
  cases c.sched.policy <;> simp [offers.nice]

theorem startLoad_missing_iff (load : r.load = some c) (started : r.loadJob? host = some job)
    (missing : ¬ found r.programs.load) :
    host.startLoad job = .ok () ↔ c.sched.policy = .normal := by
  rw [startLoad_iff offers load started]
  cases c.sched.policy <;> simp [missing]

theorem loadStarts_of_found (present : ∀ c, r.load = some c → found r.programs.load) :
    r.LoadStarts host := by
  intro job started
  cases load : r.load with
  | none => simp [Runner.loadJob?, load] at started
  | some c => exact (startLoad_iff offers load started).mpr fun _ => present c load

theorem probeOutcome_missing_iff (missing : ¬ found r.programs.probe) :
    (∃ output, r.probeOutcome host = .ok output) ↔ r.probe.sched.policy = .normal := by
  rw [offers.runProbe, Runner.probeCommand, Command.ofProbe, Command.prioritize_program]
  cases r.probe.sched.policy <;> simp [missing, offers.nice]

theorem exit_of_missing_probe (missing : ¬ found r.programs.probe)
    (ran : r.probeOutcome host = .ok output) : output.exit = .code 127 := by
  have normal := (probeOutcome_missing_iff offers missing).mp ⟨output, ran⟩
  exact offers.runNice _ _ _ _ (Command.prioritize_normal _ normal _) missing ran

theorem awaited_missing_load (load : r.load = some c) (started : r.loadJob? host = some job)
    (missing : ¬ found r.programs.load) (normal : c.sched.policy = .normal) :
    (r.awaited host).value =
      .failed (Error.load s!"{job.command.line} finished with {(Exit.code 127).label}").message := by
  have exit : host.awaitLoad job (r.probeCommand host) = .ok (.code 127) := by
    obtain ⟨workers, rfl⟩ := Runner.exists_of_loadJob? load started
    exact offers.awaitNice _ _ _ _ started (Command.prioritize_normal _ normal _) missing
  rw [Runner.awaited, started, Runner.awaitLoad?, Runner.awaitLoad, exit]
  rfl

theorem Course.missing_load (course : Course r host events result) (load : r.load = some c)
    (missing : ¬ found r.programs.load) :
    ((∃ program cause, result = .error (.spawn program cause)) ∧
      ∀ argv, .launchedProbe argv ∉ events) ↔ r.Ready host ∧ c.sched.policy = .realTime := by
  constructor
  · rintro ⟨⟨program, cause, spawned⟩, unlaunched⟩
    obtain ⟨configured, counted, _⟩ := (course.verdict.spawn program cause).mp spawned
    have ready := (r.ready_iff host).mpr ⟨configured, counted⟩
    refine ⟨ready, ?_⟩
    cases policy : c.sched.policy with
    | realTime => rfl
    | normal =>
      have starts : r.LoadStarts host :=
        fun job started => (startLoad_missing_iff offers load started missing).mpr policy
      exact absurd ((course.launchedProbe_iff _).mpr ⟨ready, starts, rfl⟩) (unlaunched _)
  · rintro ⟨ready, realTime⟩
    obtain ⟨job, started⟩ := ready.exists_loadJob load
    have refused : host.startLoad job ≠ .ok () := by
      simp [startLoad_missing_iff offers load started missing, realTime]
    cases fails : host.startLoad job with
    | ok => exact absurd fails refused
    | error cause =>
      have unlaunched : ∀ argv, .launchedProbe argv ∉ events := by
        intro argv member
        obtain ⟨_, starts, _⟩ := (course.launchedProbe_iff argv).mp member
        exact refused (starts job started)
      obtain ⟨sound, counted⟩ := (r.ready_iff host).mp ready
      have unstartable : r.Unstartable host job.command.program cause :=
        .inl ⟨job, started, fails, rfl⟩
      exact ⟨⟨_, cause, (course.verdict.spawn _ cause).mpr ⟨sound, counted, unstartable⟩⟩, unlaunched⟩

theorem Course.missing_load_report (course : Course r host events result)
    (finished : result = .ok report) (load : r.load = some c) (missing : ¬ found r.programs.load) :
    c.sched.policy = .normal ∧ ∃ job, r.loadJob? host = some job ∧ report.load =
      .failed (Error.load s!"{job.command.line} finished with {(Exit.code 127).label}").message := by
  cases course with
  | invalid | uncounted | overflow | loadNotStarted | probeNotStarted | probeFailed =>
    cases finished
  | measured output ready starts ran successful =>
    obtain rfl := Except.ok.inj finished
    obtain ⟨job, started⟩ := ready.exists_loadJob load
    have normal := (startLoad_missing_iff offers load started missing).mp (starts job started)
    exact ⟨normal, job, started, awaited_missing_load offers load started missing normal⟩

theorem Course.missing_probe (course : Course r host events result)
    (missing : ¬ found r.programs.probe) (present : ∀ c, r.load = some c → found r.programs.load) :
    ((∃ program cause, result = .error (.spawn program cause)) ↔
      r.Ready host ∧ r.probe.sched.policy = .realTime) ∧
    ((∃ stdout stderr, result = .error (.probe (.code 127) stdout stderr)) ↔
      r.Ready host ∧ r.probe.sched.policy = .normal) := by
  have starts := loadStarts_of_found offers present
  have runs := probeOutcome_missing_iff offers missing
  simp only [r.ready_iff host, course.verdict.spawn, course.verdict.probe, starts.unstartable_iff]
  constructor
  · constructor
    · rintro ⟨program, cause, sound, counted, fails, _⟩
      refine ⟨⟨sound, counted⟩, ?_⟩
      cases policy : r.probe.sched.policy with
      | realTime => rfl
      | normal =>
        obtain ⟨output, ran⟩ := runs.mpr policy
        cases fails.symm.trans ran
    · rintro ⟨⟨sound, counted⟩, realTime⟩
      cases outcome : r.probeOutcome host with
      | ok output => cases realTime.symm.trans (runs.mp ⟨output, outcome⟩)
      | error cause => exact ⟨_, cause, sound, counted, rfl, rfl⟩
  · constructor
    · rintro ⟨stdout, stderr, sound, counted, _, output, ran, _⟩
      exact ⟨⟨sound, counted⟩, runs.mp ⟨output, ran⟩⟩
    · rintro ⟨⟨sound, counted⟩, normal⟩
      obtain ⟨output, ran⟩ := runs.mpr normal
      have exit := exit_of_missing_probe offers missing ran
      exact ⟨_, _, sound, counted, starts, output, ran, by simp [exit], exit.symm, rfl, rfl⟩

end Missing

/-- A missing program is a failure to start under the real-time policy, and only there. -/
theorem run_missing (r : Runner) (host : Host) (found : String → Prop)
    (offers : host.Offers r found) :
    MissingPrograms r host found (r.run host).1.events (r.run host).1.value := by
  have course : Course r host (r.run host).1.events (r.run host).1.value := r.attempt_course host
  exact {
    load := fun c load missing => course.missing_load offers load missing
    loadThroughNice := fun c load missing report finished =>
      course.missing_load_report offers finished load missing
    probe := fun missing present => (course.missing_probe offers missing present).1
    probeThroughNice := fun missing present => (course.missing_probe offers missing present).2 }

/-- How a command ends that does nothing, in a place where these programs are found. -/
def idleExit (found : String → Bool) : Command → Exit
  | ⟨"nice", _ :: _ :: program :: _⟩ => if found program then .code 0 else .code 127
  | _ => .code 0

def idleHost (found : String → Bool) : Host where
  lscpu := .error .notFound
  cpuinfo := .error .notFound
  startLoad job := if found job.command.program then .ok () else .error .notFound
  runProbe _ c := if found c.program then .ok ⟨idleExit found c, [], []⟩ else .error .notFound
  awaitLoad job _ := .ok (idleExit found job.command)

theorem idleHost_offers (r : Runner) (found : String → Bool) (nice : found "nice" = true) :
    (idleHost found).Offers r (found · = true) where
  nice := nice
  startLoad job _ := by cases h : found job.command.program <;> simp [idleHost, h]
  runProbe := by
    rw [Runner.probeOutcome]
    generalize r.probeCommand _ = c
    cases h : found c.program <;> simp [idleHost, h]
  awaitNice job priority program args _ command missing := by
    simp [idleHost, idleExit, command, missing]
  runNice priority program args output command missing ran := by
    rw [Runner.probeOutcome, command] at ran
    simp only [idleHost, nice, if_true, Except.ok.injEq] at ran
    simp [← ran, idleExit, missing]

/-- A real-time probe beside a load under `nice`. -/
def politeLoad : Runner where
  probe := ⟨⟨.realTime, 80⟩, 1000, 1, 5, .all⟩
  load := some ⟨⟨.normal, 10⟩, 1⟩
  topology _ := .fixed (.ok 4) (.ok [])
  loadDir := "/tmp"

def allButLoad (program : String) : Bool := program != politeLoad.programs.load

theorem run_missing_politeLoad :
    (idleHost allButLoad).Offers politeLoad (allButLoad · = true) ∧
      MissingPrograms politeLoad (idleHost allButLoad) (allButLoad · = true)
        (politeLoad.run (idleHost allButLoad)).1.events
        (politeLoad.run (idleHost allButLoad)).1.value :=
  ⟨idleHost_offers _ _ (by decide), run_missing _ _ _ (idleHost_offers _ _ (by decide))⟩

/-- The load is not installed, all else is in order, and the run succeeds. -/
theorem missing_load_unnoticed :
    (idleHost allButLoad).Offers politeLoad (allButLoad · = true) ∧
      politeLoad.Ready (idleHost allButLoad) ∧ allButLoad politeLoad.programs.load = false ∧
      (politeLoad.run (idleHost allButLoad)).1.value.isOk = true := by
  refine ⟨idleHost_offers _ _ (by decide), ⟨by decide, by decide, by decide, ?_⟩, by decide, by decide⟩
  intro c load
  obtain rfl : ⟨⟨.normal, 10⟩, 1⟩ = c := Option.some.inj load
  exact ⟨4, rfl, by decide⟩

end SchedLatency
