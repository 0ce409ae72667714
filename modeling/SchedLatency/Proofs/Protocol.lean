import SchedLatency.Proofs.Acts

/-! The protocol of a run: its phases, the order of queries, launches and waits, and how changes of
phase are reported. Main statement: `run_protocol`. -/
namespace SchedLatency

def Event.stage? : Event → Option Nat
  | .launchedLoad .. => some 1
  | .launchedProbe _ => some 2
  | .probeEnded _ => some 3
  | .awaitedLoad => some 4
  | .asked _ | .entered _ | .logged _ => none

/-- The phases of a run, by what it meets. -/
inductive PhaseCourse (r : Runner) (host : Host) : List Phase → Prop where
  | notStarted (refused : ¬ (r.Ready host ∧ r.LoadStarts host)) : PhaseCourse r host [.failed]
  | probeNotStarted (cause : OsError) (ready : r.Ready host) (starts : r.LoadStarts host)
      (fails : r.probeOutcome host = .error cause) :
      PhaseCourse r host ((if r.load.isSome then [.loadStarted] else []) ++
        [.probeRunning, .failed])
  | probeFailed (output : Captured) (ready : r.Ready host) (starts : r.LoadStarts host)
      (ran : r.probeOutcome host = .ok output) (unsuccessful : output.exit ≠ .code 0) :
      PhaseCourse r host ((if r.load.isSome then [.loadStarted] else []) ++
        [.probeRunning, .probeComplete, .failed])
  | measured (output : Captured) (ready : r.Ready host) (starts : r.LoadStarts host)
      (ran : r.probeOutcome host = .ok output) (successful : output.exit = .code 0) :
      PhaseCourse r host ((if r.load.isSome then [.loadStarted] else []) ++
        [.probeRunning, .probeComplete] ++ (if r.load.isSome then [.loadVerified] else []) ++
        [.done])

theorem Runner.Ready.isSome_loadJob? {r : Runner} {host : Host} (ready : r.Ready host) :
    (r.loadJob? host).isSome = r.load.isSome := by
  cases load : r.load with
  | none => simp [Runner.loadJob?, load]
  | some c =>
    obtain ⟨cpus, count, _⟩ := ready.workers c load
    simp [Runner.loadJob?, load, count, Except.toOption]

section Laws
variable {r : Runner} {host : Host}

@[simp] theorem phases_startActs (job? : Option LoadJob) :
    phases (startActs job?) = if job?.isSome then [.loadStarted] else [] := by
  cases job? <;> rfl

@[simp] theorem phases_probeActs (probe : Command) : phases (probeActs probe) = [.probeRunning] := rfl

@[simp] theorem phases_awaitActs (job? : Option LoadJob) :
    phases (awaitActs job?) = if job?.isSome then [.loadVerified] else [] := by
  cases job? <;> rfl

theorem phases_acts (events : List Event) : phases (acts events) = phases events :=
  filterMap_acts _ (fun _ => rfl) (fun _ => rfl) events

theorem ActCourse.phaseCourse (course : ActCourse r host events) :
    PhaseCourse r host (phases events) := by
  cases course with
  | unready refused => exact .notStarted fun h => refused h.1
  | loadNotStarted job ready load refused => exact .notStarted fun h => refused (h.2 job load)
  | probeNotStarted cause ready starts fails =>
    simpa [ready.isSome_loadJob?] using PhaseCourse.probeNotStarted cause ready starts fails
  | probeFailed output ready starts ran unsuccessful =>
    simpa [ready.isSome_loadJob?] using PhaseCourse.probeFailed output ready starts ran unsuccessful
  | measured output ready starts ran successful =>
    simpa [ready.isSome_loadJob?] using PhaseCourse.measured output ready starts ran successful

/-- The load goes first, the probe ends before the load is awaited, and nothing is done twice. -/
theorem ActCourse.stages (course : ActCourse r host events) :
    (events.filterMap Event.stage?).Pairwise (· < ·) := by
  cases course with
  | unready | loadNotStarted => simp [List.filterMap_cons, Event.stage?]
  | probeNotStarted | probeFailed | measured =>
    cases r.loadJob? host <;>
      simp [startActs, probeActs, awaitActs, List.filterMap_cons, Event.stage?]

theorem ActCourse.launchedLoad (course : ActCourse r host events) :
    (∃ dir argv, .launchedLoad dir argv ∈ events) ↔ r.load.isSome ∧ r.Ready host := by
  cases course with
  | unready refused => simp [refused]
  | loadNotStarted job ready load refused =>
    have configured := ready.isSome_loadJob?
    simp only [load, Option.isSome_some] at configured
    simp [ready, ← configured]
  | probeNotStarted cause ready | probeFailed output ready | measured output ready =>
    rw [← ready.isSome_loadJob?]
    cases r.loadJob? host <;> simp [startActs, probeActs, awaitActs, ready]

theorem ActCourse.launchedProbe (course : ActCourse r host events) (argv : List String) :
    .launchedProbe argv ∈ events ↔
      r.Ready host ∧ r.LoadStarts host ∧ argv = (r.probeCommand host).argv := by
  cases course with
  | unready refused => simp [refused]
  | loadNotStarted job ready load refused =>
    have unstarted : ¬ r.LoadStarts host := fun starts => refused (starts job load)
    simp [unstarted]
  | probeNotStarted cause ready starts | probeFailed output ready starts
  | measured output ready starts =>
    cases r.loadJob? host <;> simp [startActs, probeActs, awaitActs, ready, starts]

theorem ActCourse.awaitedLoad (course : ActCourse r host events) :
    .awaitedLoad ∈ events ↔ (∃ job, r.loadJob? host = some job ∧ host.startLoad job = .ok () ∧
      .launchedLoad job.dir job.command.argv ∈ events) ∧ .probeEnded (.code 0) ∈ events := by
  cases course with
  | unready | loadNotStarted => simp
  | probeNotStarted => cases r.loadJob? host <;> simp [startActs, probeActs]
  | probeFailed output ready starts ran unsuccessful =>
    cases r.loadJob? host <;> simp [startActs, probeActs, Ne.symm unsuccessful]
  | measured output ready starts ran successful =>
    cases load : r.loadJob? host with
    | none => simp [startActs, probeActs, awaitActs]
    | some job => simp [startActs, probeActs, awaitActs, starts job load, successful]

theorem Course.phaseAfter_eq (course : Course r host events value) (start : Phase) :
    phaseAfter start events = if value.isOk then .done else .failed := by
  cases course <;> simp [phaseAfter_append, phaseAfter, Except.isOk, Except.toBool]

/-- A run changes nothing of its runner but the phase, which tells how it went. -/
theorem Runner.run_snd (r : Runner) (host : Host) : (r.run host).2 =
    { r with phase := if (r.run host).1.value.isOk then .done else .failed } := by
  have course : Course r host (r.run host).1.events (r.run host).1.value := r.attempt_course host
  rw [← course.phaseAfter_eq r.phase]
  rfl

theorem mem_acts {e : Event} : e ∈ acts events ↔ e ∈ events ∧ e.isAct = true := List.mem_filter

theorem Course.launchedProbe_iff (course : Course r host events value) (argv : List String) :
    .launchedProbe argv ∈ events ↔
      r.Ready host ∧ r.LoadStarts host ∧ argv = (r.probeCommand host).argv := by
  rw [← course.acts.launchedProbe argv, mem_acts]
  simp [Event.isAct]

end Laws

/-- What a runner does on a host, in a journal of its events. -/
structure Protocol (r : Runner) (host : Host) (events : List Event) : Prop where
  phases : PhaseCourse r host (phases events)
  /-- Once anything has been done, nothing is asked. -/
  queriesFirst : events.Pairwise fun a b => a.isAct = true → b.isQuery = false
  loadLaunched : (∃ dir argv, .launchedLoad dir argv ∈ events) ↔ r.load.isSome ∧ r.Ready host
  probeLaunched : ∀ argv, .launchedProbe argv ∈ events ↔
    r.Ready host ∧ r.LoadStarts host ∧ argv = (r.probeCommand host).argv
  /-- The load's launch, the probe's launch and end and the wait for the load, each at most once. -/
  inOrder : (events.filterMap Event.stage?).Pairwise (· < ·)
  loadAwaited : .awaitedLoad ∈ events ↔ (∃ job, r.loadJob? host = some job ∧
    host.startLoad job = .ok () ∧ .launchedLoad job.dir job.command.argv ∈ events) ∧
    .probeEnded (.code 0) ∈ events
  /-- A change of phase is reported once, from the phase in force to the phase entered. -/
  reports : (messages r.phase events).filter isPhaseChange =
    List.zipWith phaseChange (r.phase :: SchedLatency.phases events) (SchedLatency.phases events)

/-- Every run keeps to the protocol, from whatever phase, and its last phase tells how it went. -/
theorem run_protocol (r : Runner) (host : Host) :
    Protocol r host (r.run host).1.events ∧
      (r.run host).2.phase = if (r.run host).1.value.isOk then .done else .failed := by
  have course : Course r host (r.run host).1.events (r.run host).1.value := r.attempt_course host
  refine ⟨?_, course.phaseAfter_eq r.phase⟩
  have stages := course.acts.stages
  have loadLaunched := course.acts.launchedLoad
  have probeLaunched := course.acts.launchedProbe
  have awaited := course.acts.awaitedLoad
  rw [filterMap_acts _ (fun _ => rfl) (fun _ => rfl)] at stages
  simp only [mem_acts, Event.isAct, and_true] at loadLaunched probeLaunched awaited
  exact {
    phases := phases_acts _ ▸ course.acts.phaseCourse
    queriesFirst := course.queriesFirst
    loadLaunched := loadLaunched
    probeLaunched := probeLaunched
    inOrder := stages
    loadAwaited := awaited
    reports := filter_messages r.phase _ course.quiet }

end SchedLatency
