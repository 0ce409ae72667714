import SchedLatency.Proofs.Course
import SchedLatency.Proofs.Phases

/-! What a run does besides asking and logging. `ActCourse` follows the courses of a run through the
acts alone, and `Course.split` cuts a journal after what the queries leave in it. -/
namespace SchedLatency

def Event.isQuery : Event → Bool
  | .asked _ => true
  | _ => false

/-- What is neither a query nor a message. -/
def Event.isAct : Event → Bool
  | .asked _ | .logged _ => false
  | _ => true

def acts (events : List Event) : List Event := events.filter Event.isAct

@[simp] theorem acts_append (xs ys : List Event) : acts (xs ++ ys) = acts xs ++ acts ys := by
  simp [acts]

@[simp] theorem acts_logged (ms : List Message) : acts (ms.map .logged) = [] := by
  simp [acts, List.filter_map, Function.comp_def, Event.isAct]

/-- Acts are all that a reading of the journal needs that sees neither queries nor messages. -/
theorem filterMap_acts (f : Event → Option α) (asked : ∀ query, f (.asked query) = none)
    (logged : ∀ m, f (.logged m) = none) (events : List Event) :
    (acts events).filterMap f = events.filterMap f := by
  induction events with
  | nil => rfl
  | cons e events ih =>
    rw [acts] at ih ⊢
    cases e <;> simp_all [List.filter_cons, List.filterMap_cons, Event.isAct]

def Event.FromTopology (e : Event) : Prop :=
  (∃ query, e = .asked query) ∨ ∃ level text, e = .logged ⟨level, .topology, text⟩

def Event.Plain : Event → Prop
  | .asked _ => False
  | .logged m => isPhaseChange m = false
  | _ => True

def Plain (events : List Event) : Prop := ∀ e ∈ events, e.Plain

theorem plain_append {xs ys : List Event} : Plain (xs ++ ys) ↔ Plain xs ∧ Plain ys :=
  List.forall_mem_append

theorem Answer.fromTopology (a : Answer α) {e : Event} (member : e ∈ a.traced.events) :
    e.FromTopology := by
  obtain ⟨⟨level, text⟩, _, rfl⟩ := List.mem_map.mp member
  exact .inr ⟨level, text, rfl⟩

theorem Topology.pickGroup_fromTopology (choose : String × String → String) (t : Topology)
    {e : Event} (member : e ∈ (t.pickGroup choose).events) : e.FromTopology := by
  rw [pickGroup, Traced.events_bind] at member
  rcases List.mem_append.mp member with asked | picked
  · rcases List.mem_cons.mp asked with rfl | answered
    · exact .inl ⟨.coreRanges, rfl⟩
    · exact t.coreRanges.fromTopology answered
  · split at picked
    · simp at picked
    · exact .inr ⟨_, _, List.mem_singleton.mp picked⟩
    · exact .inr ⟨_, _, List.mem_singleton.mp picked⟩

theorem Affinity.resolve_fromTopology (a : Affinity) (t : Topology) {e : Event}
    (member : e ∈ (a.resolve t).events) : e.FromTopology := by
  cases a with
  | all => simp at member
  | smallCores | bigCores =>
    rw [resolve, Traced.events_map] at member
    exact t.pickGroup_fromTopology _ member

theorem Runner.exists_of_loadFailure? (failure : loadFailure? command ended = some e) :
    ∃ text, e = .load text := by
  unfold loadFailure? at failure
  split at failure
  · split at failure
    · contradiction
    · exact ⟨_, (Option.some.inj failure).symm⟩
  · exact ⟨_, (Option.some.inj failure).symm⟩

namespace Runner
variable {r : Runner} {host : Host}

theorem awaited_none (alone : r.loadJob? host = none) : r.awaited host = ⟨[], .notConfigured⟩ := by
  rw [awaited, alone]
  rfl

theorem awaited_completed (load : r.loadJob? host = some job)
    (ended : loadFailure? job.command (host.awaitLoad job (r.probeCommand host)) = none) :
    r.awaited host = ⟨[.awaitedLoad, .entered .loadVerified], .completed⟩ := by
  rw [awaited, load, awaitLoad?, awaitLoad, ended]
  rfl

theorem awaited_failed {failure : Error} (load : r.loadJob? host = some job)
    (ended : loadFailure? job.command (host.awaitLoad job (r.probeCommand host)) = some failure) :
    r.awaited host = ⟨[.awaitedLoad, .logged ⟨.error, .runner, failure.message⟩,
      .entered .loadVerified], .failed failure.message⟩ := by
  rw [awaited, load, awaitLoad?, awaitLoad, ended]
  rfl

/-- Reading what the probe printed leaves messages only. -/
theorem events_readOutput (c : ProbeConfig) (stdout : Text.Bytes) : (readOutput c stdout).events =
    ((readOutput c stdout).value.messages ++ shortfalls c (readOutput c stdout).value).map .logged := by
  simp [readOutput, Log.read]

end Runner

section Parts
variable (r : Runner) (host : Host)

theorem queried_fromTopology {e : Event} (member : e ∈ r.queried host) : e.FromTopology := by
  rcases List.mem_append.mp member with probe | load
  · exact r.probe.affinity.resolve_fromTopology _ probe
  · split at load
    · rcases List.mem_cons.mp load with rfl | answered
      · exact .inl ⟨.cpuCount, rfl⟩
      · exact (r.view host).cpuCount.fromTopology answered
    · simp at load

@[simp] theorem acts_queried : acts (r.queried host) = [] := by
  apply List.filter_eq_nil_iff.mpr
  intro e member
  rcases queried_fromTopology r host member with ⟨query, rfl⟩ | ⟨level, text, rfl⟩ <;> simp [Event.isAct]

/-- A load that ended badly is reported before the phase changes. -/
theorem events_awaited (job : LoadJob) (load : r.loadJob? host = some job) :
    ∃ reports : List Message, (∀ m ∈ reports, isPhaseChange m = false) ∧
      (r.awaited host).events = .awaitedLoad :: (reports.map .logged ++ [.entered .loadVerified]) := by
  cases ended : Runner.loadFailure? job.command (host.awaitLoad job (r.probeCommand host)) with
  | none =>
    rw [Runner.awaited_completed load ended]
    exact ⟨[], by simp, rfl⟩
  | some e =>
    obtain ⟨text, rfl⟩ := Runner.exists_of_loadFailure? ended
    rw [Runner.awaited_failed load ended]
    refine ⟨[⟨.error, .runner, (Error.load text).message⟩], ?_, rfl⟩
    intro m member
    have words : (Error.load text).message = "load generator failed: " ++ text := rfl
    rw [List.mem_singleton.mp member, words]
    exact not_isPhaseChange (by simp)

theorem readOutput_quiet (c : ProbeConfig) (log : Log) :
    ∀ m ∈ log.messages ++ Runner.shortfalls c log, isPhaseChange m = false := by
  intro m member
  rcases List.mem_append.mp member with refused | short
  · obtain ⟨reject, _, rfl⟩ := List.mem_map.mp refused
    rfl
  · rcases List.mem_append.mp short with skipped | silent
    · split at skipped
      · rw [List.mem_singleton.mp skipped]
        exact not_isPhaseChange_of_number log.rejected rfl
      · simp at skipped
    · obtain ⟨⟨samples, thread⟩, _, rfl⟩ := List.mem_map.mp silent
      exact not_isPhaseChange (by simp)

theorem failureReport_quiet (output : Captured) (timeout : Nat) (job? : Option LoadJob) :
    ∀ m ∈ Runner.failureReport output timeout job?, isPhaseChange m = false := by
  intro m member
  apply not_isPhaseChange
  cases job? <;> simp [Runner.failureReport] at member <;> rcases member with rfl | rfl | rfl | rfl <;>
    simp

theorem plain_logged {ms : List Message} (plain : ∀ m ∈ ms, isPhaseChange m = false) :
    Plain (ms.map .logged) := by
  intro e member
  obtain ⟨m, said, rfl⟩ := List.mem_map.mp member
  exact plain m said

theorem plain_entered (phase : Phase) : Plain [.entered phase] := by
  simp [Plain, Event.Plain]

theorem plain_launchingLoad (job : LoadJob) : Plain (launchingLoad job) := by
  simpa [launchingLoad, Plain, Event.Plain] using not_isPhaseChange (by simp)

theorem plain_startingLoad (job? : Option LoadJob) : Plain (startingLoad job?) := by
  cases job? with
  | none => simp [startingLoad, Plain]
  | some job => exact plain_append.mpr ⟨plain_launchingLoad job, plain_entered _⟩

theorem plain_launchingProbe (probe : Command) : Plain (launchingProbe probe) := by
  simpa [launchingProbe, Plain, Event.Plain] using not_isPhaseChange (by simp)

theorem plain_runningProbe (probe : Command) (exit : Exit) :
    Plain (runningProbe probe exit) :=
  plain_append.mpr ⟨plain_launchingProbe probe, by simp [Plain, Event.Plain]⟩

theorem plain_awaited : Plain (r.awaited host).events := by
  cases load : r.loadJob? host with
  | none => simp [Runner.awaited_none load, Plain]
  | some job =>
    obtain ⟨reports, plain, events⟩ := events_awaited r host job load
    rw [events]
    exact List.forall_mem_cons.mpr ⟨trivial, plain_append.mpr ⟨plain_logged plain, plain_entered _⟩⟩

theorem plain_readOutput (c : ProbeConfig) (stdout : Text.Bytes) :
    Plain (Runner.readOutput c stdout).events := by
  rw [Runner.events_readOutput]
  exact plain_logged (readOutput_quiet c _)

/-- A journal begins with what the queries leave, and what follows neither asks nor reports a
change of phase on its own. -/
theorem Course.split (course : Course r host events value) :
    ∃ asked later, events = asked ++ later ∧ (∀ e ∈ asked, e.FromTopology) ∧ Plain later := by
  have queried : ∀ e ∈ r.queried host, e.FromTopology := fun e => queried_fromTopology r host
  cases course with
  | invalid => exact ⟨[], _, rfl, by simp, plain_entered _⟩
  | uncounted | overflow => exact ⟨_, _, rfl, queried, plain_entered _⟩
  | loadNotStarted job =>
    refine ⟨_, _, List.append_assoc .., queried, ?_⟩
    exact plain_append.mpr ⟨plain_launchingLoad job, plain_entered _⟩
  | probeNotStarted =>
    simp only [List.append_assoc]
    refine ⟨_, _, rfl, queried, ?_⟩
    simp only [plain_append]
    exact ⟨plain_startingLoad _, plain_launchingProbe _, plain_entered _⟩
  | probeFailed output =>
    simp only [List.append_assoc]
    refine ⟨_, _, rfl, queried, ?_⟩
    simp only [plain_append]
    exact ⟨plain_startingLoad _, plain_runningProbe _ _,
      plain_logged (failureReport_quiet output _ _), plain_entered _⟩
  | measured output =>
    simp only [List.append_assoc]
    refine ⟨_, _, rfl, queried, ?_⟩
    simp only [plain_append]
    exact ⟨plain_startingLoad _, plain_runningProbe _ _, plain_awaited r host,
      plain_readOutput _ _, plain_entered _⟩

theorem Course.quiet (course : Course r host events value) : Quiet events := by
  obtain ⟨asked, later, rfl, fromTopology, plain⟩ := course.split
  intro m member
  rcases List.mem_append.mp member with before | after
  · rcases fromTopology _ before with ⟨query, h⟩ | ⟨level, text, h⟩
    · cases h
    · cases h
      rfl
  · exact plain _ after

theorem Course.queriesFirst (course : Course r host events value) :
    events.Pairwise fun a b => a.isAct = true → b.isQuery = false := by
  obtain ⟨asked, later, rfl, fromTopology, plain⟩ := course.split
  have idle : ∀ e ∈ asked, e.isAct = false := by
    intro e member
    rcases fromTopology e member with ⟨query, rfl⟩ | ⟨level, text, rfl⟩ <;> rfl
  have done : ∀ e ∈ later, e.isQuery = false := by
    intro e member
    cases e with
    | asked query => exact (plain _ member).elim
    | _ => rfl
  rw [List.pairwise_append]
  refine ⟨?_, ?_, ?_⟩
  · apply List.pairwise_of_forall_mem_list
    intro a member b _ act
    simp [idle a member] at act
  · apply List.pairwise_of_forall_mem_list
    intro a _ b member _
    exact done b member
  · intro a member b _ act
    simp [idle a member] at act

def startActs : Option LoadJob → List Event
  | none => []
  | some job => [.launchedLoad job.dir job.command.argv, .entered .loadStarted]

def probeActs (probe : Command) : List Event := [.entered .probeRunning, .launchedProbe probe.argv]

def awaitActs : Option LoadJob → List Event
  | none => []
  | some _ => [.awaitedLoad, .entered .loadVerified]

@[simp] theorem acts_launchingLoad (job : LoadJob) :
    acts (launchingLoad job) = [.launchedLoad job.dir job.command.argv] := rfl

@[simp] theorem acts_startingLoad (job? : Option LoadJob) :
    acts (startingLoad job?) = startActs job? := by
  cases job? <;> rfl

@[simp] theorem acts_launchingProbe (probe : Command) :
    acts (launchingProbe probe) = probeActs probe := rfl

@[simp] theorem acts_runningProbe (probe : Command) (exit : Exit) :
    acts (runningProbe probe exit) =
      probeActs probe ++ [.probeEnded exit, .entered .probeComplete] := rfl

@[simp] theorem acts_entered (phase : Phase) : acts [.entered phase] = [.entered phase] := rfl

@[simp] theorem acts_awaited : acts (r.awaited host).events = awaitActs (r.loadJob? host) := by
  cases load : r.loadJob? host with
  | none => rw [Runner.awaited_none load]; rfl
  | some job =>
    obtain ⟨reports, _, events⟩ := events_awaited r host job load
    rw [events]
    simp [acts, awaitActs, List.filter_cons, List.filter_map, Function.comp_def, Event.isAct]

@[simp] theorem acts_readOutput (c : ProbeConfig) (stdout : Text.Bytes) :
    acts (Runner.readOutput c stdout).events = [] := by
  rw [Runner.events_readOutput, acts_logged]

/-- What a run does besides asking and logging, by the place where it ends. -/
inductive ActCourse (r : Runner) (host : Host) : List Event → Prop where
  | unready (refused : ¬ r.Ready host) : ActCourse r host [.entered .failed]
  | loadNotStarted (job : LoadJob) (ready : r.Ready host) (load : r.loadJob? host = some job)
      (refused : host.startLoad job ≠ .ok ()) :
      ActCourse r host [.launchedLoad job.dir job.command.argv, .entered .failed]
  | probeNotStarted (cause : OsError) (ready : r.Ready host) (starts : r.LoadStarts host)
      (fails : r.probeOutcome host = .error cause) :
      ActCourse r host (startActs (r.loadJob? host) ++ probeActs (r.probeCommand host) ++
        [.entered .failed])
  | probeFailed (output : Captured) (ready : r.Ready host) (starts : r.LoadStarts host)
      (ran : r.probeOutcome host = .ok output) (unsuccessful : output.exit ≠ .code 0) :
      ActCourse r host (startActs (r.loadJob? host) ++ probeActs (r.probeCommand host) ++
        [.probeEnded output.exit, .entered .probeComplete, .entered .failed])
  | measured (output : Captured) (ready : r.Ready host) (starts : r.LoadStarts host)
      (ran : r.probeOutcome host = .ok output) (successful : output.exit = .code 0) :
      ActCourse r host (startActs (r.loadJob? host) ++ probeActs (r.probeCommand host) ++
        [.probeEnded output.exit, .entered .probeComplete] ++ awaitActs (r.loadJob? host) ++
        [.entered .done])

variable {r host}

theorem Course.acts (course : Course r host events value) : ActCourse r host (acts events) := by
  cases course with
  | invalid fault refused =>
    have misconfigured := r.misconfigured_of_invalid host refused
    simpa using ActCourse.unready fun ready => (r.ready_iff host |>.mp ready).1 misconfigured
  | uncounted c fault valid load count =>
    simpa using ActCourse.unready fun ready => (r.ready_iff host |>.mp ready).2 ⟨c, fault, load, count⟩
  | overflow c cpus valid load count tooMany =>
    have misconfigured : r.Misconfigured host := .inr (.inr (.inr ⟨c, cpus, load, count, tooMany⟩))
    simpa using ActCourse.unready fun ready => (r.ready_iff host |>.mp ready).1 misconfigured
  | loadNotStarted job cause ready load fails =>
    simpa using ActCourse.loadNotStarted job ready load (by simp [fails])
  | probeNotStarted cause ready starts fails =>
    simpa using ActCourse.probeNotStarted cause ready starts fails
  | probeFailed output ready starts ran unsuccessful =>
    simpa using ActCourse.probeFailed output ready starts ran unsuccessful
  | measured output ready starts ran successful =>
    simpa using ActCourse.measured output ready starts ran successful

end Parts
end SchedLatency
