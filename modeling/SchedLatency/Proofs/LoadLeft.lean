import SchedLatency.Proofs.LoadEnding

/-! The warning that a load is left to its timeout. It stands in the log of a run whose probe has
failed beside a load, once, and in no other log. A probe that could not be started leaves its load
behind as well, and nothing is said of it. Main statement: `run_leavesLoad`. -/
namespace SchedLatency

def leftRunning (timeout : Nat) : Message :=
  ⟨.warn, .runner, s!"LOAD GENERATOR LEFT TO EXPIRE ON ITS OWN ({timeout}s TIMEOUT)"⟩

/-- Whether a message is such a warning, of whatever timeout. -/
def Message.tellsOfLoad (m : Message) : Bool :=
  m.level = .warn && m.source = .runner &&
    "LOAD GENERATOR LEFT TO EXPIRE ON ITS OWN (".toList.isPrefixOf m.text.toList

theorem tellsOfLoad_leftRunning (timeout : Nat) : (leftRunning timeout).tellsOfLoad = true := by
  have text : (leftRunning timeout).text.toList =
      "LOAD GENERATOR LEFT TO EXPIRE ON ITS OWN (".toList ++
        (toString timeout ++ "s TIMEOUT)").toList := by
    rw [leftRunning]
    generalize toString timeout = seconds
    simp only [toString_text, String.toList_append, List.append_assoc]
  have begins := List.isPrefixOf_iff_prefix.mpr
    (List.prefix_append "LOAD GENERATOR LEFT TO EXPIRE ON ITS OWN (".toList
      (toString timeout ++ "s TIMEOUT)").toList)
  rw [Message.tellsOfLoad, text, begins]
  rfl

theorem not_tellsOfLoad_of_level {m : Message} (other : m.level ≠ .warn) : m.tellsOfLoad = false := by
  simp [Message.tellsOfLoad, other]

/-- The other warning of a run begins with a number. -/
theorem not_tellsOfLoad_of_number {m : Message} (n : Nat) (text : m.text = toString n ++ rest) :
    m.tellsOfLoad = false := by
  obtain ⟨d, head, digit⟩ := exists_head?_number n rest
  have word : "LOAD GENERATOR LEFT TO EXPIRE ON ITS OWN (".toList =
    'L' :: "OAD GENERATOR LEFT TO EXPIRE ON ITS OWN (".toList := rfl
  have other : m.text.toList.head? ≠ some 'L' := by
    rw [text, head]
    rintro ⟨⟩
    exact absurd digit (by decide)
  rw [Message.tellsOfLoad, word, not_isPrefixOf other, Bool.and_false]

def loadWarnings (events : List Event) : List Message := (logged events).filter Message.tellsOfLoad

section Pieces
variable (r : Runner) (host : Host)

theorem loadWarnings_eq_nil {events : List Event} (silent : ∀ m ∈ logged events, m.tellsOfLoad = false) :
    loadWarnings events = [] := by
  apply List.filter_eq_nil_iff.mpr
  intro m member
  simp [silent m member]

@[simp] theorem loadWarnings_append (xs ys : List Event) :
    loadWarnings (xs ++ ys) = loadWarnings xs ++ loadWarnings ys := by
  simp [loadWarnings]

@[simp] theorem loadWarnings_entered (phase : Phase) : loadWarnings [.entered phase] = [] := rfl

@[simp] theorem loadWarnings_queried : loadWarnings (r.queried host) = [] :=
  r.filter_logged_queried host _ (by simp [Message.tellsOfLoad])

theorem not_tellsOfLoad_executing (command : Command) : (executing command).tellsOfLoad = false :=
  not_tellsOfLoad_of_level (by simp [executing])

@[simp] theorem loadWarnings_launchingLoad (job : LoadJob) : loadWarnings (launchingLoad job) = [] :=
  List.filter_cons_of_neg (Bool.eq_false_iff.mp (not_tellsOfLoad_executing _))

@[simp] theorem loadWarnings_startingLoad (job? : Option LoadJob) :
    loadWarnings (startingLoad job?) = [] := by
  cases job? with
  | none => rfl
  | some job => simp [startingLoad]

@[simp] theorem loadWarnings_launchingProbe (probe : Command) :
    loadWarnings (launchingProbe probe) = [] :=
  List.filter_cons_of_neg (Bool.eq_false_iff.mp (not_tellsOfLoad_executing _))

@[simp] theorem loadWarnings_runningProbe (probe : Command) (exit : Exit) :
    loadWarnings (runningProbe probe exit) = [] :=
  loadWarnings_launchingProbe probe

@[simp] theorem loadWarnings_failureReport (output : Captured) (timeout : Nat) (job? : Option LoadJob) :
    loadWarnings ((Runner.failureReport output timeout job?).map .logged) =
      if job?.isSome then [leftRunning timeout] else [] := by
  obtain ⟨errors, level, parts⟩ : ∃ errors : List Message, (∀ m ∈ errors, m.level = .error) ∧
      Runner.failureReport output timeout job? =
        errors ++ if job?.isSome then [leftRunning timeout] else [] :=
    ⟨_, by simp, rfl⟩
  have silent : loadWarnings (errors.map .logged) = [] := by
    apply loadWarnings_eq_nil
    intro m member
    rw [logged_map_logged] at member
    exact not_tellsOfLoad_of_level (by simp [level m member])
  rw [parts, List.map_append, loadWarnings_append, silent, List.nil_append]
  cases job? with
  | none => rfl
  | some job => exact List.filter_cons_of_pos (tellsOfLoad_leftRunning timeout)

@[simp] theorem loadWarnings_awaited : loadWarnings (r.awaited host).events = [] := by
  apply loadWarnings_eq_nil
  intro m member
  rw [Runner.logged_awaited] at member
  exact not_tellsOfLoad_of_level (by simp [LoadOutcome.kind_errors member])

@[simp] theorem loadWarnings_readOutput (c : ProbeConfig) (stdout : Text.Bytes) :
    loadWarnings (Runner.readOutput c stdout).events = [] := by
  apply loadWarnings_eq_nil
  intro m member
  rw [Runner.logged_readOutput] at member
  rcases List.mem_append.mp member with refused | short
  · exact not_tellsOfLoad_of_level (by simp [Log.kind_messages refused])
  · rcases List.mem_append.mp short with skipped | silent
    · split at skipped
      · rw [List.mem_singleton.mp skipped]
        exact not_tellsOfLoad_of_number _ rfl
      · cases skipped
    · obtain ⟨⟨samples, thread⟩, _, rfl⟩ := List.mem_map.mp silent
      exact not_tellsOfLoad_of_level (by simp)

end Pieces

/-- When a run warns of its load, and how often. -/
structure LeavesLoad (r : Runner) (host : Host) (events : List Event)
    (value : Except Error RunReport) (warnings : List Message) : Prop where
  /-- A failure that leaves a load behind is told, once, if the probe has run. -/
  told : ∀ e output, value = .error e → .entered .loadStarted ∈ events →
    r.probeOutcome host = .ok output → warnings = [leftRunning r.probe.loadTimeout]
  /-- It is not told if the probe could not be started. -/
  untold : ∀ e cause, value = .error e → .entered .loadStarted ∈ events →
    r.probeOutcome host = .error cause → warnings = []
  finished : ∀ report, value = .ok report → warnings = []
  unstarted : .entered .loadStarted ∉ events → warnings = []

section Laws
variable {r : Runner} {host : Host}

theorem LeavesLoad.of_unstarted (unstarted : .entered .loadStarted ∉ events) (silent : warnings = []) :
    LeavesLoad r host events value warnings where
  told _ _ _ started := absurd started unstarted
  untold _ _ _ _ _ := silent
  finished _ _ := silent
  unstarted _ := silent

theorem Course.leavesLoad (course : Course r host events value) :
    LeavesLoad r host events value (loadWarnings events) := by
  have started : .entered .loadStarted ∈ events ↔ .entered .loadStarted ∈ SchedLatency.acts events := by
    simp [mem_acts, Event.isAct]
  cases course with
  | invalid | uncounted | overflow | loadNotStarted =>
    refine .of_unstarted ?_ (by simp)
    rw [started]
    simp
  | probeNotStarted cause ready starts fails =>
    exact {
      told := fun _ _ _ _ ran => by cases fails.symm.trans ran
      untold := fun _ _ _ _ _ => by simp
      finished := fun _ _ => by simp
      unstarted := fun _ => by simp }
  | probeFailed output ready starts ran unsuccessful =>
    have configured := started.trans (show _ ↔ (r.loadJob? host).isSome = true by
      cases r.loadJob? host <;> simp [startActs, probeActs])
    exact {
      told := fun _ _ _ started _ => by simp [configured.mp started]
      untold := fun _ _ _ _ fails => by cases ran.symm.trans fails
      finished := fun _ finished => by cases finished
      unstarted := fun unstarted => by simp [mt configured.mpr unstarted] }
  | measured output ready starts ran successful =>
    exact {
      told := fun _ _ failed => by cases failed
      untold := fun _ _ failed => by cases failed
      finished := fun _ _ => by simp
      unstarted := fun _ => by simp }

/-- Of the runs that leave a load behind, those whose probe has run and failed say so, once and with
the load's timeout. Those whose probe could not be started do not, and no other run does. -/
theorem run_leavesLoad (r : Runner) (host : Host) :
    LeavesLoad r host (r.run host).1.events (r.run host).1.value
      ((r.messages host).filter Message.tellsOfLoad) := by
  have warnings : (r.messages host).filter Message.tellsOfLoad = loadWarnings (r.run host).1.events :=
    filter_messages_logged _ (fun _ _ => not_tellsOfLoad_of_level (by simp [phaseChange])) r.phase _
  rw [warnings]
  exact (r.attempt_course host).leavesLoad

end Laws

def probelessHost : Host := { killingHost with runProbe := fun _ _ => .error .notFound }

/-- The load is running, the run has failed, and nothing is said of the load. -/
theorem load_left_untold :
    .entered .loadStarted ∈ (loadedRunner.run probelessHost).1.events ∧
    (loadedRunner.run probelessHost).1.value = .error (.spawn "cyclictest" .notFound) ∧
    (loadedRunner.messages probelessHost).filter Message.tellsOfLoad = [] :=
  ⟨by decide +kernel, rfl, by decide +kernel⟩

end SchedLatency
