import SchedLatency.Proofs.Protocol

/-! What a successful run says, in order: what the topology says, the commands, the load that failed,
the lines that were refused, and what fell short. Main statements: `Runner.logged_journalOf` and
`Runner.filter_logged_journalOf`. -/
namespace SchedLatency

def executing (command : Command) : Message :=
  ⟨.info, .runner, s!"EXECUTE COMMAND: {command.line}"⟩

def LoadOutcome.errors : LoadOutcome → List Message
  | .failed text => [⟨.error, .runner, text⟩]
  | .notConfigured | .completed => []

theorem LoadOutcome.kind_errors {outcome : LoadOutcome} (member : m ∈ outcome.errors) :
    m.level = .error ∧ m.source = .runner := by
  cases outcome with
  | failed text => rw [List.mem_singleton.mp member]; exact ⟨rfl, rfl⟩
  | notConfigured | completed => cases member

theorem Log.kind_messages {log : Log} (member : m ∈ log.messages) :
    m.level = .error ∧ m.source = .log := by
  obtain ⟨reject, _, rfl⟩ := List.mem_map.mp member
  exact ⟨rfl, rfl⟩

namespace Runner
variable {r : Runner} {host : Host}

/-- Of the lines that were refused only the number is said, and only if there are any. -/
theorem filter_shortfalls_warn (c : ProbeConfig) (log : Log) :
    (shortfalls c log).filter (·.level = .warn) =
      if 0 < log.rejected then [⟨.warn, .runner, s!"{log.rejected} MALFORMED PROBE LINES SKIPPED"⟩]
      else [] := by
  have first (xs ys : List Message) (silent : ∀ m ∈ ys, m.level = .debug) :
      (xs ++ ys).filter (·.level = .warn) = xs.filter (·.level = .warn) := by
    have none : ys.filter (·.level = .warn) = [] := by
      apply List.filter_eq_nil_iff.mpr
      intro m member
      simp [silent m member]
    rw [List.filter_append, none, List.append_nil]
  rw [shortfalls, first]
  · split <;> rfl
  · intro m member
    obtain ⟨⟨samples, thread⟩, _, rfl⟩ := List.mem_map.mp member
    rfl

theorem kind_shortfalls {c : ProbeConfig} {log : Log} (member : m ∈ shortfalls c log) :
    m.source = .runner ∧ (m.level = .warn ∨ m.level = .debug) := by
  rcases List.mem_append.mp member with skipped | silent
  · split at skipped
    · rw [List.mem_singleton.mp skipped]
      exact ⟨rfl, .inl rfl⟩
    · cases skipped
  · obtain ⟨⟨samples, thread⟩, _, rfl⟩ := List.mem_map.mp silent
    exact ⟨rfl, .inr rfl⟩

theorem value_readOutput (c : ProbeConfig) (stdout : Text.Bytes) :
    (readOutput c stdout).value = Log.parse (Text.Utf8.lossy stdout) c.threads := by
  have read : (Log.read (Text.Utf8.lossy stdout) c.threads).value =
    Log.parse (Text.Utf8.lossy stdout) c.threads := rfl
  rw [readOutput, Traced.value_bind, Traced.value_bind, Traced.value_pure, read]

variable (r host) (output : Captured)

theorem reportOf_eq : r.reportOf host output =
    ⟨(Log.parse (Text.Utf8.lossy output.stdout) r.probe.threads).stats,
      Log.parse (Text.Utf8.lossy output.stdout) r.probe.threads, (r.awaited host).value⟩ := by
  rw [reportOf, value_readOutput]

theorem logged_awaited : logged (r.awaited host).events = (r.awaited host).value.errors := by
  cases load : r.loadJob? host with
  | none => rw [awaited_none load]; rfl
  | some job =>
    cases ended : loadFailure? job.command (host.awaitLoad job (r.probeCommand host)) with
    | none => rw [awaited_completed load ended]; rfl
    | some failure => rw [awaited_failed load ended]; rfl

theorem logged_startingLoad (job? : Option LoadJob) :
    logged (startingLoad job?) = job?.toList.map fun job => executing job.command := by
  cases job? <;> rfl

theorem logged_readOutput (c : ProbeConfig) (stdout : Text.Bytes) :
    logged (readOutput c stdout).events =
      (readOutput c stdout).value.messages ++ shortfalls c (readOutput c stdout).value := by
  rw [events_readOutput, logged_map_logged]

theorem logged_journalOf : logged (r.journalOf host output) =
    logged (r.queried host) ++ ((r.loadJob? host).toList.map fun job => executing job.command) ++
      [executing (r.probeCommand host)] ++ (r.reportOf host output).load.errors ++
      ((r.reportOf host output).log.messages ++ shortfalls r.probe (r.reportOf host output).log) := by
  have last : logged [.entered .done] = [] := rfl
  have probe : logged (runningProbe (r.probeCommand host) output.exit) =
    [executing (r.probeCommand host)] := rfl
  rw [journalOf]
  simp only [logged_append, logged_startingLoad, probe, logged_awaited, logged_readOutput, last,
    List.append_nil]
  rfl

/-- A selection that leaves out the topology sees nothing of the queries. -/
theorem filter_logged_queried (p : Message → Bool)
    (topology : ∀ level text, p ⟨level, .topology, text⟩ = false) :
    (logged (r.queried host)).filter p = [] := by
  apply List.filter_eq_nil_iff.mpr
  intro m member
  rcases queried_fromTopology r host (mem_logged.mp member) with ⟨query, same⟩ | ⟨level, text, same⟩
  · cases same
  · cases same
    simp [topology]

/-- A selection that leaves out the topology and the commands sees what is said of the load and of
the probe's log. -/
theorem filter_logged_journalOf (p : Message → Bool)
    (topology : ∀ level text, p ⟨level, .topology, text⟩ = false)
    (command : ∀ text, p ⟨.info, .runner, text⟩ = false) :
    (logged (r.journalOf host output)).filter p =
      (r.reportOf host output).load.errors.filter p ++
        (r.reportOf host output).log.messages.filter p ++
        (shortfalls r.probe (r.reportOf host output).log).filter p := by
  have asked := filter_logged_queried r host p topology
  have load : ((r.loadJob? host).toList.map fun job => executing job.command).filter p = [] := by
    apply List.filter_eq_nil_iff.mpr
    intro m member
    obtain ⟨job, _, rfl⟩ := List.mem_map.mp member
    simp [executing, command]
  have probe : [executing (r.probeCommand host)].filter p = [] := by simp [executing, command]
  rw [logged_journalOf]
  simp only [List.filter_append, asked, load, probe, List.nil_append, List.append_assoc]

end Runner
end SchedLatency
