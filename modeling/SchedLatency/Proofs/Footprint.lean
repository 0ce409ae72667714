import SchedLatency.Proofs.Delivery
import SchedLatency.Proofs.SameCapture

/-! What a command leaves behind. A run or a reading that fails before its report leaves standard
output and all files as they were; one that succeeds leaves its report in the one place that it is
for, and nothing else. What is logged has no part in it. Main statement: `execute_footprint`. -/
namespace SchedLatency.Cli

open Text (Bytes)
open Text.Utf8 (encode)

/-- The files after a command, from those before it. A file that is written loses what it held. -/
def Output.leaves (o : Output) (files : String → Option Bytes) : String → Option Bytes :=
  match o.file with
  | none => files
  | some (path, bytes) => fun name => if name = path then some bytes else files name

/-- The command fails, and all is as it was. -/
structure Outcome.Untouched (o : Outcome) : Prop where
  exit : o.exit = 1
  stdout : o.output.stdout = []
  files : ∀ files, o.output.leaves files = files

/-- Just these bytes are written, to the place that a path names. -/
structure Outcome.Only (o : Outcome) (path : String) (bytes : Bytes) : Prop where
  stdout : o.output.stdout = if path = stdioPath then bytes else []
  there : path ≠ stdioPath → ∀ files, o.output.leaves files path = some bytes
  elsewhere : ∀ files name, path = stdioPath ∨ name ≠ path → o.output.leaves files name = files name

def Machine.logging (m : Machine) (spec : Option String) : Machine :=
  { m with env := fun name => if name = "RUST_LOG" then spec else m.env name }

/-- A log that is not to be read: for no threads, not there, or not text. -/
def ParseArgs.Refused (m : Machine) (args : ParseArgs) : Prop :=
  args.threads = 0 ∨ (∃ cause, args.given m = .error cause) ∨
    ∃ bytes, args.given m = .ok bytes ∧ ∀ text, bytes ≠ encode text

section Places
variable {o : Outcome}

theorem untouched_of_failed (exit : o.exit = 1) (output : o.output = {}) : o.Untouched := by
  refine ⟨exit, by rw [output], ?_⟩
  intro files
  rw [output]
  rfl

theorem only_of_at (output : o.output = .at path bytes) : o.Only path bytes := by
  unfold Output.at at output
  split at output
  · next standard =>
    refine ⟨by rw [output, if_pos standard], fun named => absurd standard named, ?_⟩
    intro files name _
    rw [output]
    rfl
  · next named =>
    refine ⟨by rw [output, if_neg named], ?_, ?_⟩
    · intro _ files
      simp [output, Output.leaves]
    · rintro files name (standard | other)
      · exact absurd standard named
      · simp [output, Output.leaves, other]

theorem output_deliver {m : Machine} {args : OutputArgs} {stats : List ThreadStats}
    (delivered : (deliver m args stats).result = .ok ()) :
    (deliver m args stats).output = .at args.path (encode (Report.render args.format stats)) := by
  unfold deliver at delivered ⊢
  cases opened : m.openOutput args.path with
  | error failure => simp [opened] at delivered
  | ok medium =>
    have settled := Report.settled_write (.fails medium.refusal) medium.room medium.flushFault
      args.format stats
    have same : (Full.fails medium.refusal).medium medium.room medium.flushFault = medium := rfl
    rw [same] at settled
    simp only [opened] at delivered ⊢
    cases written : Report.write args.format stats medium.fresh with
    | mk result sink =>
      rw [written] at settled delivered
      cases result with
      | error e => cases delivered
      | ok => rw [(settled.ok rfl).1]

end Places

section Commands
variable {m : Machine} {i : Invocation}

theorem result_of_exit (success : (i.execute m).exit = 0) :
    (i.request.execute m).value.result = .ok () := by
  rw [exit_eq, Completion.status] at success
  cases result : (i.request.execute m).value.result with
  | ok => rfl
  | error failure =>
    rw [result] at success
    cases failure <;> cases success

theorem untouched_of_refused {what : String} {causes : List String}
    (refused : (i.request.execute m).value = { result := .error (.reported what causes) }) :
    (i.execute m).Untouched := by
  apply untouched_of_failed
  · rw [exit_eq, refused]
    rfl
  · rw [Invocation.execute, refused]

theorem only_of_delivered {args : OutputArgs} {stats : List ThreadStats}
    (ends : (i.request.execute m).value = deliver m args stats) (success : (i.execute m).exit = 0) :
    (i.execute m).Only args.path (encode (Report.render args.format stats)) := by
  have delivered := result_of_exit success
  rw [ends] at delivered
  apply only_of_at
  rw [Invocation.execute, ends]
  exact output_deliver delivered

theorem RunArgs.value_of_failed {args : RunArgs}
    (failed : ((args.runner m).run m.toHost).1.value = .error e) :
    (args.execute m).value = { result := .error (.ofError "benchmark run failed" e) } := by
  rw [Runner.run] at failed
  rw [RunArgs.execute, Traced.value_bind, Traced.value_bind, failed]
  rfl

theorem ParseArgs.exists_failure {args : ParseArgs} (refused : args.Refused m) :
    ∃ what causes, (args.execute m).value = { result := .error (.reported what causes) } := by
  rcases refused with none | refused
  · rw [ParseArgs.execute, if_pos none]
    exact ⟨_, _, rfl⟩
  · have unread (text : String) : args.given m ≠ .ok (encode text) := by
      rcases refused with ⟨cause, given⟩ | ⟨bytes, given, damaged⟩
      · simp [given]
      · simp [given, damaged text]
    obtain ⟨what, causes, execute⟩ := ParseArgs.execute_unread unread
    exact ⟨what, causes, congrArg Traced.value execute⟩

theorem ParseArgs.exists_text {args : ParseArgs} (accepted : ¬ args.Refused m) :
    args.threads ≠ 0 ∧ ∃ text, args.given m = .ok (encode text) := by
  refine ⟨fun none => accepted (.inl none), ?_⟩
  cases given : args.given m with
  | error cause => exact absurd (.inr (.inl ⟨cause, given⟩)) accepted
  | ok bytes =>
    cases whole : Text.Utf8.decode? bytes with
    | some text =>
      rw [Text.Utf8.decode?_eq_some_iff.mp whole]
      exact ⟨text, rfl⟩
    | none =>
      have damaged := Text.Utf8.decode?_eq_none_iff.mp whole
      exact absurd (.inr (.inr ⟨bytes, given, damaged⟩)) accepted

theorem execute_logging (spec : Option String) (request : Request) :
    request.execute (m.logging spec) = request.execute m := by
  cases request <;> rfl

end Commands

/-- A run that fails, or a log that is refused, leaves all as it was. A command that succeeds leaves
its report in its place and nothing else. Neither depends on what is logged. -/
theorem execute_footprint {m : Machine} {arguments : List String} {verbose : Bool}
    {request : Request} (read : Invocation.read m.env arguments = .ok ⟨verbose, request⟩) :
    (∀ args, request = .run args →
      (∀ e, ((args.runner m).run m.toHost).1.value = .error e → (execute m arguments).Untouched) ∧
      ((execute m arguments).exit = 0 → ∃ report,
        ((args.runner m).run m.toHost).1.value = .ok report ∧
        (execute m arguments).Only args.output.path
          (encode (Report.render args.output.format report.stats)))) ∧
    (∀ args, request = .parse args →
      (args.Refused m → (execute m arguments).Untouched) ∧
      ((execute m arguments).exit = 0 → ∃ text, args.given m = .ok (encode text) ∧
        (execute m arguments).Only args.output.path
          (encode (Report.render args.output.format (Log.parse text args.threads).stats)))) ∧
    ∀ spec verbose' arguments',
      Invocation.read (m.logging spec).env arguments' = .ok ⟨verbose', request⟩ →
      (execute (m.logging spec) arguments').output = (execute m arguments).output ∧
        (execute (m.logging spec) arguments').exit = (execute m arguments).exit := by
  rw [execute_eq read]
  refine ⟨?_, ?_, ?_⟩
  · rintro args rfl
    refine ⟨fun e failed => untouched_of_refused (RunArgs.value_of_failed failed), ?_⟩
    intro success
    cases ran : ((args.runner m).run m.toHost).1.value with
    | error e =>
      have failed := untouched_of_refused (i := ⟨verbose, .run args⟩) (RunArgs.value_of_failed ran)
      cases failed.exit.symm.trans success
    | ok report => exact ⟨report, rfl, only_of_delivered (RunArgs.value_of_finished ran) success⟩
  · rintro args rfl
    have untouched (refused : args.Refused m) : (Invocation.execute m ⟨verbose, .parse args⟩).Untouched := by
      obtain ⟨what, causes, ends⟩ := ParseArgs.exists_failure refused
      exact untouched_of_refused ends
    refine ⟨untouched, ?_⟩
    intro success
    have accepted : ¬ args.Refused m := fun refused => by
      cases (untouched refused).exit.symm.trans success
    obtain ⟨positive, text, given⟩ := ParseArgs.exists_text accepted
    have ends := congrArg Traced.value (ParseArgs.execute_text positive given)
    exact ⟨text, given, only_of_delivered ends success⟩
  · intro spec verbose' arguments' read'
    rw [execute_eq read']
    simp only [Invocation.execute, execute_logging, and_self]

def probeless : Machine := { replaying [] with runProbe := fun _ _ => .error .notFound }

theorem execute_footprint_replayed :
    (execute probeless measuringLine).Untouched ∧
    (execute (replaying [0xFF]) readingLine).Untouched ∧
    (execute (replaying printed) readingLine).Only "-" printedReport ∧
    (execute ((replaying printed).logging (some "off")) readingLine).output =
      (execute (replaying printed) readingLine).output := by
  have run : Invocation.read probeless.env measuringLine = .ok ⟨false, .run measuring⟩ := rfl
  have parse (stdout : Bytes) : Invocation.read (replaying stdout).env readingLine =
    .ok ⟨false, .parse ⟨1, "-", ⟨"-", .json⟩⟩⟩ := rfl
  have quiet : Invocation.read ((replaying printed).logging (some "off")).env readingLine =
    .ok ⟨false, .parse ⟨1, "-", ⟨"-", .json⟩⟩⟩ := rfl
  have damaged : ∀ text, [0xFF] ≠ encode text := Text.Utf8.decode?_eq_none_iff.mp (by decide)
  -- Being ready has to do with what the machines have in common.
  obtain ⟨interval, threads, loops, workers⟩ := (captures_replaying []).ready
  have ready : (measuring.runner probeless).Ready probeless.toHost :=
    ⟨interval, threads, loops, workers⟩
  have unstarted := Course.probeNotStarted .notFound ready (fun _ _ => rfl) rfl
  obtain ⟨measured, _, _⟩ := execute_footprint run
  obtain ⟨_, refused, _⟩ := execute_footprint (parse [0xFF])
  obtain ⟨_, reads, logs⟩ := execute_footprint (parse printed)
  refine ⟨(measured _ rfl).1 _ (congrArg Traced.value unstarted.attempt_eq), ?_, ?_, ?_⟩
  · exact (refused _ rfl).1 (.inr (.inr ⟨[0xFF], rfl, damaged⟩))
  · obtain ⟨text, given, only⟩ := (reads _ rfl).2 (by decide +kernel)
    obtain rfl : text = "0:1:7\n0:é\n" := by
      have same : printed = encode text := Except.ok.inj given
      rw [← Text.Utf8.decode?_eq_some_iff, printed, Text.Utf8.decode?_encode] at same
      exact (Option.some.inj same).symm
    have report : encode (Report.render .json (Log.parse "0:1:7\n0:é\n" 1).stats) = printedReport := by
      decide +kernel
    exact report ▸ only
  · exact (logs _ _ _ quiet).1

end SchedLatency.Cli
