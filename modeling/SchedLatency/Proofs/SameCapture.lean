import SchedLatency.Cli.Program
import SchedLatency.Proofs.Delivery
import SchedLatency.Proofs.Encoding
import SchedLatency.Proofs.SuccessLog

/-! The report that a run makes of what its probe prints, and the report that is made when the same
bytes are read later. The run reads damaged bytes as well as it can and a later reading refuses them;
of bytes that are UTF-8 both make the same report and complain of the same lines. Main statement:
`execute_capture`. -/
namespace SchedLatency.Cli

open Text (Bytes)
open Text.Utf8 (encode lossy)

def reportOn (format : Report.Format) (threads : Nat) (stdout : Bytes) : Bytes :=
  encode (Report.render format (Log.parse (lossy stdout) threads).stats)

/-- The place that a path names can be opened and takes these bytes. -/
def Machine.Accepts (m : Machine) (path : String) (bytes : Bytes) : Prop :=
  ∃ medium, m.openOutput path = .ok medium ∧ medium.Takes bytes

/-- A run gets as far as a probe that succeeds, and the probe prints these bytes. -/
structure Captures (m : Machine) (args : RunArgs) (stdout : Bytes) : Prop where
  ready : (args.runner m).Ready m.toHost
  starts : (args.runner m).LoadStarts m.toHost
  ran : ∃ stderr, (args.runner m).probeOutcome m.toHost = .ok ⟨.code 0, stdout, stderr⟩

def ParseArgs.given (m : Machine) (args : ParseArgs) : Except OsError Bytes :=
  if args.input = stdioPath then m.stdin else m.fileBytes args.input

def Outcome.Delivers (o : Outcome) (path : String) (bytes : Bytes) : Prop :=
  o.exit = 0 ∧ o.output = .at path bytes

def texts (level : Level) (source : Source) (ms : List Message) : List String :=
  (ms.filter fun m => m.level = level ∧ m.source = source).map Message.text

/-- A run and a later reading complain of the same lines and tell their number, if there are any. -/
structure SameRefusals (ran read : List Message) (n : Nat) : Prop where
  lines : texts .error .log ran = texts .error .log read
  count : (texts .error .log ran).length = n
  ran : texts .warn .runner ran = if 0 < n then [s!"{n} MALFORMED PROBE LINES SKIPPED"] else []
  read : texts .warn .parseCommand read = if 0 < n then [s!"{n} MALFORMED LINES SKIPPED"] else []

theorem execute_eq {m : Machine} {i : Invocation} (read : Invocation.read m.env arguments = .ok i) :
    execute m arguments = i.execute m := by
  rw [execute, read]

theorem exit_eq {m : Machine} {i : Invocation} :
    (i.execute m).exit = (i.request.execute m).value.status := rfl

theorem delivers_of_deliver {m : Machine} {i : Invocation} {args : OutputArgs}
    (read : Invocation.read m.env arguments = .ok i)
    (ends : (i.request.execute m).value = deliver m args stats)
    (accepts : m.Accepts args.path (encode (Report.render args.format stats))) :
    (execute m arguments).Delivers args.path (encode (Report.render args.format stats)) := by
  obtain ⟨medium, opens, takes⟩ := accepts
  rw [deliver_taken opens takes] at ends
  rw [execute_eq read]
  refine ⟨?_, ?_⟩
  · rw [Invocation.execute, ends]
    rfl
  · rw [Invocation.execute, ends]

section Texts
variable {level : Level} {source : Source}

@[simp] theorem texts_append (ms ms' : List Message) :
    texts level source (ms ++ ms') = texts level source ms ++ texts level source ms' := by
  simp [texts]

theorem texts_eq_nil {ms : List Message} (other : ∀ m ∈ ms, m.level = level → m.source ≠ source) :
    texts level source ms = [] := by
  rw [texts, List.filter_eq_nil_iff.mpr, List.map_nil]
  intro m member
  simpa using other m member

theorem texts_messages (detail : level ≠ .debug) (events : List Event) :
    texts level source (messages .idle events) = texts level source (logged events) := by
  rw [texts, filter_messages_logged _ (by simp [phaseChange, detail.symm]), texts]

theorem texts_log (log : Log) :
    texts .error .log log.messages = log.rejects.toList.map fun r => r.error.message := by
  rw [texts, List.filter_eq_self.mpr, Log.messages, List.map_map]
  · rfl
  · intro m member
    simp [Log.kind_messages member]

theorem texts_shortfalls (c : ProbeConfig) (log : Log) :
    texts .warn .runner (Runner.shortfalls c log) =
      if 0 < log.rejected then [s!"{log.rejected} MALFORMED PROBE LINES SKIPPED"] else [] := by
  have own : (Runner.shortfalls c log).filter (fun m => m.level = .warn ∧ m.source = .runner) =
      (Runner.shortfalls c log).filter (·.level = .warn) :=
    List.filter_congr fun m member => by simp [Runner.kind_shortfalls member]
  rw [texts, own, Runner.filter_shortfalls_warn]
  split <;> rfl

end Texts

/-! The run -/

theorem RunArgs.execute_of_attempt {m : Machine} {args : RunArgs}
    (finished : (args.runner m).attempt m.toHost = ⟨events, .ok report⟩) :
    ∃ collected, args.execute m = ⟨(announce m args).events ++ events ++
      [.logged ⟨.info, .runCommand, collected⟩], deliver m args.output report.stats⟩ := by
  refine ⟨s!"COLLECTED {report.log.total} SAMPLES ACROSS {report.log.threads} THREADS " ++
      s!"({report.stats.length} REPORTED)", ?_⟩
  rw [RunArgs.execute]
  apply Traced.ext
  · rw [Traced.events_bind, Traced.events_bind, finished, List.append_assoc]
    rfl
  · rw [Traced.value_bind, Traced.value_bind, finished]
    rfl

theorem RunArgs.value_of_finished {m : Machine} {args : RunArgs}
    (finished : ((args.runner m).run m.toHost).1.value = .ok report) :
    (args.execute m).value = deliver m args.output report.stats := by
  obtain ⟨collected, execute⟩ := args.execute_of_attempt (Traced.ext rfl finished)
  rw [execute]

theorem exists_announce (m : Machine) (args : RunArgs) :
    ∃ said : List Message, (∀ n ∈ said, n.source = .runCommand) ∧
      (announce m args).events = said.map .logged := by
  unfold announce
  split
  · exact ⟨[⟨.warn, .runCommand, _⟩, ⟨.info, .runCommand, describeProbe args.probe⟩,
      ⟨.info, .runCommand, describeLoad args.load⟩], by simp, rfl⟩
  · exact ⟨[⟨.info, .runCommand, describeProbe args.probe⟩,
      ⟨.info, .runCommand, describeLoad args.load⟩], by simp, rfl⟩

theorem RunArgs.probe_runner (m : Machine) (args : RunArgs) : (args.runner m).probe = args.probe := rfl

section Run
variable {m : Machine} {args : RunArgs} {output : Captured} {report : RunReport}
  (finished : (args.runner m).attempt m.toHost =
    ⟨(args.runner m).journalOf m.toHost output, .ok ((args.runner m).reportOf m.toHost output)⟩)
include finished

theorem value_execute : (args.execute m).value =
    deliver m args.output (Log.parse (lossy output.stdout) args.probe.threads).stats := by
  rw [RunArgs.value_of_finished (congrArg Traced.value finished), Runner.reportOf_eq,
    args.probe_runner]

/-- The command adds nothing to what the run says in warning. -/
theorem texts_execute (level : Level) (source : Source) (grave : level ≠ .debug ∧ level ≠ .info)
    (other : source ≠ .runCommand ∧ source ≠ .topology) :
    texts level source (messages .idle (args.execute m).events) =
      texts level source ((args.runner m).reportOf m.toHost output).load.errors ++
      texts level source ((args.runner m).reportOf m.toHost output).log.messages ++
      texts level source
        (Runner.shortfalls args.probe ((args.runner m).reportOf m.toHost output).log) := by
  -- The command's own messages stand before and after those of the run.
  obtain ⟨said, own, announced⟩ := exists_announce m args
  obtain ⟨collected, execute⟩ := args.execute_of_attempt finished
  have before : texts level source said = [] :=
    texts_eq_nil fun n member _ same => other.1 (same.symm.trans (own n member))
  have after : texts level source (logged [.logged ⟨.info, .runCommand, collected⟩]) = [] :=
    texts_eq_nil fun n member same => by
      rw [List.mem_singleton.mp member] at same
      exact absurd same.symm grave.2
  have during : texts level source (logged ((args.runner m).journalOf m.toHost output)) = _ :=
    congrArg (List.map Message.text) (Runner.filter_logged_journalOf _ _ _ _ (by simp [other.2.symm])
      (by simp [grave.2.symm]))
  rw [texts_messages grave.1, execute, announced]
  simp only [logged_append, logged_map_logged, texts_append, before, during, after, List.nil_append,
    List.append_nil, List.map_append]
  rfl

theorem texts_execute_lines : texts .error .log (messages .idle (args.execute m).events) =
    ((args.runner m).reportOf m.toHost output).log.rejects.toList.map fun r => r.error.message := by
  have load : texts .error .log ((args.runner m).reportOf m.toHost output).load.errors = [] :=
    texts_eq_nil fun n member _ => by simp [LoadOutcome.kind_errors member]
  have short : texts .error .log (Runner.shortfalls args.probe
      ((args.runner m).reportOf m.toHost output).log) = [] :=
    texts_eq_nil fun n member _ => by simp [Runner.kind_shortfalls member]
  rw [texts_execute finished .error .log (by simp) (by simp), load, short, texts_log]
  simp

theorem texts_execute_skipped : texts .warn .runner (messages .idle (args.execute m).events) =
    if 0 < ((args.runner m).reportOf m.toHost output).log.rejected then
      [s!"{((args.runner m).reportOf m.toHost output).log.rejected} MALFORMED PROBE LINES SKIPPED"]
    else [] := by
  have load : texts .warn .runner ((args.runner m).reportOf m.toHost output).load.errors = [] :=
    texts_eq_nil fun n member level => by simp [LoadOutcome.kind_errors member] at level
  have lines : texts .warn .runner ((args.runner m).reportOf m.toHost output).log.messages = [] :=
    texts_eq_nil fun n member _ => by simp [Log.kind_messages member]
  rw [texts_execute finished .warn .runner (by simp) (by simp), load, lines, texts_shortfalls,
    List.append_nil, List.nil_append]

end Run

/-! The later reading -/

/-- What is given is read if it is the encoding of a text. -/
theorem ParseArgs.read_eq_ok_iff {m : Machine} {args : ParseArgs} :
    args.read m = .ok text ↔ args.given m = .ok (encode text) := by
  obtain ⟨origin, named⟩ : ∃ origin, (if args.input = stdioPath then (m.stdin, "from stdin")
      else (m.fileBytes args.input, args.input)) = (args.given m, origin) := by
    unfold ParseArgs.given
    split <;> exact ⟨_, rfl⟩
  rw [ParseArgs.read, named]
  cases args.given m with
  | error e => simp
  | ok bytes =>
    rw [Except.ok.injEq, ← Text.Utf8.decode?_eq_some_iff]
    cases decoded : Text.Utf8.decode? bytes <;> simp [decoded]

def readNotes (log : Log) : List Message :=
  (if 0 < log.rejected then
    [⟨.warn, .parseCommand, s!"{log.rejected} MALFORMED LINES SKIPPED"⟩] else []) ++
  [⟨.info, .parseCommand, s!"PARSED {log.total} SAMPLES ACROSS {log.threads} THREADS"⟩]

theorem ParseArgs.execute_text {m : Machine} {args : ParseArgs} (positive : args.threads ≠ 0)
    (given : args.given m = .ok (encode text)) :
    args.execute m =
      ⟨((Log.parse text args.threads).messages ++ readNotes (Log.parse text args.threads)).map .logged,
        deliver m args.output (Log.parse text args.threads).stats⟩ := by
  rw [ParseArgs.execute, if_neg positive, ParseArgs.read_eq_ok_iff.mpr given, readNotes]
  have value : (Log.read text args.threads).value = Log.parse text args.threads := rfl
  apply Traced.ext
  · rw [List.map_append]
    simp only [Traced.events_bind, value]
    split <;> simp [parseNote, Log.read]
  · simp only [Traced.value_bind, value]
    split <;> rfl

theorem ParseArgs.exists_of_read {m : Machine} {args : ParseArgs} {failure : Failure}
    (failed : args.read m = .error failure) :
    ∃ what causes, failure = Failure.reported what causes := by
  unfold ParseArgs.read at failed
  dsimp only at failed
  split at failed
  · exact ⟨_, _, (Except.error.inj failed).symm⟩
  · split at failed
    · cases failed
    · exact ⟨_, _, (Except.error.inj failed).symm⟩

/-- What is no text is refused before anything is said or opened, whatever the number of threads. -/
theorem ParseArgs.execute_unread {m : Machine} {args : ParseArgs}
    (unread : ∀ text, args.given m ≠ .ok (encode text)) :
    ∃ what causes, args.execute m = ⟨[], { result := .error (.reported what causes) }⟩ := by
  unfold ParseArgs.execute
  split
  · exact ⟨_, _, rfl⟩
  · cases read : args.read m with
    | error failure =>
      obtain ⟨what, causes, rfl⟩ := ParseArgs.exists_of_read read
      exact ⟨what, causes, rfl⟩
    | ok text => exact absurd (ParseArgs.read_eq_ok_iff.mp read) (unread text)

section Read
variable {log : Log}

theorem texts_read_lines : texts .error .log (log.messages ++ readNotes log) =
    log.rejects.toList.map fun r => r.error.message := by
  have notes : texts .error .log (readNotes log) = [] := by
    unfold readNotes
    split <;> rfl
  rw [texts_append, texts_log, notes, List.append_nil]

theorem texts_read_skipped : texts .warn .parseCommand (log.messages ++ readNotes log) =
    if 0 < log.rejected then [s!"{log.rejected} MALFORMED LINES SKIPPED"] else [] := by
  have lines : texts .warn .parseCommand log.messages = [] :=
    texts_eq_nil fun n member _ => by simp [Log.kind_messages member]
  rw [texts_append, lines, List.nil_append, readNotes]
  split <;> rfl

end Read

theorem sameRefusals {m : Machine} {args : RunArgs} {output : Captured} {log : Log}
    (finished : (args.runner m).attempt m.toHost =
      ⟨(args.runner m).journalOf m.toHost output, .ok ((args.runner m).reportOf m.toHost output)⟩)
    (same : ((args.runner m).reportOf m.toHost output).log = log) :
    SameRefusals (messages .idle (args.execute m).events)
      (messages .idle ((log.messages ++ readNotes log).map .logged)) log.rejected := by
  have lines := texts_execute_lines finished
  have skipped := texts_execute_skipped finished
  rw [same] at lines skipped
  constructor
  · rw [lines, texts_messages (by simp), logged_map_logged, texts_read_lines]
  · rw [lines, List.length_map]
    rfl
  · exact skipped
  · rw [texts_messages (by simp), logged_map_logged, texts_read_skipped]

/-- A run and a later reading of what its probe printed make the same report if the bytes are UTF-8,
whatever became of the load. If they are not, the run still reports on what can be read of them, and
the later reading fails and leaves nothing. -/
theorem execute_capture {m m' : Machine} {arguments arguments' : List String} {verbose verbose' : Bool}
    {args : RunArgs} {args' : ParseArgs} {stdout : Bytes}
    (run : Invocation.read m.env arguments = .ok ⟨verbose, .run args⟩)
    (parse : Invocation.read m'.env arguments' = .ok ⟨verbose', .parse args'⟩)
    (threads : args'.threads = args.probe.threads)
    (format : args'.output.format = args.output.format)
    (captured : Captures m args stdout) (given : args'.given m' = .ok stdout)
    (accepts : m.Accepts args.output.path
      (reportOn args.output.format args.probe.threads stdout)) :
    (execute m arguments).Delivers args.output.path
      (reportOn args.output.format args.probe.threads stdout) ∧
    (∀ text, stdout = encode text →
      SameRefusals (messages .idle (execute m arguments).events)
        (messages .idle (execute m' arguments').events)
        (Log.parse text args.probe.threads).rejected ∧
      (m'.Accepts args'.output.path (reportOn args.output.format args.probe.threads stdout) →
        (execute m' arguments').Delivers args'.output.path
          (reportOn args.output.format args.probe.threads stdout))) ∧
    ((∀ text, stdout ≠ encode text) →
      (execute m' arguments').exit = 1 ∧ (execute m' arguments').output = {}) := by
  obtain ⟨stderr, ran⟩ := captured.ran
  have finished := (Course.measured _ captured.ready captured.starts ran rfl).attempt_eq
  refine ⟨?_, ?_, ?_⟩
  · have ends := value_execute finished
    unfold reportOn at accepts ⊢
    exact delivers_of_deliver run ends accepts
  · rintro text rfl
    have undamaged : lossy (encode text) = text :=
      Text.Utf8.lossy_of_decode? (Text.Utf8.decode?_encode text)
    have log : ((args.runner m).reportOf m.toHost ⟨.code 0, encode text, stderr⟩).log =
        Log.parse text args.probe.threads := by
      rw [Runner.reportOf_eq, undamaged, args.probe_runner]
    have positive : args'.threads ≠ 0 := threads ▸ captured.ready.threads
    have read := ParseArgs.execute_text positive given
    rw [threads] at read
    refine ⟨?_, ?_⟩
    · have refusals := sameRefusals finished log
      have ran : (execute m arguments).events = (args.execute m).events := by
        rw [execute_eq run]
        rfl
      have later : (execute m' arguments').events = (args'.execute m').events := by
        rw [execute_eq parse]
        rfl
      rw [ran, later, read]
      exact refusals
    · unfold reportOn
      rw [undamaged, ← format]
      exact delivers_of_deliver parse (congrArg Traced.value read)
  · intro damaged
    have unread (text : String) : args'.given m' ≠ .ok (encode text) := by
      rw [given, ne_eq, Except.ok.injEq]
      exact damaged text
    obtain ⟨what, causes, refused⟩ := ParseArgs.execute_unread unread
    rw [execute_eq parse]
    simp only [Invocation.execute, Request.execute, refused]
    exact ⟨rfl, trivial⟩

/-- A machine where a probe prints these bytes beside a load that is killed, and where they can be
read again. -/
def replaying (stdout : Bytes) : Machine where
  lscpu := .ok (encode "CPU(s): 4\n")
  cpuinfo := .error .notFound
  startLoad _ := .ok ()
  runProbe _ _ := .ok ⟨.code 0, stdout, []⟩
  awaitLoad _ _ := .ok .signal
  isRoot := false
  env _ := none
  stdin := .ok stdout
  fileBytes _ := .error .notFound
  create _ := .ok {}
  stdout := {}
  finds _ := true

def measuring : RunArgs :=
  ⟨⟨⟨.normal, 0⟩, 10000, 1, 6000, .all⟩, some ⟨⟨.normal, 20⟩, 2⟩, {}, ⟨"run.json", .json⟩⟩

theorem captures_replaying (stdout : Bytes) : Captures (replaying stdout) measuring stdout := by
  refine ⟨⟨?_, ?_, ?_, ?_⟩, fun job _ => rfl, [], rfl⟩
  · simp [RunArgs.runner, measuring]
  · simp [RunArgs.runner, measuring]
  · simp [RunArgs.runner, measuring]
  · intro c load
    cases load
    exact ⟨4, rfl, by decide⟩

theorem accepts_replaying (stdout : Bytes) (path : String) (bytes : Bytes) :
    (replaying stdout).Accepts path bytes := by
  have opens : (replaying stdout).openOutput path = .ok {} := by
    unfold Machine.openOutput
    split <;> rfl
  exact ⟨{}, opens, nofun, rfl⟩

def measuringLine : List String :=
  ["run", "--policy", "other", "--priority", "0", "--stress-policy", "other", "--json",
    "-o", "run.json"]

def readingLine : List String := ["parse", "--json"]

def printed : Bytes := encode "0:1:7\n0:é\n"

def printedReport : Bytes := encode
  "\x7b\"stats\":[\x7b\"thread_id\":0,\"min\":7,\"median\":7,\"p99\":7,\"max\":7\x7d]\x7d\n"

theorem execute_capture_replayed :
    (execute (replaying printed) measuringLine).Delivers "run.json" printedReport ∧
    (execute (replaying printed) readingLine).Delivers "-" printedReport ∧
    SameRefusals (messages .idle (execute (replaying printed) measuringLine).events)
      (messages .idle (execute (replaying printed) readingLine).events) 1 ∧
    (execute (replaying [0xFF]) measuringLine).exit = 0 ∧
    (execute (replaying [0xFF]) readingLine).exit = 1 ∧
    (execute (replaying [0xFF]) readingLine).output = {} := by
  have run (stdout : Bytes) : Invocation.read (replaying stdout).env measuringLine =
    .ok ⟨false, .run measuring⟩ := rfl
  have parse (stdout : Bytes) : Invocation.read (replaying stdout).env readingLine =
    .ok ⟨false, .parse ⟨1, "-", ⟨"-", .json⟩⟩⟩ := rfl
  have report : reportOn .json 1 printed = printedReport := by decide +kernel
  have refused : (Log.parse "0:1:7\n0:é\n" 1).rejected = 1 := by decide +kernel
  have damaged (text : String) : [0xFF] ≠ encode text := by
    intro same
    have unread : Text.Utf8.decode? [0xFF] = none := by decide
    rw [Text.Utf8.decode?_eq_some_iff.mpr same] at unread
    cases unread
  obtain ⟨ran, read, _⟩ := execute_capture (run printed) (parse printed) rfl rfl
    (captures_replaying printed) rfl (accepts_replaying printed "run.json" _)
  obtain ⟨refusals, delivered⟩ := read "0:1:7\n0:é\n" rfl
  obtain ⟨ranDamaged, _, unread⟩ := execute_capture (run [0xFF]) (parse [0xFF]) rfl rfl
    (captures_replaying [0xFF]) rfl (accepts_replaying [0xFF] "run.json" _)
  refine ⟨?_, ?_, ?_, ranDamaged.1, unread damaged⟩
  · exact report ▸ ran
  · exact report ▸ delivered (accepts_replaying printed _ _)
  · exact refused ▸ refusals

end SchedLatency.Cli
