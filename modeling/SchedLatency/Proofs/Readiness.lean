import SchedLatency.Proofs.CountLine
import SchedLatency.Proofs.MissingProgram
import SchedLatency.Proofs.SameCapture

/-! What a check is worth to a run. The check looks for four programs and for the count of the
processors, and prints what it finds; where it passes, no run of these programs, however it is
configured, fails to start a program or to count the processors. Main statement: `check_ready`. -/
namespace SchedLatency.Cli

open Text (Bytes)
open Text.Utf8 (encode lossy)

/-- The commands of this run can be started just if their programs are found. The load is started in
the directory for temporary files, from where the program that the check finds is found as well. -/
structure Machine.StartsFound (m : Machine) (args : RunArgs) : Prop where
  startLoad : ∀ job, (args.runner m).loadJob? m.toHost = some job →
    (m.startLoad job = .ok () ↔ m.finds job.command.program = true)
  runProbe : (∃ output, (args.runner m).probeOutcome m.toHost = .ok output) ↔
    m.finds ((args.runner m).probeCommand m.toHost).program = true

structure Machine.Equipped (m : Machine) (programs : Programs) : Prop where
  probe : m.finds programs.probe = true
  load : m.finds programs.load = true
  nice : m.finds "nice" = true
  lscpu : m.finds "lscpu" = true
  counts : ∃ output n, m.lscpu = .ok output ∧ Lscpu.Counted (lossy output) n

def Machine.survey (m : Machine) (programs : Programs) : List String :=
  m.firstRows programs ++ m.lastRows programs m.coreRanges.result

/-- Standard output has room for all that the check prints. -/
def Machine.ShowsSurvey (m : Machine) (programs : Programs) : Prop :=
  ∀ room, m.stdout.room = some room →
    (encode (String.join ((m.survey programs).map (· ++ "\n")))).length ≤ room

section Check
variable {m : Machine} {programs : Programs}

theorem cpuCount_eq_ok_iff {p : Platform} :
    p.cpuCount = .ok n ↔ ∃ output, p.lscpu = .ok output ∧ Lscpu.Counted (lossy output) n := by
  unfold Platform.cpuCount
  cases p.lscpu with
  | error cause => simp
  | ok output => simp [Lscpu.readCount_eq_ok_iff]

theorem isReady_iff : m.isReady programs = true ↔ m.Equipped programs := by
  have counts : m.cpuCount.toBool = true ↔
      ∃ output n, m.lscpu = .ok output ∧ Lscpu.Counted (lossy output) n := by
    cases count : m.cpuCount with
    | error fault =>
      simp only [Except.toBool, Bool.false_eq_true, false_iff]
      rintro ⟨output, n, ran, counted⟩
      cases count.symm.trans (cpuCount_eq_ok_iff.mpr ⟨output, ran, counted⟩)
    | ok n =>
      obtain ⟨output, ran, counted⟩ := cpuCount_eq_ok_iff.mp count
      exact iff_of_true rfl ⟨output, n, ran, counted⟩
  simp only [Machine.isReady, tools, Bool.and_eq_true, List.all_cons, List.all_nil, counts]
  constructor
  · rintro ⟨⟨probe, load, nice, lscpu, _⟩, counted⟩
    exact ⟨probe, load, nice, lscpu, counted⟩
  · rintro ⟨probe, load, nice, lscpu, counted⟩
    exact ⟨⟨probe, load, nice, lscpu, trivial⟩, counted⟩

theorem value_check : (m.check programs).value =
    .printed (m.verdict programs) (m.stdout.fresh.print (m.survey programs)) := by
  rw [Machine.survey, Sink.print_append, Machine.check]
  rcases m.stdout.fresh.print (m.firstRows programs) with ⟨_ | _, sink⟩ <;> rfl

theorem print_survey_eq_ok_iff :
    (m.stdout.fresh.print (m.survey programs)).1 = .ok () ↔ m.ShowsSurvey programs := by
  have whole : m.stdout.fresh.print (m.survey programs) =
      m.stdout.fresh.write (encode (String.join ((m.survey programs).map (· ++ "\n")))) := by
    rw [Sink.print, Sink.writeAll_eq_write, Text.Utf8.encode_join, List.map_map]
    rfl
  rw [whole]
  exact Sink.write_fresh_eq_ok_iff

theorem exit_check (verbose : Bool) : (Invocation.execute m ⟨verbose, .check programs⟩).exit =
    (Completion.printed (m.verdict programs) (m.stdout.fresh.print (m.survey programs))).status := by
  rw [exit_eq, Request.execute, value_check]

theorem exit_check_of_shown (shown : m.ShowsSurvey programs) (verbose : Bool) :
    (Invocation.execute m ⟨verbose, .check programs⟩).exit = if m.isReady programs then 0 else 1 := by
  rw [exit_check]
  have taken := print_survey_eq_ok_iff.mpr shown
  generalize m.stdout.fresh.print (m.survey programs) = printed at taken
  obtain ⟨result, sink⟩ := printed
  obtain rfl : result = .ok () := taken
  rw [Completion.printed, Completion.status, Machine.verdict]
  cases m.isReady programs <;> rfl

theorem exit_check_of_unshown (unshown : ¬ m.ShowsSurvey programs) (verbose : Bool) :
    (Invocation.execute m ⟨verbose, .check programs⟩).exit = 101 := by
  rw [exit_check]
  have stuck := mt print_survey_eq_ok_iff.mp unshown
  generalize m.stdout.fresh.print (m.survey programs) = printed at stuck
  obtain ⟨_ | _, sink⟩ := printed
  · rfl
  · exact absurd rfl stuck

theorem exit_check_cases (m : Machine) (programs : Programs) (verbose : Bool) :
    (m.ShowsSurvey programs ∧ m.Equipped programs ∧
      (Invocation.execute m ⟨verbose, .check programs⟩).exit = 0) ∨
    (m.ShowsSurvey programs ∧ ¬ m.Equipped programs ∧
      (Invocation.execute m ⟨verbose, .check programs⟩).exit = 1) ∨
    (¬ m.ShowsSurvey programs ∧ (Invocation.execute m ⟨verbose, .check programs⟩).exit = 101) := by
  by_cases shown : m.ShowsSurvey programs
  · have exit := exit_check_of_shown shown verbose
    by_cases equipped : m.Equipped programs
    · rw [isReady_iff.mpr equipped] at exit
      exact .inl ⟨shown, equipped, exit⟩
    · rw [Bool.eq_false_iff.mpr (mt isReady_iff.mp equipped)] at exit
      exact .inr (.inl ⟨shown, equipped, exit⟩)
  · exact .inr (.inr ⟨shown, exit_check_of_unshown shown verbose⟩)

end Check

section Run
variable {m : Machine} {args : RunArgs} (starts : m.StartsFound args)
  (equipped : m.Equipped args.programs)
include equipped

theorem not_uncounted : ¬ (args.runner m).Uncounted m.toHost := by
  rintro ⟨c, fault, _, count⟩
  obtain ⟨output, n, counted⟩ := equipped.counts
  cases count.symm.trans (cpuCount_eq_ok_iff.mpr ⟨output, counted⟩)

/-- The first word of either command is the program itself or `nice`. -/
theorem finds_prioritize (c : Command) (found : m.finds c.program = true) (sched : Sched)
    (option : String) : m.finds (c.prioritize sched option).program = true := by
  rw [Command.prioritize_program]
  split
  · exact found
  · exact equipped.nice

include starts

theorem loadStarts : (args.runner m).LoadStarts m.toHost := by
  intro job started
  cases load : args.load with
  | none => simp [Runner.loadJob?, RunArgs.runner, load] at started
  | some c =>
    obtain ⟨workers, rfl⟩ := Runner.exists_of_loadJob? (r := args.runner m) load started
    apply (starts.startLoad _ started).mpr
    exact finds_prioritize equipped _ equipped.load _ _

theorem probeStarts : ∃ output, (args.runner m).probeOutcome m.toHost = .ok output := by
  apply starts.runProbe.mpr
  exact finds_prioritize equipped _ equipped.probe _ _

/-- What is left to fail is the configuration and the probe itself. -/
theorem failure_of_equipped (failed : ((args.runner m).run m.toHost).1.value = .error e) :
    (∃ text, e = .config text) ∨ ∃ exit stdout stderr, e = .probe exit stdout stderr := by
  have verdict : Verdict _ m.toHost ((args.runner m).run m.toHost).1.value :=
    ((args.runner m).attempt_course m.toHost).verdict
  rw [failed] at verdict
  cases e with
  | config text => exact .inl ⟨text, rfl⟩
  | probe exit stdout stderr => exact .inr ⟨exit, stdout, stderr, rfl⟩
  | topology text =>
    exact absurd (verdict.topology.mp ⟨text, rfl⟩).2 (not_uncounted equipped)
  | spawn program cause =>
    obtain ⟨_, _, unstartable⟩ := (verdict.spawn program cause).mp rfl
    obtain ⟨output, ran⟩ := probeStarts starts equipped
    rw [(loadStarts starts equipped).unstartable_iff] at unstartable
    cases unstartable.1.symm.trans ran
  | affinity text => exact absurd rfl (verdict.never _ rfl text "" "" .notFound).1
  | load text => exact absurd rfl (verdict.never _ rfl text "" "" .notFound).2.1
  | logLine line reason => exact absurd rfl (verdict.never _ rfl "" line reason .notFound).2.2.1
  | os cause => exact absurd rfl (verdict.never _ rfl "" "" "" cause).2.2.2

end Run

/-- The check passes where the four programs are found, the processors can be counted and the survey
is shown; kinds of cores matter only in what is shown. Where it passes and the commands of a run of these
programs can be started if they are found, the run fails only over its configuration or by its probe's
exit. -/
theorem check_ready {m : Machine} {arguments : List String} {verbose : Bool} {programs : Programs}
    (read : Invocation.read m.env arguments = .ok ⟨verbose, .check programs⟩) :
    ((execute m arguments).exit = 0 ↔ m.Equipped programs ∧ m.ShowsSurvey programs) ∧
    ((execute m arguments).exit = 1 ↔ ¬ m.Equipped programs ∧ m.ShowsSurvey programs) ∧
    ((execute m arguments).exit = 101 ↔ ¬ m.ShowsSurvey programs) ∧
    (∀ cpuinfo, (m.ShowsSurvey programs ↔ { m with cpuinfo := cpuinfo }.ShowsSurvey programs) →
      (execute { m with cpuinfo := cpuinfo } arguments).exit = (execute m arguments).exit) ∧
    ((execute m arguments).exit = 0 → ∀ args : RunArgs, args.programs = programs → m.StartsFound args →
      (∀ program cause, ((args.runner m).run m.toHost).1.value ≠ .error (.spawn program cause)) ∧
      ∀ text, ((args.runner m).run m.toHost).1.value ≠ .error (.topology text)) := by
  rw [execute_eq read]
  have ends := exit_check_cases m programs verbose
  refine ⟨by grind, by grind, by grind, ?_, ?_⟩
  · intro cpuinfo same
    have read' : Invocation.read { m with cpuinfo := cpuinfo }.env arguments =
      .ok ⟨verbose, .check programs⟩ := read
    rw [execute_eq read']
    have equipped : { m with cpuinfo := cpuinfo }.Equipped programs ↔ m.Equipped programs :=
      ⟨fun e => ⟨e.probe, e.load, e.nice, e.lscpu, e.counts⟩,
        fun e => ⟨e.probe, e.load, e.nice, e.lscpu, e.counts⟩⟩
    have ends' := exit_check_cases { m with cpuinfo := cpuinfo } programs verbose
    rw [equipped, ← same] at ends'
    grind
  · rintro success args rfl starts
    have equipped : m.Equipped args.programs := by grind
    refine ⟨?_, ?_⟩
    · intro program cause failed
      rcases failure_of_equipped starts equipped failed with ⟨_, other⟩ | ⟨_, _, _, other⟩ <;>
        cases other
    · intro text failed
      rcases failure_of_equipped starts equipped failed with ⟨_, other⟩ | ⟨_, _, _, other⟩ <;>
        cases other

/-- A machine with these programs. `lscpu` counts four processors, and the others do nothing. -/
def stocked (found : String → Bool) : Machine :=
  { idleHost found with
    lscpu := if found "lscpu" then .ok (encode "CPU(s): 4\n") else .error .notFound
    isRoot := true
    env := fun _ => none
    stdin := .ok []
    fileBytes := fun _ => .error .notFound
    create := fun _ => .ok {}
    stdout := {}
    finds := found }

theorem startsFound_stocked (found : String → Bool) (args : RunArgs) :
    (stocked found).StartsFound args := by
  constructor
  · intro job _
    cases h : found job.command.program <;> simp [stocked, idleHost, h]
  · simp only [Runner.probeOutcome]
    generalize (args.runner (stocked found)).probeCommand _ = c
    cases h : found c.program <;> simp [stocked, idleHost, h]

def usual (program : String) : Bool := ["cyclictest", "stress-ng", "nice", "lscpu"].contains program

theorem equipped_usual (stdout : Medium) : { stocked usual with stdout := stdout }.Equipped {} := by
  have counted : Lscpu.Counted (lossy (encode "CPU(s): 4\n")) 4 :=
    Lscpu.readCount_eq_ok_iff.mp (by decide +kernel)
  exact ⟨rfl, rfl, rfl, rfl, _, 4, rfl, counted⟩

theorem check_ready_usual :
    (execute (stocked usual) ["check"]).exit = 0 ∧
    (execute (stocked fun program => usual program && program != "nice") ["check"]).exit ≠ 0 ∧
    ∀ args : RunArgs, args.programs = {} → ∀ program cause,
      ((args.runner (stocked usual)).run (stocked usual).toHost).1.value ≠
        .error (.spawn program cause) := by
  have read (found : String → Bool) : Invocation.read (stocked found).env ["check"] =
    .ok ⟨false, .check {}⟩ := rfl
  obtain ⟨passes, _, _, _, sound⟩ := check_ready (read usual)
  obtain ⟨passes', _⟩ := check_ready (read fun program => usual program && program != "nice")
  have shown : (stocked usual).ShowsSurvey {} := fun _ room => by cases room
  have success := passes.mpr ⟨equipped_usual {}, shown⟩
  refine ⟨success, ?_, ?_⟩
  · intro success'
    have nice := (passes'.mp success').1.nice
    cases nice
  · intro args same
    exact (sound success args same (startsFound_stocked usual args)).1

/-- Of two lines with a count only the second tells a number that is a word. -/
def countedTwice : String := "CPU(s): 99999999999999999999\nCPU(s): 4\n"

/-- All programs are found and one line tells a count, but not the first; all is in order, but standard
output is full. Neither check passes. -/
theorem check_fails_with_all_found :
    (tools {}).all usual = true ∧ "CPU(s): 4".toList ∈ Text.lines countedTwice.toList ∧
      Lscpu.readCount "CPU(s): 4" = .ok 4 ∧
      (execute { stocked usual with lscpu := .ok (encode countedTwice) } ["check"]).exit = 1 ∧
      { stocked usual with stdout := { room := some 0 } }.Equipped {} ∧
      (execute { stocked usual with stdout := { room := some 0 } } ["check"]).exit = 101 :=
  ⟨by decide, by decide +kernel, by decide +kernel, by decide +kernel, equipped_usual _,
    by decide +kernel⟩

end SchedLatency.Cli
