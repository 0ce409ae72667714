import Std.Data.String.ToInt
import SchedLatency.Proofs.Course
import SchedLatency.Proofs.Phases

/-! What a command line tells. From the arguments of a probe or a load, all that it was made of can be
told, whatever the names of the programs and the ranges of processors are: `nice` before a command is
known by the `-n` after it, which no program here is given first. Main statement:
`commandLines_faithful`. -/
namespace SchedLatency

namespace Command

/-- Some argument follows the program, and it is not the one that `nice` is given first. -/
def Ordinary (c : Command) : Prop := ∃ first rest, c.args = first :: rest ∧ first ≠ "-n"

section Prioritize
variable {c c' : Command} {sched sched' : Sched} {option : String}

theorem argv_prioritize_realTime (policy : sched.policy = .realTime) :
    (c.prioritize sched option).argv = c.argv ++ [s!"{option}={sched.priority}"] := by
  simp [prioritize, policy, argv]

theorem argv_prioritize_normal (policy : sched.policy = .normal) :
    (c.prioritize sched option).argv = "nice" :: "-n" :: toString sched.priority :: c.argv := by
  simp [prioritize, policy, argv]

/-- A command that is told its priority is not taken for one under `nice`. -/
theorem argv_prioritize_ne (ordinary : c.Ordinary) (realTime : sched.policy = .realTime)
    (normal : sched'.policy = .normal) :
    (c.prioritize sched option).argv ≠ (c'.prioritize sched' option).argv := by
  obtain ⟨first, rest, args, other⟩ := ordinary
  rw [argv_prioritize_realTime realTime, argv_prioritize_normal normal, argv, args]
  intro same
  exact other (List.cons.inj (List.cons.inj same).2).1

theorem sched_ext (policy : sched.policy = sched'.policy) (priority : sched.priority = sched'.priority) :
    sched = sched' := by
  cases sched
  cases sched'
  congr

/-- The policy and the priority can be told from a command, and so can the command without them. -/
theorem argv_prioritize_inj (ordinary : c.Ordinary) (ordinary' : c'.Ordinary) :
    (c.prioritize sched option).argv = (c'.prioritize sched' option).argv ↔
      c.argv = c'.argv ∧ sched = sched' := by
  constructor
  · intro same
    cases policy : sched.policy <;> cases policy' : sched'.policy
    case realTime.realTime =>
      rw [argv_prioritize_realTime policy, argv_prioritize_realTime policy'] at same
      obtain ⟨commands, options⟩ := List.append_inj' same rfl
      have priority : sched.priority = sched'.priority := by simpa [Int.repr_inj] using options
      exact ⟨commands, sched_ext (policy.trans policy'.symm) priority⟩
    case normal.normal =>
      rw [argv_prioritize_normal policy, argv_prioritize_normal policy'] at same
      have parts : sched.priority = sched'.priority ∧ c.argv = c'.argv := by
        simpa [Int.toString_eq_repr, Int.repr_inj] using same
      exact ⟨parts.2, sched_ext (policy.trans policy'.symm) parts.1⟩
    case realTime.normal => exact absurd same (argv_prioritize_ne ordinary policy policy')
    case normal.realTime => exact absurd same.symm (argv_prioritize_ne ordinary' policy' policy)
  · rintro ⟨commands, rfl⟩
    cases policy : sched.policy
    case realTime => rw [argv_prioritize_realTime policy, argv_prioritize_realTime policy, commands]
    case normal => rw [argv_prioritize_normal policy, argv_prioritize_normal policy, commands]

end Prioritize

theorem affinity_inj {processors processors' : Option String} :
    (processors.map fun range => s!"--affinity={range}").toList =
      (processors'.map fun range => s!"--affinity={range}").toList ↔ processors = processors' := by
  cases processors <;> cases processors' <;> simp

/-- All that goes into a probe's command can be told from it. -/
theorem argv_ofProbe_inj {c c' : ProbeConfig} {program program' : String}
    {processors processors' : Option String} :
    (ofProbe c program processors).argv = (ofProbe c' program' processors').argv ↔
      program = program' ∧ c.sched = c'.sched ∧ c.interval = c'.interval ∧ c.threads = c'.threads ∧
        c.loops = c'.loops ∧ processors = processors' := by
  rw [ofProbe, ofProbe, argv_prioritize_inj ⟨_, _, rfl, by decide⟩ ⟨_, _, rfl, by decide⟩]
  simp only [argv, List.cons_append, List.nil_append, List.cons.injEq, String.append_right_inj,
    Nat.toString_eq_repr, Nat.repr_inj, affinity_inj, true_and]
  constructor
  · rintro ⟨⟨program, -, interval, threads, loops, processors⟩, sched⟩
    exact ⟨program, sched, interval, threads, loops, processors⟩
  · rintro ⟨program, sched, interval, threads, loops, processors⟩
    exact ⟨⟨program, by rw [sched], interval, threads, loops, processors⟩, sched⟩

theorem ordinary_load (program : String) (timeout : Nat) (rest : List String) :
    Ordinary ⟨program, s!"--timeout={timeout}s" :: rest⟩ := by
  refine ⟨_, rest, rfl, ?_⟩
  intro same
  simpa using congrArg String.toList same

theorem argv_ofLoad_inj {c c' : LoadConfig} {program program' : String}
    {timeout timeout' workers workers' : Nat} :
    (ofLoad c program timeout workers).argv = (ofLoad c' program' timeout' workers').argv ↔
      program = program' ∧ c.sched = c'.sched ∧ timeout = timeout' ∧ workers = workers' := by
  rw [ofLoad, ofLoad, argv_prioritize_inj (ordinary_load _ _ _) (ordinary_load _ _ _)]
  simp only [argv, List.cons.injEq, String.append_left_inj, String.append_right_inj,
    Nat.toString_eq_repr, Nat.repr_inj, and_true]
  constructor
  · rintro ⟨⟨program, timeout, workers, -⟩, sched⟩
    exact ⟨program, sched, timeout, workers⟩
  · rintro ⟨program, sched, timeout, workers⟩
    exact ⟨⟨program, timeout, workers, by rw [sched]⟩, sched⟩

end Command

structure SameProbe (c c' : ProbeConfig) (programs programs' : Programs) (t t' : Topology) : Prop where
  program : programs.probe = programs'.probe
  sched : c.sched = c'.sched
  interval : c.interval = c'.interval
  threads : c.threads = c'.threads
  loops : c.loops = c'.loops
  processors : (c.affinity.resolve t).value = (c'.affinity.resolve t').value

def loadArgv (load : Option LoadConfig) (timeout : Nat) (programs : Programs) (t : Topology) :
    Except Error (List String) :=
  (loadCommand load timeout programs t).run.value.map fun command => (command.map Command.argv).getD []

/-- A load with so many workers, as many for each processor as are configured. They fit into a 64-bit
word. -/
structure Staffed (load : Option LoadConfig) (t : Topology) (c : LoadConfig) (workers : Nat) : Prop where
  configured : load = some c
  counted : ∃ cpus, t.cpuCount.result = .ok cpus ∧ workers = c.workersPerCpu * cpus
  fits : workers < Text.wordLimit

structure SameLoad (load load' : Option LoadConfig) (timeout timeout' : Nat)
    (programs programs' : Programs) (t t' : Topology) : Prop where
  staffed : ∃ c c' workers, Staffed load t c workers ∧ Staffed load' t' c' workers ∧ c.sched = c'.sched
  program : programs.load = programs'.load
  timeout : timeout = timeout'

theorem LoadConfig.workers_eq_ok_iff {c : LoadConfig} {cpus count : Nat} :
    c.workers cpus = .ok count ↔ count = c.workersPerCpu * cpus ∧ count < Text.wordLimit := by
  rw [workers]
  split
  case isTrue fits =>
    constructor
    · rintro ⟨⟩
      exact ⟨rfl, fits⟩
    · rintro ⟨rfl, _⟩
      rfl
  case isFalse tooMany =>
    constructor
    · rintro ⟨⟩
    · rintro ⟨rfl, fits⟩
      exact absurd fits tooMany

section Load
variable {load : Option LoadConfig} {timeout : Nat} {programs : Programs} {t : Topology}

@[simp] theorem loadArgv_none : loadArgv none timeout programs t = .ok [] := rfl

theorem loadArgv_some {c : LoadConfig} : loadArgv (some c) timeout programs t = .ok argv ↔
    ∃ workers, Staffed (some c) t c workers ∧
      argv = (Command.ofLoad c programs.load timeout workers).argv := by
  cases count : t.cpuCount.result with
  | error fault =>
    have failed : loadArgv (some c) timeout programs t = .error fault.error := by
      rw [loadArgv, Runner.run_loadCommand_uncounted programs timeout t c count]
      rfl
    rw [failed]
    constructor
    · rintro ⟨⟩
    · rintro ⟨workers, staffed, _⟩
      obtain ⟨cpus, counted, _⟩ := staffed.counted
      cases count.symm.trans counted
  | ok cpus =>
    have built : loadArgv (some c) timeout programs t =
        ((c.workers cpus).mapError ConfigFault.error).map fun workers =>
          (Command.ofLoad c programs.load timeout workers).argv := by
      rw [loadArgv, Runner.run_loadCommand_counted programs timeout t c count]
      cases c.workers cpus <;> rfl
    rw [built]
    constructor
    · intro same
      cases staff : c.workers cpus with
      | error fault => simp [staff, Except.map] at same
      | ok workers =>
        obtain ⟨product, fits⟩ := LoadConfig.workers_eq_ok_iff.mp staff
        rw [staff] at same
        exact ⟨workers, ⟨rfl, ⟨cpus, count, product⟩, fits⟩, (Except.ok.inj same).symm⟩
    · rintro ⟨workers, ⟨_, ⟨cpus', counted, product⟩, fits⟩, rfl⟩
      obtain rfl : cpus = cpus' := Except.ok.inj (count.symm.trans counted)
      rw [LoadConfig.workers_eq_ok_iff.mpr ⟨product, fits⟩]
      rfl

theorem loadArgv_eq_nil_iff : loadArgv load timeout programs t = .ok [] ↔ load = none := by
  cases load with
  | none => simp
  | some c =>
    rw [loadArgv_some]
    constructor
    · rintro ⟨workers, _, empty⟩
      cases empty
    · rintro ⟨⟩

/-- A command line that is not empty is that of the load that is configured. -/
theorem loadArgv_eq_ok_iff (nonempty : argv ≠ []) : loadArgv load timeout programs t = .ok argv ↔
    ∃ c workers, Staffed load t c workers ∧
      argv = (Command.ofLoad c programs.load timeout workers).argv := by
  cases load with
  | none =>
    constructor
    · intro built
      exact absurd (Except.ok.inj built).symm nonempty
    · rintro ⟨c, workers, staffed, _⟩
      cases staffed.configured
  | some c =>
    rw [loadArgv_some]
    constructor
    · rintro ⟨workers, staffed, built⟩
      exact ⟨c, workers, staffed, built⟩
    · rintro ⟨c', workers, staffed, built⟩
      obtain rfl : c = c' := Option.some.inj staffed.configured
      exact ⟨workers, staffed, built⟩

end Load

/-- Probes with the same command line are the same probe, and loads with the same command line are the same
load, up to what is not told to the programs. Only where no load is configured is its command line empty. -/
theorem commandLines_faithful :
    (∀ c c' programs programs' t t',
      (ProbeConfig.command c programs t).value.argv = (ProbeConfig.command c' programs' t').value.argv ↔
        SameProbe c c' programs programs' t t') ∧
    (∀ load load' timeout timeout' programs programs' t t',
      (∃ argv, argv ≠ [] ∧ loadArgv load timeout programs t = .ok argv ∧
        loadArgv load' timeout' programs' t' = .ok argv) ↔
        SameLoad load load' timeout timeout' programs programs' t t') ∧
    ∀ load timeout programs t, loadArgv load timeout programs t = .ok [] ↔ load = none := by
  refine ⟨?_, ?_, fun _ _ _ _ => loadArgv_eq_nil_iff⟩
  · intro c c' programs programs' t t'
    rw [ProbeConfig.command, ProbeConfig.command]
    simp only [Traced.value_bind, Traced.value_pure, Command.argv_ofProbe_inj]
    constructor
    · rintro ⟨program, sched, interval, threads, loops, processors⟩
      exact ⟨program, sched, interval, threads, loops, processors⟩
    · rintro ⟨program, sched, interval, threads, loops, processors⟩
      exact ⟨program, sched, interval, threads, loops, processors⟩
  · intro load load' timeout timeout' programs programs' t t'
    constructor
    · rintro ⟨argv, nonempty, built, built'⟩
      obtain ⟨c, workers, staffed, line⟩ := (loadArgv_eq_ok_iff nonempty).mp built
      obtain ⟨c', workers', staffed', line'⟩ := (loadArgv_eq_ok_iff nonempty).mp built'
      obtain ⟨program, sched, timeout, rfl⟩ := Command.argv_ofLoad_inj.mp (line.symm.trans line')
      exact ⟨⟨c, c', workers, staffed, staffed', sched⟩, program, timeout⟩
    · rintro ⟨⟨c, c', workers, staffed, staffed', sched⟩, program, same⟩
      have line : (Command.ofLoad c programs.load timeout workers).argv =
          (Command.ofLoad c' programs'.load timeout' workers).argv :=
        Command.argv_ofLoad_inj.mpr ⟨program, sched, same, rfl⟩
      have nonempty : (Command.ofLoad c programs.load timeout workers).argv ≠ [] := List.cons_ne_nil _ _
      exact ⟨_, nonempty, (loadArgv_eq_ok_iff nonempty).mpr ⟨c, workers, staffed, rfl⟩,
        (loadArgv_eq_ok_iff nonempty).mpr ⟨c', workers, staffed', line⟩⟩

/-- A load called `nice`, under `nice`. -/
example : loadArgv (some ⟨⟨.normal, -5⟩, 2⟩) 66 { load := "nice" } (.fixed (.ok 4) (.ok [])) =
    .ok ["nice", "-n", "-5", "nice", "--timeout=66s", "--cpu=8", "--sched=other"] := by
  cbv

end SchedLatency
