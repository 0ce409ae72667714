import SchedLatency.Topology

/-! The command lines of the probe and the load generator. Under the real-time policy the program
is told its priority; under the normal policy it is started through `nice`. -/
namespace SchedLatency

structure Command where
  program : String
  args : List String
  deriving DecidableEq, Repr

namespace Command

def argv (c : Command) : List String := c.program :: c.args

/-- The command in one line, for messages. Arguments are not quoted. -/
def line (c : Command) : String := " ".intercalate c.argv

/-- Gives a command its priority, by an option of its own or through `nice`. -/
def prioritize (c : Command) (sched : Sched) (option : String) : Command :=
  match sched.policy with
  | .realTime => { c with args := c.args ++ [s!"{option}={sched.priority}"] }
  | .normal => ⟨"nice", "-n" :: toString sched.priority :: c.argv⟩

/-- The probe's command for given processors. Equal wakeup intervals on all threads need a distance
of zero between them. -/
def ofProbe (c : ProbeConfig) (program : String) (processors : Option String) : Command :=
  prioritize ⟨program,
    ["--verbose", "--distance=0", s!"--policy={c.sched.policy.label}", s!"--interval={c.interval}",
      s!"--threads={c.threads}", s!"--loops={c.loops}"] ++
    (processors.map fun range => s!"--affinity={range}").toList⟩ c.sched "--priority"

def ofLoad (c : LoadConfig) (program : String) (timeout workers : Nat) : Command :=
  prioritize ⟨program,
    [s!"--timeout={timeout}s", s!"--cpu={workers}", s!"--sched={c.sched.policy.label}"]⟩
    c.sched "--sched-prio"

end Command

/-- What may fail leaves its journal all the same. -/
abbrev Attempt := ExceptT Error Traced

namespace Attempt

def ofTraced (x : Traced (Except Error α)) : Attempt α := ExceptT.mk x

def ofExcept (x : Except Error α) : Attempt α := ExceptT.mk (pure x)

@[simp] theorem run_ofTraced (x : Traced (Except Error α)) : (ofTraced x).run = x := rfl

@[simp] theorem run_ofExcept (x : Except Error α) : (ofExcept x).run = pure x := rfl

@[simp] theorem run_lift (x : Traced α) : (liftM x : Attempt α).run = Except.ok <$> x := rfl

theorem run_bind_ok {x : Attempt α} {f : α → Attempt β} (h : x.run = ⟨events, .ok a⟩) :
    (x >>= f).run = ⟨events ++ (f a).run.events, (f a).run.value⟩ := by
  rw [ExceptT.run_bind, h]
  rfl

theorem run_bind_error {x : Attempt α} {f : α → Attempt β} (h : x.run = ⟨events, .error e⟩) :
    (x >>= f).run = ⟨events, .error e⟩ := by
  rw [ExceptT.run_bind, h]
  exact congrArg (Traced.mk · _) (List.append_nil events)

end Attempt

def ProbeConfig.command (c : ProbeConfig) (programs : Programs) (t : Topology) :
    Traced Command := do
  return Command.ofProbe c programs.probe (← c.affinity.resolve t)

/-- The number of workers has to fit into a 64-bit word. -/
def LoadConfig.workers (c : LoadConfig) (cpus : Nat) : Except ConfigFault Nat :=
  if c.workersPerCpu * cpus < Text.wordLimit then .ok (c.workersPerCpu * cpus)
  else .error (.workersOverflow c.workersPerCpu cpus)

def LoadConfig.command (c : LoadConfig) (timeout : Nat) (programs : Programs) (t : Topology) :
    Attempt Command := do
  let cpus ← Attempt.ofTraced (Except.mapError TopologyFault.error <$> t.askCpuCount)
  let workers ← Attempt.ofExcept ((c.workers cpus).mapError ConfigFault.error)
  return Command.ofLoad c programs.load timeout workers

/-- Without a load there is no command, and nothing is asked. -/
def loadCommand (load : Option LoadConfig) (timeout : Nat) (programs : Programs) (t : Topology) :
    Attempt (Option Command) :=
  match load with
  | none => pure none
  | some c => some <$> c.command timeout programs t

end SchedLatency
