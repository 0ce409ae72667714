import SchedLatency.Error
import SchedLatency.Binary64
import SchedLatency.Text.Numeral

/-! What a measurement is asked to do: how the probe and the load generator are scheduled, how often
the probe wakes up and on which cores. -/
namespace SchedLatency

inductive Policy where
  | realTime
  | normal
  deriving DecidableEq, Repr

def Policy.label : Policy → String
  | .realTime => "rr"
  | .normal => "other"

/-- The priority is a real-time priority or a nice value, as the policy says. -/
structure Sched where
  policy : Policy
  priority : Int
  deriving DecidableEq, Repr

inductive Affinity where
  | all
  | smallCores
  | bigCores
  deriving DecidableEq, Repr

def Affinity.label : Affinity → String
  | .all => "default"
  | .smallCores => "small_core"
  | .bigCores => "big_core"

structure ProbeConfig where
  sched : Sched
  /-- Microseconds between two wakeups. -/
  interval : Nat
  threads : Nat
  loops : Nat
  affinity : Affinity
  deriving DecidableEq, Repr

structure LoadConfig where
  sched : Sched
  workersPerCpu : Nat
  deriving DecidableEq, Repr

structure Programs where
  probe : String := "cyclictest"
  load : String := "stress-ng"
  deriving DecidableEq, Repr

inductive ConfigFault where
  | zeroInterval
  | noThreads
  | noLoops
  | workersOverflow (perCpu cpus : Nat)
  deriving DecidableEq, Repr

def ConfigFault.text : ConfigFault → String
  | .zeroInterval => "interval must be greater than 0us"
  | .noThreads => "at least one probe thread is required"
  | .noLoops => "at least one loop is required"
  | .workersOverflow perCpu cpus => s!"{perCpu} workers per cpu x {cpus} cpus overflows"

def ConfigFault.error (fault : ConfigFault) : Error := .config fault.text

namespace ProbeConfig

def validate (c : ProbeConfig) : Except ConfigFault Unit :=
  if c.interval = 0 then .error .zeroInterval
  else if c.threads = 0 then .error .noThreads
  else if c.loops = 0 then .error .noLoops
  else .ok ()

theorem validate_eq_ok_iff {c : ProbeConfig} :
    c.validate = .ok () ↔ c.interval ≠ 0 ∧ c.threads ≠ 0 ∧ c.loops ≠ 0 := by
  unfold validate
  repeat' split
  all_goals simp_all

def nominalSeconds (c : ProbeConfig) : Binary64 :=
  ((Binary64.ofNat c.loops).mul (.ofNat c.interval)).div (.ofNat 1000000)

def loadMargin : Binary64 := .ofRatio 11 10

/-- The load generator's timeout in whole seconds. It is never zero, which would mean no timeout. -/
def loadTimeout (c : ProbeConfig) : Nat :=
  max 1 (min (Text.wordLimit - 1) (c.nominalSeconds.mul loadMargin).round)

theorem loadTimeout_pos (c : ProbeConfig) : 0 < c.loadTimeout := by
  unfold loadTimeout; omega

end ProbeConfig
end SchedLatency
