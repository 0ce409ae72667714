import SchedLatency.Text.Quoted

/-! What can go wrong, and how each failure is worded. Configuration, topology, spawning, the
probe and the operating system end a run. Affinity, load generator and log line failures are
advisory: they are reported and the run goes on. -/
namespace SchedLatency

@[simp] theorem mapError_ok (f : ε → ε') (a : α) : (Except.ok a).mapError f = .ok a := rfl

@[simp] theorem mapError_error (f : ε → ε') (e : ε) :
    (Except.error e : Except ε α).mapError f = .error (f e) := rfl

inductive Exit where
  | code (n : Int)
  | signal
  deriving DecidableEq, Repr

namespace Exit

def isSuccess : Exit → Bool
  | .code n => n == 0
  | .signal => false

def code? : Exit → Option Int
  | .code n => some n
  | .signal => none

def label : Exit → String
  | .code n => s!"exit code {n}"
  | .signal => "no exit code (terminated by signal)"

theorem isSuccess_iff {e : Exit} : e.isSuccess = true ↔ e = .code 0 := by
  cases e <;> simp [isSuccess]

end Exit

/-- What the operating system says about an operation that it did not carry out. A call that was only
interrupted is made again and is no such error. -/
structure OsError where
  text : String
  deriving DecidableEq, Repr

namespace OsError

def notFound : OsError := ⟨"No such file or directory (os error 2)"⟩

/-- A text was asked for and the bytes are not UTF-8. -/
def notUtf8 : OsError := ⟨"stream did not contain valid UTF-8"⟩

/-- A sink took none of the bytes it was given, and gave no reason. -/
def nothingTaken : OsError := ⟨"failed to write whole buffer"⟩

end OsError

inductive Error where
  | config (text : String)
  | topology (text : String)
  | affinity (text : String)
  | spawn (program : String) (cause : OsError)
  | probe (exit : Exit) (stdout stderr : String)
  | load (text : String)
  | logLine (line reason : String)
  | os (cause : OsError)
  deriving DecidableEq, Repr

namespace Error

def message : Error → String
  | .config text => s!"invalid configuration: {text}"
  | .topology text => s!"topology error: {text}"
  | .affinity text => s!"affinity resolution failed: {text}"
  | .spawn program cause => s!"failed to spawn {program}: {cause.text}"
  | .probe exit _ _ => s!"probe exited with {exit.label}"
  | .load text => s!"load generator failed: {text}"
  | .logLine line reason => s!"failed to parse latency line {Text.quote line}: {reason}"
  | .os cause => s!"io error: {cause.text}"

def cause? : Error → Option OsError
  | .spawn _ cause => some cause
  | .os cause => some cause
  | _ => none

end Error
end SchedLatency
