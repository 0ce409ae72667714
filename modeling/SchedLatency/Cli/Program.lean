import SchedLatency.Cli.LogFilter
import SchedLatency.Cli.Commands
import SchedLatency.Text.ControlSequence

/-! The program as a function of its arguments and the machine: exit status, what is written, and
what is said on the error stream. -/
namespace SchedLatency.Cli

open Text (Bytes)

def indented (width : Nat) (text : String) : String :=
  String.ofList (text.toList.flatMap fun c =>
    if c = '\n' then '\n' :: List.replicate width ' ' else [c])

/-- Causes are numbered if there are several. -/
def causeLines : List String → List String
  | [] => []
  | [cause] => ["", "Caused by:", "    " ++ indented 4 cause]
  | causes => "" :: "Caused by:" :: causes.zipIdx.map fun (cause, i) =>
      let number := toString i
      String.ofList (List.replicate (5 - number.length) ' ') ++ number ++ ": " ++ indented 7 cause

/-- Of a panic only the message; where it happened, and hints at how to find out more, are left out. -/
def Failure.text : Failure → String
  | .reported what causes => "\n".intercalate (("Error: " ++ what) :: causeLines causes)
  | .panicked message => message

inductive Remark where
  | message (m : Message)
  | line (text : String)
  deriving DecidableEq, Repr

/-- A remark as it is printed. How a message is introduced is left open, as it may show the time. -/
def Remark.text (introduce : Message → String) : Remark → String
  | .message m =>
    let entry := introduce m ++ " " ++ indented 4 m.text ++ "\n"
    String.ofList (Text.withoutControls entry.toList)
  | .line text => text ++ "\n"

structure Outcome where
  exit : Nat
  remarks : List Remark
  output : Output
  events : List Event

/-- All that is said on the error stream. Taking out control sequences may join lines. -/
def Outcome.stderr (introduce : Message → String) (o : Outcome) : String :=
  String.join (o.remarks.map (·.text introduce))

def usageStatus : Nat := 2

def Request.execute (m : Machine) : Request → Course
  | .run args => args.execute m
  | .check programs => m.check programs
  | .parse args => args.execute m

def remarks (filter : LogFilter) (course : Course) : List Remark :=
  filter.warnings.map .line ++
  ((messages .idle course.events).filter filter.shows).map .message ++
  (match course.value.result with
    | .ok () => []
    | .error failure => [.line failure.text])

def Invocation.execute (m : Machine) (i : Invocation) : Outcome :=
  let course := i.request.execute m
  { exit := course.value.status
    remarks := remarks (.choose (m.env "RUST_LOG") i.verbose) course
    output := course.value.output
    events := course.events }

def execute (m : Machine) (arguments : List String) : Outcome :=
  match Invocation.read m.env arguments with
  | .ok invocation => invocation.execute m
  | .error e =>
    { exit := usageStatus, remarks := [.line s!"error: {e.text}"], output := {}, events := [] }

end SchedLatency.Cli
