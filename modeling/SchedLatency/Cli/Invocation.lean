import SchedLatency.Cli.Options
import SchedLatency.Config
import SchedLatency.Report

/-! The commands of the program and their arguments. -/
namespace SchedLatency.Cli

def stdioPath : String := "-"

structure OutputArgs where
  path : String := stdioPath
  format : Report.Format := .text
  deriving DecidableEq, Repr

structure RunArgs where
  probe : ProbeConfig
  load : Option LoadConfig
  programs : Programs
  output : OutputArgs
  deriving DecidableEq, Repr

structure ParseArgs where
  threads : Nat
  input : String
  output : OutputArgs
  deriving DecidableEq, Repr

inductive Request where
  | run (args : RunArgs)
  | check (programs : Programs)
  | parse (args : ParseArgs)
  deriving DecidableEq, Repr

structure Invocation where
  verbose : Bool
  request : Request
  deriving DecidableEq, Repr

/-! Values -/

/-- An unsigned 64-bit number; one plus sign may stand before it. -/
def readWord (value : String) : Option Nat :=
  let digits := match value.toList with
    | '+' :: digits => digits
    | digits => digits
  (Text.readNumeral digits).toOption

def readInteger (low high : Int) (value : String) : Option Int := do
  let (negative, digits) := match value.toList with
    | '+' :: digits => (false, digits)
    | '-' :: digits => (true, digits)
    | digits => (false, digits)
  let n ← (Text.readNumeral digits).toOption
  let n : Int := if negative then -n else n
  if low ≤ n ∧ n ≤ high then some n else none

def readPriority : String → Option Int := readInteger (-2147483648) 2147483647

def readWorkers (value : String) : Option Nat := (readInteger 0 4294967295 value).map Int.toNat

def readPolicy (value : String) : Option Policy :=
  [Policy.realTime, .normal].find? (·.label == value)

def readAffinity (value : String) : Option Affinity :=
  [Affinity.all, .smallCores, .bigCores].find? (·.label == value)

/-! Options -/

def verboseOption : OptionSpec := { name := "verbose", short := some 'v', takesValue := false }

def programOptions : List OptionSpec := [{ name := "probe-bin" }, { name := "load-bin" }]

def outputOptions : List OptionSpec :=
  [{ name := "output", short := some 'o' }, { name := "json", takesValue := false }]

def runGrammar : Grammar where
  options := [verboseOption, { name := "policy" }, { name := "priority", takesNegative := true },
    { name := "interval" }, { name := "threads" }, { name := "loops" }, { name := "affinity" },
    { name := "stress-policy" }, { name := "stress-priority", takesNegative := true },
    { name := "workers-per-cpu" }] ++ programOptions ++ outputOptions

def checkGrammar : Grammar where
  options := verboseOption :: programOptions

def parseGrammar : Grammar where
  options := [verboseOption, { name := "threads" }] ++ outputOptions
  operands := 1

def programsOf (env : String → Option String) (g : Given) : Programs where
  probe := (g.value? "probe-bin" <|> env "CYCLICBENCH_PROBE_BIN").getD ({} : Programs).probe
  load := (g.value? "load-bin" <|> env "CYCLICBENCH_LOAD_BIN").getD ({} : Programs).load

def outputOf (g : Given) : OutputArgs where
  path := (g.value? "output").getD stdioPath
  format := if g.has "json" then .json else .text

def probeOf (g : Given) : Except UsageError ProbeConfig := do
  let policy ← g.parse "policy" readPolicy
  let priority ← g.parse "priority" readPriority
  let interval ← g.parseD "interval" readWord 10000
  let threads ← g.parseD "threads" readWord 1
  let loops ← g.parseD "loops" readWord 6000
  let affinity ← g.parseD "affinity" readAffinity .all
  return ⟨⟨policy, priority⟩, interval, threads, loops, affinity⟩

/-- There is a load if it has a policy. The other options must be in order even if there is none. -/
def loadOf (g : Given) : Except UsageError (Option LoadConfig) := do
  let policy ← g.parse? "stress-policy" readPolicy
  let priority ← g.parseD "stress-priority" readPriority 20
  let workers ← g.parseD "workers-per-cpu" readWorkers 2
  return policy.map fun policy => ⟨⟨policy, priority⟩, workers⟩

/-- Reads a command's arguments. The answer says also whether they ask for more logging. -/
def readRequest (env : String → Option String) (command : String) (arguments : List String) :
    Except UsageError (Bool × Request) := do
  match command with
  | "run" =>
    let g ← Given.read runGrammar arguments
    return (g.has "verbose", .run ⟨← probeOf g, ← loadOf g, programsOf env g, outputOf g⟩)
  | "check" =>
    let g ← Given.read checkGrammar arguments
    return (g.has "verbose", .check (programsOf env g))
  | "parse" =>
    let g ← Given.read parseGrammar arguments
    let threads ← g.parseD "threads" readWord 1
    return (g.has "verbose", .parse ⟨threads, g.operands.headD stdioPath, outputOf g⟩)
  | other => .error (.unexpected other)

def readLeading (g : Given) : List String → Except UsageError (Given × String × List String)
  | [] => .error .noCommand
  | argument :: rest =>
    if Token.ofArgument argument.toList = .plain then .ok (g, argument, rest)
    else do
      let g ← g.push { options := [verboseOption] } argument
      if g.escaped then .error .noCommand else readLeading g rest

def Invocation.read (env : String → Option String) (arguments : List String) :
    Except UsageError Invocation := do
  let (leading, command, rest) ← readLeading {} arguments
  let (verbose, request) ← readRequest env command rest
  return ⟨leading.has "verbose" || verbose, request⟩

end SchedLatency.Cli
