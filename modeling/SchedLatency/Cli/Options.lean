/-! Options and operands on a command line. Long options take their value after an equals sign or as
the next argument, short ones directly, after an equals sign or as the next argument. Short flags
may share a dash. After `--` all arguments are operands. No option may be given twice. -/
namespace SchedLatency.Cli

structure OptionSpec where
  name : String
  short : Option Char := none
  takesValue : Bool := true
  /-- Whether the next argument may be a negative number. Other arguments with a dash never are
  values, a lone dash apart. -/
  takesNegative : Bool := false
  deriving DecidableEq, Repr

inductive UsageError where
  | unexpected (argument : String)
  | repeated (option : String)
  | noValue (option : String)
  | needlessValue (option : String)
  | badValue (option value : String)
  | missing (option : String)
  | noCommand
  deriving DecidableEq, Repr

def UsageError.text : UsageError → String
  | .unexpected argument => s!"unexpected argument '{argument}'"
  | .repeated option => s!"--{option} is given more than once"
  | .noValue option => s!"--{option} needs a value"
  | .needlessValue option => s!"--{option} takes no value"
  | .badValue option value => s!"--{option} does not take the value '{value}'"
  | .missing option => s!"--{option} is required"
  | .noCommand => "a command is required"

inductive Token where
  | escape
  | long (name : List Char) (value : Option (List Char))
  | shorts (letters : List Char)
  | plain
  deriving DecidableEq, Repr

def Token.ofArgument (argument : List Char) : Token :=
  match argument with
  | ['-', '-'] => .escape
  | '-' :: '-' :: rest =>
    .long (rest.takeWhile (· != '=')) (rest.dropWhile (· != '=')).tail?
  | '-' :: letter :: letters => .shorts (letter :: letters)
  | _ => .plain

def isNegativeNumber (argument : List Char) : Bool :=
  match argument with
  | '-' :: digits => !digits.isEmpty && digits.all Char.isDigit
  | _ => false

structure Grammar where
  options : List OptionSpec
  operands : Nat := 0

structure Given where
  values : List (String × String) := []
  operands : List String := []
  /-- The option whose value is the next argument. -/
  awaiting : Option OptionSpec := none
  escaped : Bool := false
  deriving Repr

namespace Given

def value? (g : Given) (option : String) : Option String := g.values.lookup option

def has (g : Given) (option : String) : Bool := (g.value? option).isSome

def add (g : Given) (option : OptionSpec) (value : String) : Except UsageError Given :=
  if g.has option.name then .error (.repeated option.name)
  else .ok { g with values := g.values ++ [(option.name, value)], awaiting := none }

def addOperand (s : Grammar) (g : Given) (operand : String) : Except UsageError Given :=
  if g.operands.length < s.operands then .ok { g with operands := g.operands ++ [operand] }
  else .error (.unexpected operand)

/-- The letters after one dash: flags, and at most one option with a value, which ends them. -/
def addShorts (s : Grammar) (argument : String) (g : Given) : List Char → Except UsageError Given
  | [] => .ok g
  | letter :: rest =>
    match s.options.find? (·.short == some letter) with
    | none => .error (.unexpected argument)
    | some option =>
      if option.takesValue then
        match rest with
        | [] => .ok { g with awaiting := some option }
        | '=' :: value => g.add option (String.ofList value)
        | value => g.add option (String.ofList value)
      else do addShorts s argument (← g.add option "") rest

def addLong (s : Grammar) (argument : String) (g : Given) (name : List Char)
    (value : Option (List Char)) : Except UsageError Given :=
  match s.options.find? (·.name == String.ofList name), value with
  | none, _ => .error (.unexpected argument)
  | some option, some value =>
    if option.takesValue then g.add option (String.ofList value)
    else .error (.needlessValue option.name)
  | some option, none =>
    if option.takesValue then .ok { g with awaiting := some option } else g.add option ""

def push (s : Grammar) (g : Given) (argument : String) : Except UsageError Given :=
  if g.escaped then g.addOperand s argument
  else
    match Token.ofArgument argument.toList, g.awaiting with
    | .plain, some option => g.add option argument
    | .plain, none => g.addOperand s argument
    | .escape, none => .ok { g with escaped := true }
    | .long name value, none => g.addLong s argument name value
    | .shorts letters, none => g.addShorts s argument letters
    | _, some option =>
      if option.takesNegative && isNegativeNumber argument.toList then g.add option argument
      else .error (.noValue option.name)

def finish (g : Given) : Except UsageError Given :=
  match g.awaiting with
  | none => .ok g
  | some option => .error (.noValue option.name)

def read (s : Grammar) (arguments : List String) : Except UsageError Given := do
  (← arguments.foldlM (push s) {}).finish

def parse? (g : Given) (option : String) (read : String → Option α) :
    Except UsageError (Option α) :=
  match g.value? option with
  | none => .ok none
  | some value =>
    match read value with
    | some a => .ok (some a)
    | none => .error (.badValue option value)

def parseD (g : Given) (option : String) (read : String → Option α) (default : α) :
    Except UsageError α := do
  return (← g.parse? option read).getD default

def parse (g : Given) (option : String) (read : String → Option α) : Except UsageError α := do
  match ← g.parse? option read with
  | some a => return a
  | none => .error (.missing option)

end Given
end SchedLatency.Cli
