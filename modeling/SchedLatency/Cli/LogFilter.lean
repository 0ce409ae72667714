import SchedLatency.Journal
import SchedLatency.Pattern.Matcher

/-! Which messages are shown. A filter is a list of limits on the level, each for all sources or for
those whose path starts with a given text; of those that apply the one with the longest text
decides. It is written as `level`, `path` or `path=level` between commas; after a slash may follow a pattern
that a message has to match. -/
namespace SchedLatency.Cli

/-- Shows the messages up to a rank of detail. Rank zero shows none. -/
structure Directive where
  /-- The start of the paths; none is for all sources. -/
  path : Option (List Char)
  rank : Nat
  deriving DecidableEq, Repr

def Directive.applies (d : Directive) (path : List Char) : Bool :=
  d.path.all (·.isPrefixOf path)

def Directive.length (d : Directive) : Nat := d.path.elim 0 List.length

structure LogFilter where
  directives : List Directive
  pattern : Option Pattern.Matcher := none
  /-- Complaints about a filter that cannot be read. -/
  warnings : List String := []
  deriving DecidableEq, Repr

namespace LogFilter

def fullRank : Nat := 5

def levelNames : List (String × Nat) :=
  [("off", 0), ("error", 1), ("warn", 2), ("info", 3), ("debug", 4), ("trace", fullRank)]

/-- Names of levels are written in any case. -/
def rank? (name : List Char) : Option Nat :=
  levelNames.lookup (String.ofList (name.map Char.toLower))

def splitOn (separator : Char) (s : List Char) : List (List Char) :=
  s.foldr (fun c => fun
    | [] => [[c]]
    | part :: more => if c = separator then [] :: part :: more else (c :: part) :: more) [[]]

def directive (s : List Char) : Except (List Char) Directive :=
  match splitOn '=' s with
  | [name] =>
    match rank? name with
    | some rank => .ok ⟨none, rank⟩
    | none => .ok ⟨name, fullRank⟩
  | [name, level] =>
    let level := Text.trim level
    if level.isEmpty then .ok ⟨name, fullRank⟩
    else
      match rank? level with
      | some rank => .ok ⟨name, rank⟩
      | none => .error level
  | _ => .error s

def complaint (what : String) : String := s!"warning: invalid {what}, ignoring it"

/-- Puts a directive in front of earlier ones, or in the place of one for the same path. -/
def put (directives : List Directive) (d : Directive) : List Directive :=
  if directives.any (·.path = d.path) then directives.map fun e => if e.path = d.path then d else e
  else d :: directives

/-- Without any directive only errors are shown. -/
def orErrors (directives : List Directive) : List Directive :=
  if directives.isEmpty then [⟨none, Level.error.rank⟩] else directives

def readDirectives (s : List Char) : List (Except (List Char) Directive) :=
  (((splitOn ',' s).map Text.trim).filter (!·.isEmpty)).map directive

def addPattern (f : LogFilter) (text : List Char) : LogFilter :=
  match Pattern.Matcher.read text with
  | .ok p => { f with pattern := some p }
  | .error fault =>
    { f with warnings := f.warnings ++ [complaint s!"regex filter - {fault.text text}"] }

def read (spec : String) : LogFilter :=
  match splitOn '/' spec.toList with
  | directives :: patterns =>
    if patterns.length ≤ 1 then
      let parts := readDirectives directives
      let filter : LogFilter :=
        { directives := orErrors ((parts.filterMap Except.toOption).foldl put []).reverse
          warnings := parts.filterMap fun
            | .ok _ => none
            | .error what => some (complaint s!"logging spec '{String.ofList what}'") }
      patterns.foldl addPattern filter
    else
      { directives := orErrors []
        warnings := [complaint s!"logging spec '{spec}' (too many '/'s)"] }
  | [] => { directives := orErrors [] }

/-- The later of two equally specific directives decides. -/
def rankFor (f : LogFilter) (path : List Char) : Nat :=
  let best := (f.directives.filter (·.applies path)).foldl
    (fun best d => match best with
      | none => some d
      | some b => if b.length ≤ d.length then some d else some b) none
  (best.map Directive.rank).getD 0

def shows (f : LogFilter) (m : Message) : Bool :=
  m.level.rank ≤ f.rankFor m.source.path.toList && f.pattern.all (·.occursIn m.text.toList)

/-- The filter that the environment sets, or else the command line. -/
def choose (spec : Option String) (verbose : Bool) : LogFilter :=
  read (spec.getD (if verbose then "info" else "warn"))

end LogFilter
end SchedLatency.Cli
