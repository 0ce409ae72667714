import SchedLatency.Error
import SchedLatency.Text.Lines
import SchedLatency.Text.Numeral
import SchedLatency.Config
import SchedLatency.Journal

/-! What a run has to know about the processors. Their number is in the output of `lscpu`: the first
line that is `CPU(s):` and a decimal number, and nothing else, decides. Groups of neighbouring cores
of one kind are in `/proc/cpuinfo`: every `CPU part` line stands for one core, counted from zero, and
a group is a maximal run of cores whose parts are written alike. A query may fail, and it may log; it
does nothing else to a run. -/
namespace SchedLatency

inductive TopologyFault where
  | noCountLine (output : String)
  | badCount (digits : String) (fault : Text.NumeralFault)
  | notRun (program : String) (cause : OsError)
  | notRead (path : String) (cause : OsError)
  | stated (text : String)
  deriving DecidableEq, Repr

def TopologyFault.text : TopologyFault → String
  | .noCountLine output => s!"no CPU(s) line in lscpu output: {Text.quote output}"
  | .badCount digits fault => s!"bad cpu count {Text.quote digits}: {fault.text}"
  | .notRun program cause => s!"failed to run {program}: {cause.text}"
  | .notRead path cause => s!"failed to read {path}: {cause.text}"
  | .stated text => text

def TopologyFault.error (fault : TopologyFault) : Error := .topology fault.text

namespace Lscpu

def after? (label : String) (line : List Char) : Option (List Char) :=
  if label.toList.isPrefixOf line then some (line.drop label.toList.length) else none

/-- The digits of a count line. They may be of any script. -/
def countDigits? (line : List Char) : Option (List Char) := do
  let rest := Text.trimStart (← after? "CPU(s):" line)
  let digits := rest.takeWhile Text.isDecimalDigit
  if digits ≠ [] ∧ (rest.dropWhile Text.isDecimalDigit).all Text.isBlank then some digits else none

def readCount (output : String) : Except TopologyFault Nat :=
  match (Text.lines output.toList).findSome? countDigits? with
  | some digits => (Text.readNumeral digits).mapError (.badCount (String.ofList digits))
  | none => .error (.noCountLine (String.ofList (Text.trim output.toList)))

end Lscpu

/-- Both ends belong to the range. -/
structure CoreRange where
  first : Nat
  last : Nat
  deriving DecidableEq, Repr

def CoreRange.text (r : CoreRange) : String := s!"{r.first}-{r.last}"

namespace Cpuinfo

open Lscpu (after?)

/-- Takes off white space, of which there must be some. -/
def skipBlanks? (s : List Char) : Option (List Char) :=
  if s.head?.any Text.isBlank then some (Text.trimStart s) else none

/-- The part of a `CPU part` line, as it is written there. -/
def part? (line : List Char) : Option (List Char) := do
  let rest ← after? ":" (← skipBlanks? (← after? "CPU part" line))
  let rest ← after? "0x" (← skipBlanks? rest)
  let digits := rest.takeWhile Text.isHex
  if digits ≠ [] ∧ (rest.dropWhile Text.isHex).all Text.isBlank then some ('0' :: 'x' :: digits)
  else none

def parts (cpuinfo : String) : List (List Char) := (Text.lines cpuinfo.toList).filterMap part?

/-- Adds the next core to the groups found so far, the latest of them first. -/
def addCore [DecidableEq α] (groups : List (α × CoreRange)) (part : α) : List (α × CoreRange) :=
  match groups with
  | [] => [(part, ⟨0, 0⟩)]
  | (p, r) :: more =>
    if p = part then (p, { r with last := r.last + 1 }) :: more
    else (part, ⟨r.last + 1, r.last + 1⟩) :: (p, r) :: more

/-- The maximal runs of equal parts, each with the cores that it covers. -/
def groups [DecidableEq α] (parts : List α) : List (α × CoreRange) :=
  (parts.foldl addCore []).reverse

def ranges (cpuinfo : String) : List CoreRange := (groups (parts cpuinfo)).map Prod.snd

@[simp] theorem groups_nil [DecidableEq α] : groups ([] : List α) = [] := rfl

end Cpuinfo

/-- What a query comes to: what it has logged, and its result. -/
structure Answer (α : Type) where
  notes : List (Level × String) := []
  result : Except TopologyFault α

def Answer.traced (a : Answer α) : Traced (Except TopologyFault α) :=
  ⟨a.notes.map fun (level, text) => .logged ⟨level, .topology, text⟩, a.result⟩

structure Topology where
  cpuCount : Answer Nat
  /-- The groups of like cores, in the order of the cores. Empty where cores report no kind. -/
  coreRanges : Answer (List String)

namespace Topology

def fixed (cpus : Except TopologyFault Nat) (ranges : Except TopologyFault (List String)) :
    Topology := ⟨{ result := cpus }, { result := ranges }⟩

def askCpuCount (t : Topology) : Traced (Except TopologyFault Nat) := do
  Traced.emit (.asked .cpuCount)
  t.cpuCount.traced

def askCoreRanges (t : Topology) : Traced (Except TopologyFault (List String)) := do
  Traced.emit (.asked .coreRanges)
  t.coreRanges.traced

/-- The processor that is used where the cores cannot be told apart. -/
def fallbackCpu : String := "0"

/-- The group for a kind of cores, small ones coming first. Unless there are exactly two groups the
probe is pinned to one processor, and the journal says why. -/
def pickGroup (choose : String × String → String) (t : Topology) : Traced String := do
  match ← t.askCoreRanges with
  | .ok [small, big] => return choose (small, big)
  | .ok ranges =>
    fallBack (s!"expected 2 types of heterogeneous cores, found {ranges.length} " ++
      s!"({Text.quoteAll ranges})")
  | .error fault => fallBack fault.error.message
where
  fallBack (why : String) : Traced String := do
    Traced.log .error .topology (Error.affinity s!"{why}; pinning to cpu {fallbackCpu}").message
    return fallbackCpu

end Topology

/-- The processors for the probe; `none` leaves it unrestricted. -/
def Affinity.resolve (a : Affinity) (t : Topology) : Traced (Option String) :=
  match a with
  | .all => pure none
  | .smallCores => some <$> t.pickGroup Prod.fst
  | .bigCores => some <$> t.pickGroup Prod.snd

@[simp] theorem Affinity.resolve_all (t : Topology) : Affinity.all.resolve t = pure none := rfl

end SchedLatency
