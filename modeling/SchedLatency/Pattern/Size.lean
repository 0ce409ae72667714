import SchedLatency.Pattern
import SchedLatency.Pattern.Fault
import Std.Data.HashMap

/-! The size that a pattern unfolds to. It unfolds to an automaton that takes a text byte by byte,
and to another that takes it from its end; repetitions are written out as often as they count. Every
state takes some bytes, and more for each way on. The larger of the two must not exceed the
limit. -/
namespace SchedLatency.Pattern

structure Meter where
  states : Nat := 0
  bytes : Nat := 0
  deriving DecidableEq, Repr

namespace Meter

def full (m : Meter) : Bool := sizeLimit < m.bytes

/-- Another state, with some bytes beside what every state takes. -/
def add (m : Meter) (more : Nat) : Meter := ⟨m.states + 1, m.bytes + 32 + more⟩

def step (m : Meter) : Meter := m.add 0

def table (m : Meter) (ways : Nat) : Meter := m.add (8 * ways)

def fork (m : Meter) (ways : Nat) : Meter := m.add (4 * ways)

def steps (n : Nat) (m : Meter) : Meter := ⟨m.states + n, m.bytes + 32 * n⟩

/-- Adds a part a number of times, unless the automaton is too large before. -/
def times : Nat → (Meter → Meter) → Meter → Meter
  | 0, _, m => m
  | n + 1, part, m => if m.full then m else times n part (part m)

end Meter

inductive Direction where
  | forward
  | backward
  deriving DecidableEq, Repr

/-! States that do the same are shared, as far as they are remembered. Each of a set number of slots
remembers one state; what a state does tells its slot. -/

def slotOf (slots : Nat) (key : List Nat) : Nat :=
  let mixed := key.foldl (fun (h : UInt64) n => (h ^^^ n.toUInt64) * 1099511628211)
    14695981039346656037
  mixed.toNat % slots

/-- The states that are remembered, by slots, with what they do. -/
structure Shared where
  slots : Nat
  found : Std.HashMap Nat (List Nat × Nat) := {}
  meter : Meter

namespace Shared

/-- A state that does what a key tells, remembered or else new. -/
def state (s : Shared) (key : List Nat) (grow : Meter → Meter) : Nat × Shared :=
  let slot := slotOf s.slots key
  match s.found[slot]? with
  | some (known, id) => if known = key then (id, s) else make slot
  | none => make slot
where
  make (slot : Nat) : Nat × Shared :=
    let id := s.meter.states
    (id, { s with found := s.found.insert slot (key, id), meter := grow s.meter })

end Shared

abbrev ByteRanges := List (Nat × Nat)

/-- Backward, a character is taken from its last byte on; what comes first is shared. -/
def addSequence (final : Nat) (s : Shared) (sequence : ByteRanges) : Shared :=
  (sequence.foldl (fun (before : Nat × Shared) r =>
    before.2.state [before.1, r.1, r.2] Meter.step) (final, s)).2

def addBackward (sequences : List ByteRanges) (m : Meter) : Meter :=
  let final := m.states + 1
  let start := (m.fork sequences.length).step
  (sequences.foldl (addSequence final) { slots := 1000, meter := start }).meter

/-- Forward, all that begins alike has one state, and so has all that goes on alike. -/
def addNode (final : Nat) : Nat → Shared → List ByteRanges → Nat × Shared
  | 0, s, _ => (final, s)
  | depth + 1, s, sequences =>
    let groups := sequences.splitBy fun a b => a.head? == b.head?
    let (key, s) := groups.foldl (fun (key, s) group =>
      match group with
      | [[r]] => (key ++ [r.1, r.2, final], s)
      | (r :: _) :: _ =>
        let (next, s) := addNode final depth s (group.map List.tail)
        (key ++ [r.1, r.2, next], s)
      | _ => (key, s)) ([], s)
    s.state key fun m => m.table groups.length

def addForward (sequences : List ByteRanges) (m : Meter) : Meter :=
  (addNode m.states 4 { slots := 10000, meter := m.step } sequences).2.meter

def addSet (d : Direction) (set : CharSet) (m : Meter) : Meter :=
  let ranges := set.ranges
  if ranges.all (·.2 ≤ 0x7F) then m.step.table ranges.length
  else
    let sequences := ranges.flatMap Utf8Ranges.sequences
    match d with
    | .forward => addForward sequences m
    | .backward => addBackward sequences m

/-! A choice among literals takes them byte by byte, so that what they begin with is shared. Of two
literals the earlier counts more, so nothing is shared across the end of a literal. -/

/-- Texts behind a place in literals, in parts: each part but the last is followed by the end of a
literal. Of several ends in front one is enough. -/
def partsAtEnds (texts : List (List Nat)) : List (List (List Nat)) :=
  let (ends, texts) := texts.span List.isEmpty
  (ends.take 1 ++ texts).foldr (fun text => fun
    | [] => [[text]]
    | part :: more => if text.isEmpty then [] :: part :: more else (text :: part) :: more) [[]]

def byFirstByte (part : List (List Nat)) : List (List (List Nat)) :=
  ((part.filterMap List.head?).eraseDups).map fun b =>
    (part.filter (·.head? = some b)).map List.tail

/-- Adds places in literals, and those that they lead to. A place where no literal goes on is the
end. -/
def addPlaces : Nat → List (List (List Nat)) → Meter → Meter
  | 0, _, m => m
  | _, [], m => m
  | fuel + 1, texts :: places, m =>
    if m.full then m
    else if texts.all List.isEmpty then addPlaces fuel places m
    else
      let groups := (partsAtEnds texts).map byFirstByte
      let filled := groups.filter fun g => !g.isEmpty
      let m := filled.foldl (fun m g => if g.length = 1 then m.step else m.table g.length) m
      addPlaces fuel (groups.foldl (fun places g => g ++ places) places)
        (m.fork (filled.length + (groups.length - 1)))

def charBytes (d : Direction) (cs : List Char) : List Nat :=
  let bytes := cs.flatMap fun c => Utf8Ranges.bytes c.toNat
  match d with
  | .forward => bytes
  | .backward => bytes.reverse

def literal? : Pattern → Option (List Char)
  | literal cs => some cs
  | _ => none

def addLiterals (d : Direction) (literals : List (List Char)) (m : Meter) : Meter :=
  let texts := literals.map (charBytes d)
  addPlaces (texts.foldl (fun n t => n + t.length) 1) [texts] m.step

/-- Adds what stands in a choice. The first two parts come before the choice itself. -/
def addBranches (parts : List (Meter → Meter)) (m : Meter) : Meter :=
  let add := fun (m : Meter) (part : Meter → Meter) => if m.full then m else part m
  let m := ((parts.take 2).foldl add m).fork parts.length
  (parts.drop 2).foldl add m.step

mutual

def addPattern (d : Direction) : Pattern → Meter → Meter
  | empty, m => m.step
  | literal cs, m => m.steps (byteLength cs)
  | one set, m => addSet d set m
  | anchor _, m => m.step
  | group _ p, m =>
    match d with
    | .forward => (addPattern d p m.step).step
    | .backward => addPattern d p m
  | repeated p least most _, m =>
    let part := addPattern d p
    match most with
    | none =>
      if least = 0 then
        if p.minLength.any (0 < ·) then part (m.fork 2)
        else (((part m).fork 2).fork 2).step
      else (Meter.times least part m).fork 2
    | some most =>
      if least = 0 ∧ most = 1 then (part (m.fork 2)).step
      else
        let m := if least = 0 then m.step else Meter.times least part m
        if least = most then m
        else Meter.times (most - least) (fun m => part (m.fork 2)) m.step
  | sequence ps, m =>
    let reversed := partsOf d [] ps
    let parts := match d with
      | .forward => reversed.reverse
      | .backward => reversed
    parts.foldl (fun m part => if m.full then m else part m) m
  | choice ps, m =>
    match ps.mapM literal? with
    | some literals => addLiterals d literals m
    | none => addBranches (partsOf d [] ps).reverse m

/-- What adds each of several parts, the last one first. -/
def partsOf (d : Direction) (before : List (Meter → Meter)) : List Pattern → List (Meter → Meter)
  | [] => before
  | p :: ps => partsOf d (addPattern d p :: before) ps

end

/-- What comes before a match: text that is passed over, unless a match has to begin at the end. -/
def lead (anchored : Bool) : Meter :=
  if anchored then Meter.step {} else (Meter.fork {} 2).step.table 1

def measure (d : Direction) (p : Pattern) : Meter :=
  match d with
  | .forward => (addPattern d p (lead (p.startsWith .textStart)).step).step.step
  | .backward => (addPattern d p (lead (p.endsWith .textEnd))).step

def checkSize (p : Pattern) : Except Fault Unit :=
  if (measure .forward p).full || (measure .backward p).full then .error .tooLarge else .ok ()

end SchedLatency.Pattern
