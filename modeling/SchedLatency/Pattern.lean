import SchedLatency.Pattern.Anchor

/-! Text patterns: what the parts of a pattern match, without the signs it is written in. Patterns
are built by functions that keep them in a simple form: no sequence stands in a sequence and no
choice in a choice, characters that follow each other make up one literal, and a choice among single
characters is a set. The form tells how large a pattern unfolds. A range of code points falls into
sequences of ranges of bytes of UTF-8, one for each byte, so that every choice of bytes is a character
of the range. -/
namespace SchedLatency.Pattern.Utf8Ranges

def length (n : Nat) : Nat :=
  if n ≤ 0x7F then 1 else if n ≤ 0x7FF then 2 else if n ≤ 0xFFFF then 3 else 4

def bytes (n : Nat) : List Nat :=
  match length n with
  | 1 => [n]
  | 2 => [0xC0 + n / 64, 0x80 + n % 64]
  | 3 => [0xE0 + n / 4096, 0x80 + n / 64 % 64, 0x80 + n % 64]
  | _ => [0xF0 + n / 262144, 0x80 + n / 4096 % 64, 0x80 + n / 64 % 64, 0x80 + n % 64]

/-- The code points of one number of bytes. Surrogates have none. -/
def blocks : List (Nat × Nat) :=
  [(0, 0x7F), (0x80, 0x7FF), (0x800, 0xD7FF), (0xE000, 0xFFFF), (0x10000, 0x10FFFF)]

def clip (r block : Nat × Nat) : Option (Nat × Nat) :=
  let low := max r.1 block.1
  let high := min r.2 block.2
  if low ≤ high then some (low, high) else none

/-- A range cut where a unit begins in which it does not begin, and where one ends in which it does
not end. What lies within a unit stays whole. -/
def cut (unit : Nat) (r : Nat × Nat) : List (Nat × Nat) :=
  if r.1 / unit = r.2 / unit then [r]
  else
    let first := (r.1 + unit - 1) / unit * unit
    let next := (r.2 + 1) / unit * unit
    (if r.1 < first then [(r.1, first - 1)] else []) ++
      (if first < next then [(first, next - 1)] else []) ++
      (if next ≤ r.2 then [(next, r.2)] else [])

/-- Bytes behind the first count in sixties and fours. -/
def pieces (r : Nat × Nat) : List (Nat × Nat) :=
  if r.2 ≤ 0x7F then [r]
  else ((cut 64 r).flatMap (cut 4096)).flatMap (cut 262144)

def sequences (r : Nat × Nat) : List (List (Nat × Nat)) :=
  ((blocks.filterMap (clip r)).flatMap pieces).map fun p => (bytes p.1).zip (bytes p.2)

end SchedLatency.Pattern.Utf8Ranges

namespace SchedLatency

open Pattern

inductive Pattern where
  | empty
  /-- One or more characters. -/
  | literal (cs : List Char)
  | one (set : CharSet)
  | anchor (a : Anchor)
  | group (index : Nat) (p : Pattern)
  | repeated (p : Pattern) (least : Nat) (most : Option Nat) (short : Bool)
  | sequence (ps : List Pattern)
  | choice (ps : List Pattern)

namespace Pattern

mutual

def same : Pattern → Pattern → Bool
  | empty, empty => true
  | literal cs, literal ds => cs = ds
  | one s, one t => s = t
  | anchor a, anchor b => a = b
  | group i p, group j q => i = j && p.same q
  | repeated p least most short, repeated q least' most' short' =>
    least = least' && most = most' && short = short' && p.same q
  | sequence ps, sequence qs => allSame ps qs
  | choice ps, choice qs => allSame ps qs
  | _, _ => false

def allSame : List Pattern → List Pattern → Bool
  | [], [] => true
  | p :: ps, q :: qs => p.same q && allSame ps qs
  | _, _ => false

end

/-! The length of matches in bytes of UTF-8. -/

def byteLength (cs : List Char) : Nat := cs.foldl (fun n c => n + c.utf8Size) 0

mutual

/-- The least length of a match. A pattern with a set of no characters in it has none. -/
def minLength : Pattern → Option Nat
  | empty => some 0
  | literal cs => some (byteLength cs)
  | one set => set.ranges.head?.map fun r => Utf8Ranges.length r.1
  | anchor _ => some 0
  | group _ p => p.minLength
  | repeated p least _ _ => p.minLength.map (· * least)
  | sequence ps => sumOfMin 0 ps
  | choice ps => leastOfMin none ps

def sumOfMin (before : Nat) : List Pattern → Option Nat
  | [] => some before
  | p :: ps =>
    match p.minLength with
    | some n => sumOfMin (before + n) ps
    | none => none

def leastOfMin (before : Option Nat) : List Pattern → Option Nat
  | [] => before
  | p :: ps =>
    match p.minLength with
    | some n => leastOfMin (some (min n (before.getD n))) ps
    | none => none

end

mutual

def maxLength : Pattern → Option Nat
  | empty => some 0
  | literal cs => some (byteLength cs)
  | one set => set.ranges.getLast?.map fun r => Utf8Ranges.length r.2
  | anchor _ => some 0
  | group _ p => p.maxLength
  | repeated p _ most _ => do return (← p.maxLength) * (← most)
  | sequence ps => sumOfMax 0 ps
  | choice ps => greatestOfMax 0 ps

def sumOfMax (before : Nat) : List Pattern → Option Nat
  | [] => some before
  | p :: ps =>
    match p.maxLength with
    | some n => sumOfMax (before + n) ps
    | none => none

def greatestOfMax (before : Nat) : List Pattern → Option Nat
  | [] => some before
  | p :: ps =>
    match p.maxLength with
    | some n => greatestOfMax (max before n) ps
    | none => none

end

/-! Building patterns. -/

def ofSet (set : CharSet) : Pattern :=
  match set.only? with
  | some c => literal [c]
  | none => one set

/-- A repetition of a pattern. What only matches the empty text need not be repeated. -/
def repeating (p : Pattern) (least : Nat) (most : Option Nat) (short : Bool) : Pattern :=
  let (least, most) :=
    if p.maxLength = some 0 then (min least 1, some (min (most.getD 1) 1)) else (least, most)
  if least = 0 ∧ most = some 0 then empty
  else if least = 1 ∧ most = some 1 then p
  else repeated p least most short

def parts : Pattern → List Pattern
  | empty => []
  | sequence ps => ps
  | p => [p]

/-- Puts a part in front of others. Literals next to each other are one. -/
def joinFront (p : Pattern) (rest : List Pattern) : List Pattern :=
  match p, rest with
  | literal cs, literal ds :: rest => literal (cs ++ ds) :: rest
  | p, rest => p :: rest

def concat (ps : List Pattern) : Pattern :=
  match (ps.flatMap parts).foldr joinFront [] with
  | [] => empty
  | [p] => p
  | ps => sequence ps

def branches : Pattern → List Pattern
  | choice ps => ps
  | p => [p]

def single? : Pattern → Option Char
  | literal [c] => some c
  | _ => none

def set? : Pattern → Option CharSet
  | one set => some set
  | _ => none

def choose (ps : List Pattern) : Pattern :=
  match ps with
  | [p] => p
  | ps =>
    match ps.mapM single?, ps.mapM set? with
    | some cs, _ => ofSet (.ofList cs)
    | none, some sets => ofSet (.unionAll sets)
    | none, none => choice ps

def sequence? : Pattern → Option (List Pattern)
  | sequence ps => some ps
  | _ => none

def commonLength (before : Nat) : List Pattern → List Pattern → Nat
  | p :: ps, q :: qs => if p.same q then commonLength (before + 1) ps qs else before
  | _, _ => before

/-- A choice. What all branches begin with stands in front of it. -/
def either (ps : List Pattern) : Pattern :=
  let ps := ps.flatMap branches
  match ps.mapM sequence? with
  | some (first :: second :: more) =>
    let n := (second :: more).foldl (fun n other => min n (commonLength 0 first other))
      first.length
    if n = 0 then choose ps
    else
      let rests := (first :: second :: more).map fun branch => concat (branch.drop n)
      concat (first.take n ++ [choose (rests.flatMap branches)])
  | _ => choose ps

/-! Patterns that match only at an end of a text. -/

mutual

/-- Whether an anchor stands in front of all that takes characters. -/
def startsWith (a : Anchor) : Pattern → Bool
  | anchor b => a = b
  | group _ p => p.startsWith a
  | repeated p least _ _ => least ≠ 0 && p.startsWith a
  | sequence ps => anyInFront a ps
  | choice ps => allStartWith a ps
  | _ => false

def anyInFront (a : Anchor) : List Pattern → Bool
  | [] => false
  | p :: ps => p.startsWith a || (p.maxLength = some 0 && anyInFront a ps)

def allStartWith (a : Anchor) : List Pattern → Bool
  | [] => true
  | p :: ps => p.startsWith a && allStartWith a ps

end

mutual

/-- Whether an anchor stands behind all that takes characters. -/
def endsWith (a : Anchor) : Pattern → Bool
  | anchor b => a = b
  | group _ p => p.endsWith a
  | repeated p least _ _ => least ≠ 0 && p.endsWith a
  | sequence ps => lastEndsWith a false ps
  | choice ps => allEndWith a ps
  | _ => false

/-- `found` tells of the parts before. What takes characters takes the place of all before it. -/
def lastEndsWith (a : Anchor) (found : Bool) : List Pattern → Bool
  | [] => found
  | p :: ps => lastEndsWith a (p.endsWith a || (found && p.maxLength = some 0)) ps

def allEndWith (a : Anchor) : List Pattern → Bool
  | [] => true
  | p :: ps => p.endsWith a && allEndWith a ps

end

end Pattern
end SchedLatency
