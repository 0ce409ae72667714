import SchedLatency.Text.Casing
import SchedLatency.Text.Numeral

/-! Sets of characters, as the code points where membership changes. Each set has one such form, so
equal sets are equal values, and one walk over the bounds of two sets serves every operation. For
look-up the bounds stand side by side, to be found by halving. Large sets are written out: the code
points of their members in hexadecimal digits, with blanks or ends of lines in between. `5F` is one
code point, `41-5A` are all from one to another, and `100-12E/2` is every second one of them. -/
namespace SchedLatency.Pattern

/-- From below, code points are in the set from the first bound on, not from the second bound on, in
it again from the third bound on, and so forth. -/
structure CharSet where
  bounds : List Nat
  ascending : bounds.Pairwise (· < ·)
  deriving DecidableEq, Repr

namespace CharSet

/-- Whether a code point lies behind an odd number of bounds. -/
def insideAt (n : Nat) (bounds : List Nat) : Bool :=
  bounds.foldr (fun b inside => inside ^^ decide (b ≤ n)) false

def mark (old new : Bool) (n : Nat) (rest : List Nat) : List Nat :=
  if old = new then rest else n :: rest

/-- The bounds of what an operation makes of two sets. The flags tell whether the code points below
all bounds that are left are in the one set and in the other. -/
def combineBounds (op : Bool → Bool → Bool) (inA inB : Bool) : List Nat → List Nat → List Nat
  | [], [] => []
  | a :: as, [] => mark (op inA inB) (op (!inA) inB) a (combineBounds op (!inA) inB as [])
  | [], b :: bs => mark (op inA inB) (op inA (!inB)) b (combineBounds op inA (!inB) [] bs)
  | a :: as, b :: bs =>
    if a < b then mark (op inA inB) (op (!inA) inB) a (combineBounds op (!inA) inB as (b :: bs))
    else if b < a then
      mark (op inA inB) (op inA (!inB)) b (combineBounds op inA (!inB) (a :: as) bs)
    else mark (op inA inB) (op (!inA) (!inB)) a (combineBounds op (!inA) (!inB) as bs)
  termination_by as bs => as.length + bs.length

theorem mem_of_mem_mark {old new : Bool} {m n : Nat} {rest : List Nat}
    (h : m ∈ mark old new n rest) : m = n ∨ m ∈ rest := by
  unfold mark at h
  split at h
  · exact .inr h
  · simpa using h

theorem mem_of_mem_combineBounds {op : Bool → Bool → Bool} {inA inB : Bool} {as bs : List Nat}
    {n : Nat} (h : n ∈ combineBounds op inA inB as bs) : n ∈ as ∨ n ∈ bs := by
  fun_induction combineBounds op inA inB as bs with
  | case1 => simp at h
  | case2 inA inB a as ih => rcases mem_of_mem_mark h with h | h <;> grind
  | case3 inA inB b bs ih => rcases mem_of_mem_mark h with h | h <;> grind
  | case4 inA inB a as b bs _ ih => rcases mem_of_mem_mark h with h | h <;> grind
  | case5 inA inB a as b bs _ _ ih => rcases mem_of_mem_mark h with h | h <;> grind
  | case6 inA inB a as b bs _ _ ih => rcases mem_of_mem_mark h with h | h <;> grind

theorem pairwise_mark {old new : Bool} {n : Nat} {rest : List Nat} (h : ∀ m ∈ rest, n < m)
    (sorted : rest.Pairwise (· < ·)) : (mark old new n rest).Pairwise (· < ·) := by
  unfold mark
  split
  · exact sorted
  · exact List.pairwise_cons.mpr ⟨h, sorted⟩

theorem pairwise_combineBounds (op : Bool → Bool → Bool) (inA inB : Bool) {as bs : List Nat}
    (ha : as.Pairwise (· < ·)) (hb : bs.Pairwise (· < ·)) :
    (combineBounds op inA inB as bs).Pairwise (· < ·) := by
  fun_induction combineBounds op inA inB as bs with
  | case1 => exact .nil
  | case2 inA inB a as ih =>
    have ⟨below, sorted⟩ := List.pairwise_cons.mp ha
    exact pairwise_mark (fun m hm => by have := mem_of_mem_combineBounds hm; grind) (ih sorted hb)
  | case3 inA inB b bs ih =>
    have ⟨below, sorted⟩ := List.pairwise_cons.mp hb
    exact pairwise_mark (fun m hm => by have := mem_of_mem_combineBounds hm; grind) (ih ha sorted)
  | case4 inA inB a as b bs less ih =>
    have ⟨belowA, sorted⟩ := List.pairwise_cons.mp ha
    have ⟨belowB, _⟩ := List.pairwise_cons.mp hb
    exact pairwise_mark (fun m hm => by have := mem_of_mem_combineBounds hm; grind) (ih sorted hb)
  | case5 inA inB a as b bs _ less ih =>
    have ⟨belowA, _⟩ := List.pairwise_cons.mp ha
    have ⟨belowB, sorted⟩ := List.pairwise_cons.mp hb
    exact pairwise_mark (fun m hm => by have := mem_of_mem_combineBounds hm; grind) (ih ha sorted)
  | case6 inA inB a as b bs _ _ ih =>
    have ⟨belowA, sortedA⟩ := List.pairwise_cons.mp ha
    have ⟨belowB, sortedB⟩ := List.pairwise_cons.mp hb
    exact pairwise_mark (fun m hm => by have := mem_of_mem_combineBounds hm; grind)
      (ih sortedA sortedB)

def has (s : CharSet) (n : Nat) : Bool := insideAt n s.bounds

def contains (s : CharSet) (c : Char) : Bool := s.has c.toNat

def combine (op : Bool → Bool → Bool) (a b : CharSet) : CharSet :=
  ⟨combineBounds op false false a.bounds b.bounds,
    pairwise_combineBounds _ _ _ a.ascending b.ascending⟩

def empty : CharSet := ⟨[], .nil⟩

def points (first last : Nat) : CharSet :=
  if h : first ≤ last then ⟨[first, last + 1], List.pairwise_pair.mpr (Nat.lt_succ_of_le h)⟩
  else empty

def range (first last : Char) : CharSet := points first.toNat last.toNat

def single (c : Char) : CharSet := range c c

def all : CharSet := points 0 0x10FFFF

/-- Code points that are no characters. They are in a set if it passes over them, and so holds the
characters on both sides of them. -/
def surrogates : CharSet := points 0xD800 0xDFFF

/-- A set without surrogates that it does not pass over. -/
def settled (s : CharSet) : CharSet :=
  if s.has 0xD7FF && s.has 0xE000 then s else s.combine (fun a b => a && !b) surrogates

def union (a b : CharSet) : CharSet := a.combine (· || ·) b
def common (a b : CharSet) : CharSet := (a.combine (· && ·) b).settled
def without (a b : CharSet) : CharSet := (a.combine (fun a b => a && !b) b).settled
def differing (a b : CharSet) : CharSet := (a.combine (· ^^ ·) b).settled

/-- Whether a set ends in front of the surrogates and begins anew behind them. -/
def parts (s : CharSet) : Bool := s.has 0xD7FF && s.has 0xE000 && !s.has 0xD800

/-- All other characters. Of a set that parts at the surrogates nothing remains between the
characters on both sides, and these two stand for it. -/
def others (s : CharSet) : CharSet :=
  if s.parts then (all.without s).union (points 0xD7FF 0xE000) else all.without s

/-- Neighbours in a list united, which halves its length. -/
def unitePairs : List CharSet → List CharSet
  | a :: b :: rest => a.union b :: unitePairs rest
  | short => short

def unionAll (sets : List CharSet) : CharSet :=
  ((Nat.repeat unitePairs sets.length sets).head?).getD empty

def ofList (cs : List Char) : CharSet := unionAll (cs.map single)

def ofRanges (rs : List (Char × Char)) : CharSet := unionAll (rs.map fun r => range r.1 r.2)

def rangesOf : List Nat → List (Nat × Nat)
  | start :: stop :: rest => (start, stop - 1) :: rangesOf rest
  | _ => []

def ranges (s : CharSet) : List (Nat × Nat) := rangesOf s.bounds

def only? (s : CharSet) : Option Char :=
  match s.ranges with
  | [(first, last)] => if first = last then some (Char.ofNat first) else none
  | _ => none

/-! Classes of ASCII characters. -/

def ascii : CharSet := points 0 0x7F
def digits : CharSet := range '0' '9'
def lower : CharSet := range 'a' 'z'
def upper : CharSet := range 'A' 'Z'
def alpha : CharSet := union lower upper
def alnum : CharSet := union digits alpha
def wordChars : CharSet := union alnum (single '_')
def spaces : CharSet := union (range '\t' '\r') (single ' ')

def classes : List (String × CharSet) := [
  ("alnum", alnum), ("alpha", alpha), ("ascii", ascii),
  ("blank", ofList ['\t', ' ']),
  ("cntrl", union (points 0 0x1F) (points 0x7F 0x7F)),
  ("digit", digits), ("graph", range '!' '~'), ("lower", lower), ("print", range ' ' '~'),
  ("punct", ofRanges [('!', '/'), (':', '@'), ('[', '\x60'), ('\x7b', '~')]),
  ("space", spaces), ("upper", upper), ("word", wordChars),
  ("xdigit", union digits (ofRanges [('A', 'F'), ('a', 'f')]))]

def everyOf (first last stride : Nat) : List CharSet :=
  (List.range ((last - first) / stride + 1)).map fun i =>
    points (first + i * stride) (first + i * stride)

def entry (text : String) : List CharSet :=
  if text.isEmpty then []
  else match (text.splitOn "/").map (·.splitOn "-" |>.map fun part => Text.hexValue part.toList) with
  | [[one]] => [points one one]
  | [[first, last]] => [points first last]
  | [[first, last], [stride]] => everyOf first last stride
  | _ => []

def listed (text : String) : CharSet :=
  unionAll (((text.splitOn "\n").flatMap (·.splitOn " ")).flatMap entry)

end CharSet

structure CharIndex where
  bounds : Array Nat
  deriving DecidableEq, Repr

namespace CharIndex

def ofSet (s : CharSet) : CharIndex := ⟨s.bounds.toArray⟩

/-- How many bounds are not above a code point. All that lie before one place are not, and all from
another place on are. -/
def countFrom (bounds : Array Nat) (n low high : Nat) : Nat :=
  if low < high then
    let middle := (low + high) / 2
    if bounds.getD middle 0 ≤ n then countFrom bounds n (middle + 1) high
    else countFrom bounds n low middle
  else low
  termination_by high - low

def has (s : CharIndex) (n : Nat) : Bool := countFrom s.bounds n 0 s.bounds.size % 2 = 1

def contains (s : CharIndex) (c : Char) : Bool := s.has c.toNat

end CharIndex
end SchedLatency.Pattern
