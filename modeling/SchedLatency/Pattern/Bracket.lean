import SchedLatency.Pattern.Escape

/-! Sets in brackets: characters, ranges, classes and other brackets side by side, and operators
that join what stands to the left of them to what stands to the right. -/
namespace SchedLatency.Pattern

/-- Each operator is a sign written twice. -/
def SetOperator.ofSign? : Char → Option SetOperator
  | '&' => some common
  | '-' => some without
  | '~' => some differing
  | _ => none

structure OpenBracket where
  opened : Span
  negated : Bool := false
  /-- What stands behind the last operator, the latest first. -/
  items : List SetTree := []
  itemsFrom : Nat
  pending : Option (SetOperator × SetTree) := none

open Reader

namespace OpenBracket

def add (b : OpenBracket) (item : SetTree) : OpenBracket := { b with items := item :: b.items }

def unclosed (b : OpenBracket) : Reader α := fail .bracketOpen b.opened.start b.opened.stop

/-- What all so far makes. Operators are applied from left to right. -/
def value (b : OpenBracket) : SetTree :=
  let last := SetTree.ofItems b.items.reverse b.itemsFrom
  match b.pending with
  | none => last
  | some (op, left) => .operation op left last ⟨left.span.start, last.span.stop⟩

def join (b : OpenBracket) (op : SetOperator) : Reader OpenBracket := do
  return { b with items := [], itemsFrom := ← place, pending := some (op, b.value) }

def plainMember (c : Char) (place : Nat) : SetTree := .member ⟨c, false, ⟨place, place + 1⟩⟩

/-- The hyphens in front stand for themselves. -/
def readHyphens : Nat → OpenBracket → Reader OpenBracket
  | 0, b => return b
  | fuel + 1, b => do
    if (← peek?) ≠ some '-' then return b
    let here ← place
    advance
    if (← peek?).isNone then fail .bracketOpen b.opened.start b.opened.start
    readHyphens fuel (b.add (plainMember '-' here))

/-- Without hyphens in front, a closing bracket there stands for itself. -/
def readClosingItem (b : OpenBracket) : Reader OpenBracket := do
  if !b.items.isEmpty ∨ (← peek?) ≠ some ']' then return b
  let here ← place
  advance
  if (← peek?).isNone then fail .bracketOpen b.opened.start (← place)
  return b.add (plainMember ']' here)

/-- Reads an opening bracket and the items that may stand only behind it. -/
def begin : Reader OpenBracket := do
  let start ← place
  advance
  let negated := (← peek?) = some '^'
  if negated then advance
  if (← peek?).isNone then fail .bracketOpen start (← place)
  let b ← readHyphens (← length) { opened := ⟨start, start⟩, negated, itemsFrom := ← place }
  let b ← readClosingItem b
  return { b with opened := ⟨start, ← place⟩ }

def close (b : OpenBracket) : Reader SetTree := do
  skip 1
  return .bracket b.negated b.value ⟨b.opened.start, ← place⟩

end OpenBracket

/-- Reads a class such as `[:alpha:]`. What is no such class is left in place. -/
def readNamedClass? : Reader (Option SetTree) := do
  let before ← get
  let start ← place
  if !(← skipText ['[', ':']) then return none
  let negated ← skipText ['^']
  let name := (← rest).takeWhile (· ≠ ':')
  skip name.length
  if ← skipText [':', ']'] then
    match CharSet.classes.lookup (String.ofList name) with
    | some set => return some (.named set negated ⟨start, ← place⟩)
    | none => pure ()
  set before
  return none

def readOperator? : Reader (Option SetOperator) := do
  match ← peek? with
  | none => return none
  | some c =>
    if (← peekSecond?) ≠ some c then return none
    match SetOperator.ofSign? c with
    | none => return none
    | some operator =>
      skip 2
      return some operator

/-- Whether the hyphen that comes next is no part of a range, as another hyphen or the closing
bracket follows. Of a comment in between only the sign is passed over. -/
def isHyphenAlone : Reader Bool := do
  let behind := (← rest).drop 1
  let behind :=
    if ← spaced then
      match behind.dropWhile Text.isBlank with
      | '#' :: more => more.dropWhile Text.isBlank
      | more => more
    else behind
  return behind.head? = some ']' || behind.head? = some '-'

def readMember : Reader (Atom × Span) := do
  if (← peek?) = some '\\' then readEscape
  else
    let start ← place
    let c := (← peek?).getD '\\'
    skip 1
    return (.literal c false, ⟨start, ← place⟩)

def memberTree : Atom × Span → Reader SetTree
  | (.literal c byte, span) => return .member ⟨c, byte, span⟩
  | (.letter kind negated, span) => return .letter kind negated span
  | (.property name negated, span) => return .property name negated span
  | (_, span) => fail .bracketEscape span.start span.stop

def rangeBound : Atom × Span → Reader Member
  | (.literal c byte, span) => return ⟨c, byte, span⟩
  | (_, span) => fail .rangeBound span.start span.stop

def readItem (b : OpenBracket) : Reader SetTree := do
  let first ← readMember
  skipSpace
  match ← peek? with
  | none => b.unclosed
  | some c =>
    if c ≠ '-' ∨ (← isHyphenAlone) then memberTree first
    else
      advance
      if (← peek?).isNone then b.unclosed
      let last ← readMember
      let low ← rangeBound first
      let high ← rangeBound last
      if high.char < low.char then fail .rangeOrder low.span.start high.span.stop
      return .range low high

/-- Reads on in brackets that lie in others, up to the end of the outermost. -/
def readItems : Nat → OpenBracket → List OpenBracket → Reader SetTree
  | 0, b, _ => b.unclosed
  | fuel + 1, b, outer => do
    skipSpace
    match ← peek? with
    | none => b.unclosed
    | some ']' =>
      let set ← b.close
      match outer with
      | [] => return set
      | around :: outer => readItems fuel (around.add set) outer
    | some '[' =>
      match ← readNamedClass? with
      | some set => readItems fuel (b.add set) outer
      | none => readItems fuel (← OpenBracket.begin) (b :: outer)
    | some _ =>
      match ← readOperator? with
      | some op => readItems fuel (← b.join op) outer
      | none => readItems fuel (b.add (← readItem b)) outer

def readBracket : Reader SetTree := do
  readItems ((← length) + 1) (← OpenBracket.begin) []

end SchedLatency.Pattern
