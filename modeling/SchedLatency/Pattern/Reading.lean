import SchedLatency.Pattern.Bracket
import SchedLatency.Pattern.Group

/-! Reading the parts of a pattern. Branches stand between bars, the parts of each follow one
another, and what repeats follows the part that it repeats. -/
namespace SchedLatency.Pattern

/-- A group as far as it has been read, the latest first. -/
structure Draft where
  start : Nat
  branches : List Tree := []
  branchStart : Nat
  parts : List (Tree × Span) := []

namespace Draft

def startingAt (place : Nat) : Draft := { start := place, branchStart := place }

def push (d : Draft) (part : Tree) (span : Span) : Draft :=
  { d with parts := (part, span) :: d.parts }

def branch (d : Draft) (stop : Nat) : Tree :=
  .ofParts (d.parts.reverse.map Prod.fst) ⟨d.branchStart, stop⟩

/-- Ends a branch at a bar, behind which the next one begins. -/
def split (d : Draft) (bar : Nat) : Draft :=
  { start := d.start, branches := d.branch bar :: d.branches, branchStart := bar + 1 }

def value (d : Draft) (stop : Nat) : Tree :=
  .ofBranches (d.branch stop :: d.branches).reverse ⟨d.start, stop⟩

end Draft

structure OpenGroup where
  opened : Nat
  kind : GroupKind
  /-- Whether white space means nothing outside. -/
  spaced : Bool
  /-- What the group around holds in front of this one. -/
  before : Draft

open Reader

/-- Heeds the letters of flags that tell whether white space means nothing. -/
def setSpaced (letters : List Char) : Reader Unit := modify fun c =>
  { c with spaced := (({ spaced := c.spaced } : Flags).update letters).spaced }

def readAtom (c : Char) : Reader (Atom × Span) := do
  if c = '\\' then readEscape
  else
    let start ← place
    skip 1
    let atom : Atom := match c with
      | '.' => .dot
      | '^' => .start
      | '$' => .stop
      | _ => .literal c false
    return (atom, ⟨start, start + 1⟩)

def readRepetition (c : Char) : Reader (Count × Bool) := do
  if c = '\x7b' then readCount
  else
    skip 1
    let count : Count := if c = '?' then ⟨0, some 1⟩ else if c = '*' then ⟨0, none⟩ else ⟨1, none⟩
    return (count, ← readMark)

/-- Repeats the last part of a branch. Nothing and flags cannot be repeated. -/
def repeatLast (d : Draft) (c : Char) : Reader Draft := do
  match d.parts with
  | [] => failAtEnd .nothingToRepeat
  | (.setting _, _) :: _ => failAtEnd .nothingToRepeat
  | (part, span) :: before =>
    let (count, marked) ← readRepetition c
    let span : Span := ⟨span.start, ← place⟩
    return { d with parts := (.repeated part count marked span, span) :: before }

/-- Reads on in groups that lie in others, up to the end of the text. -/
def readParts : Nat → Draft → List OpenGroup → Reader Tree
  | 0, d, _ => return d.value (← place)
  | fuel + 1, d, outer => do
    skipSpace
    let here ← place
    match ← peek? with
    | none =>
      match outer with
      | [] => return d.value here
      | g :: _ => fail .groupOpen g.opened (g.opened + 1)
    | some '(' =>
      match ← readOpening with
      | .setting letters =>
        setSpaced letters
        readParts fuel (d.push (.setting letters) ⟨here, ← place⟩) outer
      | .group kind =>
        let g : OpenGroup := { opened := here, kind, spaced := ← spaced, before := d }
        match kind with
        | .plain letters => setSpaced letters
        | .numbered _ => pure ()
        readParts fuel (.startingAt (← place)) (g :: outer)
    | some ')' =>
      match outer with
      | [] => failHere .groupUnopened
      | g :: outer =>
        skip 1
        modify fun c => { c with spaced := g.spaced }
        let span : Span := ⟨g.opened, here + 1⟩
        readParts fuel (g.before.push (.group g.kind (d.value here) span) span) outer
    | some '|' =>
      skip 1
      readParts fuel (d.split here) outer
    | some '[' =>
      let set ← readBracket
      readParts fuel (d.push (.bracket set) set.span) outer
    | some c =>
      if ['?', '*', '+', '\x7b'].contains c then readParts fuel (← repeatLast d c) outer
      else
        let (atom, span) ← readAtom c
        readParts fuel (d.push (.atom atom span) span) outer

def readTree (text : List Char) : Except Fault Tree :=
  ((readParts (text.length + 1) (.startingAt 0) []).run' (.ofText text))

end SchedLatency.Pattern
