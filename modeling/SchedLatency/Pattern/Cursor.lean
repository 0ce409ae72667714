import SchedLatency.Pattern.Fault
import SchedLatency.Text.Lines

/-! Reading a pattern character by character, and the flags that tell what its parts mean. -/
namespace SchedLatency.Pattern

structure Flags where
  /-- Characters stand for all that differ from them only in case. -/
  anyCase : Bool := false
  /-- `^` and `$` hold at lines too. -/
  byLine : Bool := false
  /-- A dot stands for the end of a line too. -/
  dotAll : Bool := false
  crlf : Bool := false
  unicode : Bool := true
  spaced : Bool := false
  /-- Repetitions take as little as they can, and take much if they are marked. -/
  short : Bool := false
  deriving DecidableEq, Repr

namespace Flags

def letters : List Char := ['i', 'm', 's', 'U', 'u', 'R', 'x']

def set (f : Flags) (letter : Char) (on : Bool) : Flags :=
  match letter with
  | 'i' => { f with anyCase := on }
  | 'm' => { f with byLine := on }
  | 's' => { f with dotAll := on }
  | 'R' => { f with crlf := on }
  | 'u' => { f with unicode := on }
  | 'x' => { f with spaced := on }
  | 'U' => { f with short := on }
  | _ => f

/-- Letters before a hyphen set flags, letters behind it clear them. -/
def update (f : Flags) (letters : List Char) : Flags :=
  let (on, off) := letters.span (· ≠ '-')
  (off.drop 1).foldl (·.set · false) (on.foldl (·.set · true) f)

end Flags

structure Cursor where
  rest : List Char
  length : Nat
  place : Nat := 0
  /-- Whether white space and comments mean nothing. -/
  spaced : Bool := false
  groups : Nat := 0
  names : List (List Char × Span) := []
  deriving Repr

def Cursor.ofText (text : List Char) : Cursor := { rest := text, length := text.length }

/-- The length of white space and comments in front of a text. A comment ends with its line. -/
def spaceLength (inComment : Bool) : List Char → Nat
  | [] => 0
  | c :: rest =>
    if inComment then spaceLength (c ≠ '\n') rest + 1
    else if Text.isBlank c then spaceLength false rest + 1
    else if c = '#' then spaceLength true rest + 1
    else 0

def Cursor.skip (n : Nat) (c : Cursor) : Cursor :=
  { c with rest := c.rest.drop n, place := c.place + (c.rest.take n).length }

abbrev Reader := StateT Cursor (Except Fault)

namespace Reader

def peek? : Reader (Option Char) := return (← get).rest.head?

def peekSecond? : Reader (Option Char) := return (← get).rest.tail.head?

/-- No part is longer than the whole text. -/
def length : Reader Nat := return (← get).length

def rest : Reader (List Char) := return (← get).rest

def place : Reader Nat := return (← get).place

def spaced : Reader Bool := return (← get).spaced

def skip (n : Nat) : Reader Unit := modify (·.skip n)

def skipSpace : Reader Unit := modify fun c =>
  if c.spaced then c.skip (spaceLength false c.rest) else c

def advance : Reader Unit := do
  skip 1
  skipSpace

def skipText (text : List Char) : Reader Bool := do
  if text.isPrefixOf (← rest) then
    skip text.length
    return true
  else return false

def fail (cause : Cause) (start stop : Nat) : Reader α :=
  throw (.malformed cause ⟨start, stop⟩ none)

def failHere (cause : Cause) : Reader α := do fail cause (← place) ((← place) + 1)

def failAtEnd (cause : Cause) : Reader α := do fail cause (← place) (← place)

def takeUpTo (keep : Char → Bool) : Nat → Reader (List Char)
  | 0 => return []
  | fuel + 1 => do
    match ← peek? with
    | some c =>
      if keep c then
        advance
        return c :: (← takeUpTo keep fuel)
      else return []
    | none => return []

/-- Takes characters as long as they are of a kind, without the space between them. -/
def takeChars (keep : Char → Bool) : Reader (List Char) := do takeUpTo keep (← length)

end Reader
end SchedLatency.Pattern
