import SchedLatency.Pattern.Cursor
import SchedLatency.Pattern.Tree
import SchedLatency.Text.Numeral

/-! What stands behind a backslash. -/
namespace SchedLatency.Pattern

/-- Whether a backslash leaves a character as it is. Letters and digits have or may get a meaning
behind a backslash, and so may angle brackets. -/
def isPlainBehindBackslash (c : Char) : Bool :=
  c.toNat < 0x80 && !c.isAlphanum && c ≠ '<' && c ≠ '>'

def controls : List (Char × Nat) :=
  [('a', 0x07), ('f', 0x0C), ('t', 0x09), ('n', 0x0A), ('r', 0x0D), ('v', 0x0B)]

open Reader
open Text (isHex hexValue)

def hexChar (digits : List Char) (span : Span) : Reader Char :=
  if (hexValue digits).isValidChar then return Char.ofNat (hexValue digits)
  else fail .hexInvalid span.start span.stop

def readHexDigits : Nat → Reader (List Char)
  | 0 => return []
  | n + 1 => do
    match ← peek? with
    | none => failAtEnd .escapeEnd
    | some c =>
      if isHex c then
        advance
        return c :: (← readHexDigits n)
      else failHere .hexDigit

def hexLength (kind : Char) : Nat := if kind = 'x' then 2 else if kind = 'u' then 4 else 8

/-- A code point after its letter: as many digits as the letter asks for, or any number of them in
braces. -/
def readHex (kind : Char) : Reader Atom := do
  advance
  let start ← place
  if (← peek?) = some '\x7b' then
    advance
    let digits ← takeChars isHex
    match ← peek? with
    | none => fail .escapeEnd start (← place)
    | some '\x7d' =>
      let stop ← place
      advance
      if digits.isEmpty then fail .hexEmpty start (← place)
      return .literal (← hexChar digits ⟨start + 1, stop⟩) false
    | some _ => failHere .hexDigit
  else
    let digits ← readHexDigits (hexLength kind)
    return .literal (← hexChar digits ⟨start, ← place⟩) (kind = 'x')

/-- The name of a property: one character, or any text in braces. -/
def readPropertyName : Reader (List Char) := do
  advance
  match ← peek? with
  | none => failAtEnd .escapeEnd
  | some '\x7b' =>
    advance
    let name ← takeChars (· ≠ '\x7d')
    if (← peek?).isNone then failAtEnd .escapeEnd
    skip 1
    return name
  | some '\\' => failHere .propertyInvalid
  | some c =>
    advance
    return [c]

def readProperty (negated : Bool) : Reader Atom := do return .property (← readPropertyName) negated

def letterClasses : List (Char × LetterClass) := [('d', .digit), ('s', .space), ('w', .word)]

def edges : List (String × WordEdge) :=
  [("start", .start), ("end", .stop), ("start-half", .startHalf), ("end-half", .stopHalf)]

def isEdgeChar (c : Char) : Bool := c.isAlpha || c = '-'

/-- A word boundary, of which a kind may be named in braces. Other braces are left for a count. -/
def readEdge (start : Nat) : Reader WordEdge := do
  if (← peek?) ≠ some '\x7b' then return .edge
  let before ← get
  let opening ← place
  advance
  match ← peek? with
  | none => fail .boundaryEnd start (← place)
  | some c =>
    if !isEdgeChar c then
      set before
      return .edge
    let first ← place
    let name ← takeChars isEdgeChar
    if (← peek?) ≠ some '\x7d' then fail .boundaryOpen opening (← place)
    let stop ← place
    skip 1
    match edges.lookup (String.ofList name) with
    | some kind => return kind
    | none => fail .boundaryUnknown first stop

def readLetter (start : Nat) (c : Char) : Reader Atom := do
  skip 1
  if isPlainBehindBackslash c then return .literal c false
  match controls.lookup c with
  | some n => return .literal (Char.ofNat n) false
  | none =>
    match c with
    | 'A' => return .anchor .textStart
    | 'z' => return .anchor .textEnd
    | 'b' => return .edge (← readEdge start)
    | 'B' => return .edge .noEdge
    | '<' => return .edge .start
    | '>' => return .edge .stop
    | _ => fail .escapeUnknown start (← place)

def readEscape : Reader (Atom × Span) := do
  let start ← place
  skip 1
  let atom ← match ← peek? with
    | none => fail .escapeEnd start (← place)
    | some c =>
      if c.isDigit then fail .backreference start ((← place) + 1)
      else if c = 'x' ∨ c = 'u' ∨ c = 'U' then readHex c
      else if c = 'p' ∨ c = 'P' then readProperty (c = 'P')
      else
        match letterClasses.lookup c.toLower with
        | some kind =>
          skip 1
          pure (.letter kind c.isUpper)
        | none => readLetter start c
  return (atom, ⟨start, ← place⟩)

end SchedLatency.Pattern
