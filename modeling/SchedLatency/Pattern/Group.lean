import SchedLatency.Pattern.Cursor
import SchedLatency.Pattern.Tree
import SchedLatency.Text.Alphabetic

/-! Counted repetitions, `{2}`, `{2,}` and `{2,5}`, and what stands behind an opening parenthesis: a
name, flags, or nothing. -/
namespace SchedLatency.Pattern

def countLimit : Nat := 0x100000000

open Reader

def skipBlanks : Reader Unit := do skip ((← rest).takeWhile Text.isBlank).length

/-- A decimal number, with blanks around it. A fault in it is not raised at once, as a fault in what
follows goes before it. -/
def readDecimal : Reader (Except Fault Nat) := do
  skipBlanks
  let start ← place
  let digits ← takeChars Char.isDigit
  let span : Span := ⟨start, ← place⟩
  skipBlanks
  if digits.isEmpty then return .error (.malformed .countEmpty span none)
  let n := Nat.ofDigitChars 10 digits 0
  return if n < countLimit then .ok n else .error (.malformed .countInvalid span none)

/-- A question mark behind a repetition asks for short matches where long ones are usual. -/
def readMark : Reader Bool := skipText ['?']

/-- Finds fault with braces that end with the text. -/
def checkCountGoesOn (start : Nat) : Reader Unit := do
  if (← peek?).isNone then fail .countOpen start (← place)

def readBounds (start : Nat) : Reader Count := do
  checkCountGoesOn start
  let least ← readDecimal
  checkCountGoesOn start
  if (← peek?) ≠ some ',' then
    let least ← least
    return ⟨least, some least⟩
  advance
  checkCountGoesOn start
  let least ← least
  if (← peek?) = some '\x7d' then return ⟨least, none⟩
  return ⟨least, some (← (← readDecimal))⟩

def readCount : Reader (Count × Bool) := do
  let start ← place
  advance
  let count ← readBounds start
  if (← peek?) ≠ some '\x7d' then fail .countOpen start (← place)
  advance
  let marked ← readMark
  if count.most.any (· < count.least) then fail .countOrder start (← place)
  return (count, marked)

inductive Opening where
  | group (kind : GroupKind)
  | setting (letters : List Char)
  deriving DecidableEq, Repr

def isNameChar (atStart : Bool) (c : Char) : Bool :=
  c = '_' || Text.isAlphabetic c ||
    !atStart && (['.', '[', ']'].contains c || [.nd, .nl, .no].contains (Text.category c))

def readNameChars : Nat → Bool → Reader (List Char)
  | 0, _ => return []
  | fuel + 1, atStart => do
    match ← peek? with
    | none => failAtEnd .nameEnd
    | some '>' => return []
    | some c =>
      if !isNameChar atStart c then failHere .nameChar
      skip 1
      return c :: (← readNameChars fuel false)

/-- Reads the name of a group up to the closing angle bracket. No two groups have one name. -/
def readName : Reader Unit := do
  let start ← place
  let name ← readNameChars ((← length) + 1) true
  let span : Span := ⟨start, ← place⟩
  skip 1
  if name.isEmpty then fail .nameEmpty start start
  match (← get).names.lookup name with
  | some first => throw (.malformed .nameRepeated span (some first))
  | none => modify fun c => { c with names := (name, span) :: c.names }

/-- Reads flags up to a colon or the closing parenthesis; `seen` are those so far with their places,
the latest first. -/
def readFlags : Nat → List (Char × Nat) → Reader (List (Char × Nat))
  | 0, seen => return seen
  | fuel + 1, seen => do
    match ← peek? with
    | none => failAtEnd .flagEnd
    | some c =>
      if c = ':' ∨ c = ')' then return seen
      if c ≠ '-' ∧ c ∉ Flags.letters then failHere .flagUnknown
      let here ← place
      match seen.lookup c with
      | some first =>
        let cause := if c = '-' then .negationRepeated else .flagRepeated
        throw (.malformed cause ⟨here, here + 1⟩ (some ⟨first, first + 1⟩))
      | none =>
        skip 1
        readFlags fuel ((c, here) :: seen)

/-- Reads flags and what ends them, behind the question mark at a place. -/
def readFlagGroup (mark : Nat) : Reader Opening := do
  let seen ← readFlags ((← length) + 1) []
  match seen with
  | ('-', last) :: _ => fail .flagDangling last (last + 1)
  | _ =>
    let letters := seen.reverse.map Prod.fst
    if ← skipText [':'] then return .group (.plain letters)
    skip 1
    if seen.isEmpty then fail .nothingToRepeat mark mark
    return .setting letters

def nextNumber : Reader GroupKind := do
  let n := (← get).groups + 1
  modify fun c => { c with groups := n }
  return .numbered n

/-- Signs of conditions on the text around, which patterns cannot state. -/
def lookAroundSigns : List (List Char) := [['?', '='], ['?', '!'], ['?', '<', '='], ['?', '<', '!']]

def readOpening : Reader Opening := do
  let start ← place
  skip 1
  skipSpace
  let mark ← place
  let inside ← rest
  match lookAroundSigns.find? (·.isPrefixOf inside) with
  | some sign => fail .lookAround start (mark + sign.length)
  | none => pure ()
  let named ← if ← skipText ['?', 'P', '<'] then pure true else skipText ['?', '<']
  if named then
    readName
    return .group (← nextNumber)
  if !(← skipText ['?']) then return .group (← nextNumber)
  if (← peek?).isNone then fail .groupOpen start (start + 1)
  readFlagGroup mark

end SchedLatency.Pattern
