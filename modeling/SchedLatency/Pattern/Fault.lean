import SchedLatency.Text.Lines

/-! Why a text is no pattern. A report shows the text with carets below the part at fault. -/
namespace SchedLatency.Pattern

/-- A part of a text, by the places of its first character and of the character behind it. -/
structure Span where
  start : Nat
  stop : Nat
  deriving DecidableEq, Repr

inductive Cause where
  | backreference
  | boundaryEnd
  | boundaryOpen
  | boundaryUnknown
  | bracketEscape
  | bracketOpen
  | countEmpty
  | countInvalid
  | countOpen
  | countOrder
  | escapeEnd
  | escapeUnknown
  | flagDangling
  | flagEnd
  | flagRepeated
  | flagUnknown
  | groupOpen
  | groupUnopened
  | hexDigit
  | hexEmpty
  | hexInvalid
  | invalidUtf8
  | lookAround
  | nameChar
  | nameEmpty
  | nameEnd
  | nameRepeated
  | negationRepeated
  | nothingToRepeat
  | propertyInvalid
  | propertyUnknown
  | propertyValueUnknown
  | rangeBound
  | rangeOrder
  | tooDeep
  | unicodeNotAllowed
  deriving DecidableEq, Repr

/-- Parts of a pattern lie in each other at most this deep. -/
def depthLimit : Nat := 250

def Cause.text : Cause → String
  | backreference => "backreferences are not supported"
  | boundaryEnd => "found either the beginning of a special word boundary or a bounded " ++
      "repetition on a \\b with an opening brace, but no closing brace"
  | boundaryOpen =>
    "special word boundary assertion is either unclosed or contains an invalid character"
  | boundaryUnknown => "unrecognized special word boundary assertion, valid choices are: " ++
      "start, end, start-half or end-half"
  | bracketEscape => "invalid escape sequence found in character class"
  | bracketOpen => "unclosed character class"
  | countEmpty => "repetition quantifier expects a valid decimal"
  | countInvalid => "decimal literal invalid"
  | countOpen => "unclosed counted repetition"
  | countOrder => "invalid repetition count range, the start must be <= the end"
  | escapeEnd => "incomplete escape sequence, reached end of pattern prematurely"
  | escapeUnknown => "unrecognized escape sequence"
  | flagDangling => "dangling flag negation operator"
  | flagEnd => "expected flag but got end of regex"
  | flagRepeated => "duplicate flag"
  | flagUnknown => "unrecognized flag"
  | groupOpen => "unclosed group"
  | groupUnopened => "unopened group"
  | hexDigit => "invalid hexadecimal digit"
  | hexEmpty => "hexadecimal literal empty"
  | hexInvalid => "hexadecimal literal is not a Unicode scalar value"
  | invalidUtf8 => "pattern can match invalid UTF-8"
  | lookAround => "look-around, including look-ahead and look-behind, is not supported"
  | nameChar => "invalid capture group character"
  | nameEmpty => "empty capture group name"
  | nameEnd => "unclosed capture group name"
  | nameRepeated => "duplicate capture group name"
  | negationRepeated => "flag negation operator repeated"
  | nothingToRepeat => "repetition operator missing expression"
  | propertyInvalid => "invalid Unicode character class"
  | propertyUnknown => "Unicode property not found"
  | propertyValueUnknown => "Unicode property value not found"
  | rangeBound => "invalid range boundary, must be a literal"
  | rangeOrder => "invalid character class range, the start must be <= the end"
  | tooDeep => s!"exceed the maximum number of nested parentheses/brackets ({depthLimit})"
  | unicodeNotAllowed => "Unicode not allowed here"

inductive Fault where
  /-- A fault in a part of the text; `first` is the earlier part that it is in conflict with. -/
  | malformed (cause : Cause) (span : Span) (first : Option Span)
  | tooLarge
  deriving DecidableEq, Repr

def sizeLimit : Nat := 10485760

/-- The line and the column of a place, both counted from zero. -/
def position (text : List Char) (place : Nat) : Nat × Nat :=
  let before := text.take place
  ((before.filter (· = '\n')).length, (before.reverse.takeWhile (· ≠ '\n')).length)

/-- Carets below columns, from one column on. An empty part gets one caret. -/
def carets (column : Nat) : List (Nat × Nat) → List Char
  | [] => []
  | (start, stop) :: more =>
    let width := max 1 (stop - start)
    List.replicate (start - column) ' ' ++ List.replicate width '^' ++
      carets (max column start + width) more

abbrev Extent := (Nat × Nat) × (Nat × Nat)

def Span.extent (text : List Char) (s : Span) : Extent :=
  (position text s.start, position text s.stop)

def columnsIn (line : Nat) (parts : List Extent) : List (Nat × Nat) :=
  parts.filterMap fun (first, last) =>
    if first.1 = line ∧ last.1 = line then some (first.2, last.2) else none

/-- The text line by line, after what `margin` puts in front, with carets below. -/
def annotated (text : List Char) (parts : List Extent) (margin : Nat → List Char) : List Char :=
  (Text.lines text).zipIdx.flatMap fun (line, i) =>
    let columns := columnsIn i parts
    margin i ++ line ++ ['\n'] ++
      if columns.isEmpty then []
      else List.replicate (margin i).length ' ' ++ carets 0 columns ++ ['\n']

/-- Where the parts that span several lines begin and end. -/
def acrossLines (parts : List Extent) : List String :=
  parts.filterMap fun (first, last) =>
    if first.1 = last.1 then none
    else some (s!"on line {first.1 + 1} (column {first.2 + 1}) " ++
      s!"through line {last.1 + 1} (column {last.2})")

/-- Several lines are numbered, and set off by dividers. -/
def showParts (text : List Char) (spans : List Span) : String :=
  let parts := spans.map (·.extent text)
  if text.contains '\n' then
    let count := (position text text.length).1 + 1
    let width := (toString count).length
    let margin := fun i =>
      let number := toString (i + 1)
      List.replicate (width - number.length) ' ' ++ number.toList ++ [':', ' ']
    let divider := String.ofList (List.replicate 79 '~') ++ "\n"
    divider ++ String.ofList (annotated text parts margin) ++ divider ++
      String.join ((acrossLines parts).map (· ++ "\n"))
  else String.ofList (annotated text parts fun _ => List.replicate 4 ' ')

def Fault.text (pattern : List Char) : Fault → String
  | malformed cause span first =>
    "regex parse error:\n" ++ showParts pattern (first.toList ++ [span]) ++ "error: " ++ cause.text
  | tooLarge => s!"Compiled regex exceeds size limit of {sizeLimit} bytes."

end SchedLatency.Pattern
