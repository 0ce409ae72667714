/-! Terminal control sequences, which a stream that is no terminal is spared. Taken out are escape
sequences, control sequences and control strings, and every ASCII control character that is not
white space. White space in an unfinished sequence is text, and so is what follows it up to the next
control character; from there the sequence goes on, unless a character beyond ASCII came between. -/
namespace SchedLatency.Text

namespace ControlSequence

/-- Where a reader of a terminal's input stands. -/
inductive Mode where
  | ground
  | escape
  | escapeMiddle
  | csi
  | dcsEntry
  | dcsParam
  | dcsMiddle
  | osc
  /-- In a string that a string terminator ends. -/
  | string
  deriving DecidableEq, Repr

def isKept (c : Char) : Bool := c == '\t' || c == '\n' || c == '\r' || c.toNat == 0x0C

def isControl (c : Char) : Bool := c.toNat < 0x20

def isMiddle (c : Char) : Bool := 0x20 ≤ c.toNat && c.toNat ≤ 0x2F

def isParam (c : Char) : Bool := 0x30 ≤ c.toNat && c.toNat ≤ 0x3F

def isFinal (c : Char) : Bool := 0x40 ≤ c.toNat && c.toNat ≤ 0x7E

/-- Whether the eight-bit string terminator is among the bytes of a character. -/
def holdsTerminator (c : Char) : Bool := 0x80 ≤ c.toNat && (String.utf8EncodeChar c).contains 0x9C

def afterEscape (c : Char) : Mode :=
  if c == '[' then .csi
  else if c == ']' then .osc
  else if c == 'P' then .dcsEntry
  else if c == 'X' || c == '^' || c == '_' then .string
  else if isMiddle c then .escapeMiddle
  else if isParam c || isFinal c then .ground
  else .escape

/-- The next mode inside a sequence, for characters that do not end it from outside. -/
def within (mode : Mode) (c : Char) : Mode :=
  match mode with
  | .ground => .ground
  | .escape => afterEscape c
  | .escapeMiddle => if isParam c || isFinal c then .ground else .escapeMiddle
  | .csi => if isFinal c then .ground else .csi
  | .dcsEntry =>
    if isMiddle c then .dcsMiddle else if isParam c then .dcsParam
    else if isFinal c then .string else .dcsEntry
  | .dcsParam =>
    if isMiddle c then .dcsMiddle
    else if isFinal c || (isParam c && '<' ≤ c) then .string else .dcsParam
  | .dcsMiddle => if isParam c || isFinal c then .string else .dcsMiddle
  | .osc => if c.toNat = 0x07 then .ground else .osc
  | .string => if holdsTerminator c then .ground else .string

/-- Whether control characters keep their effect in the middle of what the mode stands for. -/
def Mode.executes : Mode → Bool
  | .ground | .escape | .escapeMiddle | .csi => true
  | _ => false

structure State where
  mode : Mode := .ground
  /-- Whether the last character was text. -/
  inText : Bool := false
  deriving DecidableEq, Repr

/-- The state after a character that no text runs up to. -/
def resume (mode : Mode) (c : Char) : State :=
  if c.toNat = 0x1B then ⟨.escape, false⟩
  else if c.toNat = 0x18 ∨ c.toNat = 0x1A then ⟨.ground, false⟩
  else if mode.executes ∧ isControl c then ⟨mode, isKept c⟩
  else if mode = .ground then ⟨.ground, c.toNat ≠ 0x7F⟩
  else ⟨within mode c, false⟩

def step (s : State) (c : Char) : State :=
  if s.inText ∧ 0x80 ≤ c.toNat then ⟨.ground, true⟩
  else if s.inText ∧ (isKept c ∨ (0x20 ≤ c.toNat ∧ c.toNat < 0x7F)) then s
  else resume s.mode c

/-- The state after a text, and what is kept of the text, newest first. -/
def advance (state : State × List Char) (c : Char) : State × List Char :=
  let next := step state.1 c
  (next, if next.inText then c :: state.2 else state.2)

end ControlSequence

def withoutControls (text : List Char) : List Char :=
  (text.foldl ControlSequence.advance ({}, [])).2.reverse

end SchedLatency.Text
