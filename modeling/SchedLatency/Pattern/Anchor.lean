import SchedLatency.Pattern.CharSet
import SchedLatency.Pattern.Unicode.Letter

/-! Places in a text, told by the characters before and after them. -/
namespace SchedLatency.Pattern

inductive WordEdge where
  | edge
  | noEdge
  | start
  | stop
  /-- No word goes on to the left. -/
  | startHalf
  /-- No word goes on to the right. -/
  | stopHalf
  deriving DecidableEq, Repr

inductive Anchor where
  | textStart
  | textEnd
  /-- With `crlf`, a carriage return ends a line too, and the two together end one line. -/
  | lineStart (crlf : Bool)
  | lineEnd (crlf : Bool)
  | word (side : WordEdge) (unicode : Bool)
  deriving DecidableEq, Repr

def WordEdge.holds (before after : Bool) : WordEdge → Bool
  | edge => before != after
  | noEdge => before == after
  | start => !before && after
  | stop => before && !after
  | startHalf => !before
  | stopHalf => !after

def wordIndex : CharIndex := .ofSet Unicode.word

def isWord (unicode : Bool) (c : Char) : Bool :=
  if unicode then wordIndex.contains c else CharSet.wordChars.contains c

def Anchor.holds (before after : Option Char) : Anchor → Bool
  | textStart => before.isNone
  | textEnd => after.isNone
  | lineStart crlf => before.isNone || before == some '\n' ||
      (crlf && before == some '\r' && after != some '\n')
  | lineEnd false => after.isNone || after == some '\n'
  | lineEnd true =>
    after.isNone || after == some '\r' || (after == some '\n' && before != some '\r')
  | word side unicode => side.holds (before.any (isWord unicode)) (after.any (isWord unicode))

end SchedLatency.Pattern
