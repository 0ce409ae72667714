import SchedLatency.Error
import SchedLatency.Text.Lines
import SchedLatency.Text.Numeral

/-! One line of the probe's log. A data line reads `thread: number: latency`; a line that starts
with a decimal number and a colon claims to be one and is a fault if it is not. Every other line is
a banner and holds no sample. -/
namespace SchedLatency

structure Sample where
  thread : Nat
  number : Nat
  latency : Nat
  deriving DecidableEq, Repr

inductive LineFault where
  | fieldCount (found : Nat)
  | notNumber (field : String)
  | badNumeral (field : String) (fault : Text.NumeralFault)
  | noSuchThread (thread threads : Nat)
  deriving DecidableEq, Repr

def LineFault.reason : LineFault → String
  | .fieldCount found => s!"expected 3 fields, found {found}"
  | .notNumber field => s!"{Text.quote field} is not an unsigned integer"
  | .badNumeral field fault => s!"{Text.quote field} is not an unsigned integer: {fault.text}"
  | .noSuchThread thread threads => s!"thread id {thread} outside 0..{threads}"

namespace Sample

/-- White space, decimal digits of any script, at least one, and a colon. -/
def startsData (line : List Char) : Bool :=
  let body := Text.trimStart line
  !(body.takeWhile Text.isDecimalDigit).isEmpty &&
    (body.dropWhile Text.isDecimalDigit).head? == some ':'

/-- Puts a character in front of the first field, or closes that field with a colon. -/
def cutField (c : Char) : List (List Char) → List (List Char)
  | [] => [[c]]
  | field :: more => if c = ':' then [] :: field :: more else (c :: field) :: more

/-- The texts between colons; there is always one. -/
def fields (line : List Char) : List (List Char) := line.foldr cutField [[]]

/-- A field holds ASCII digits only, so that no sign and no other script passes. -/
def readField (field : List Char) : Except LineFault Nat :=
  if field.isEmpty || !field.all Char.isDigit then .error (.notNumber (String.ofList field))
  else (Text.readNumeral field).mapError (.badNumeral (String.ofList field))

/-- The sample of a data line. Of several faults the leftmost is reported. -/
def readData (line : List Char) : Except LineFault Sample :=
  match (fields line).map Text.trim with
  | [thread, number, latency] => do
    return ⟨← readField thread, ← readField number, ← readField latency⟩
  | found => .error (.fieldCount found.length)

/-- Banners give no sample and no fault. -/
def readLine (line : List Char) : Except LineFault (Option Sample) :=
  if startsData line then some <$> readData line else .ok none

theorem readLine_of_not_startsData {line : List Char} (h : startsData line = false) :
    readLine line = .ok none := by
  simp [readLine, h]

theorem readLine_of_startsData {line : List Char} (h : startsData line = true) :
    readLine line = some <$> readData line := by
  simp [readLine, h]

end Sample
end SchedLatency
