import Mathlib.Data.List.Basic
import SchedLatency.Proofs.Splicing

/-! Logs as they may be written. A transcript is a list of samples and banners, with a choice in all
that the format leaves open: leading zeros, white space around the numbers and the endings of lines.
Main statement: `parse_transcript`, every transcript is read back. -/
namespace SchedLatency

open Text

/-- White space within a line. -/
structure Gap where
  chars : List Char
  blank : Blank chars
  single : '\n' ∉ chars

/-- The white space around a sample's numbers, and their leading zeros. -/
structure Layout where
  before : Gap
  beforeNumber : Gap
  afterNumber : Gap
  beforeLatency : Gap
  after : Gap
  threadZeros : Nat
  numberZeros : Nat
  latencyZeros : Nat

def writeNumeral (zeros n : Nat) : List Char := List.replicate zeros '0' ++ Nat.toDigits 10 n

namespace Sample

/-- A sample's line. The first colon follows its number directly. -/
def write (s : Sample) (layout : Layout) : List Char :=
  layout.before.chars ++ writeNumeral layout.threadZeros s.thread ++
    ':' :: (layout.beforeNumber.chars ++ writeNumeral layout.numberZeros s.number ++
        layout.afterNumber.chars ++
      ':' :: (layout.beforeLatency.chars ++ writeNumeral layout.latencyZeros s.latency ++
        layout.after.chars))

structure Words (s : Sample) : Prop where
  thread : s.thread < wordLimit
  number : s.number < wordLimit
  latency : s.latency < wordLimit

end Sample

/-- A line of a transcript: a sample, or a line that does not look like one. -/
inductive Entry where
  | sample (s : Sample) (layout : Layout)
  | banner (line : List Char) (single : '\n' ∉ line) (bare : ¬ DataShaped line)

namespace Entry

def line : Entry → List Char
  | .sample s layout => s.write layout
  | .banner line _ _ => line

def sample? : Entry → Option Sample
  | .sample s _ => some s
  | .banner .. => none

end Entry

inductive Ending where
  | lf
  | crlf

def Ending.chars : Ending → List Char
  | .lf => ['\n']
  | .crlf => ['\r', '\n']

/-- The last line may go without an ending. -/
structure Transcript where
  ended : List (Entry × Ending)
  unended : Option Entry

namespace Transcript

def entries (d : Transcript) : List Entry := d.ended.map Prod.fst ++ d.unended.toList

def samples (d : Transcript) : List Sample := d.entries.filterMap Entry.sample?

def text (d : Transcript) : List Char :=
  (d.ended.flatMap fun (entry, ending) => entry.line ++ ending.chars) ++
    d.unended.toList.flatMap Entry.line

end Transcript

theorem isDigit_of_mem_writeNumeral (member : c ∈ writeNumeral zeros n) : c.isDigit = true := by
  rcases List.mem_append.mp member with zero | digit
  · rw [List.eq_of_mem_replicate zero]
    decide
  · exact Nat.isDigit_of_mem_toDigits (by decide) (by decide) digit

theorem newline_not_mem_writeNumeral (zeros n : Nat) : '\n' ∉ writeNumeral zeros n := by
  intro member
  exact absurd (isDigit_of_mem_writeNumeral member) (by decide)

theorem ofDigitChars_writeNumeral (zeros n : Nat) :
    Nat.ofDigitChars 10 (writeNumeral zeros n) 0 = n := by
  rw [writeNumeral, Nat.ofDigitChars_append, Nat.ofDigitChars_replicate_zero, Nat.mul_zero,
    Nat.ofDigitChars_ten_toDigits]

theorem numeral_writeNumeral (zeros : Nat) (fits : n < wordLimit) : Numeral (writeNumeral zeros n) n where
  nonempty := by simp [writeNumeral, Nat.toDigits_ne_nil]
  ascii _ member := isDigit_of_mem_writeNumeral member
  value := (ofDigitChars_writeNumeral zeros n).symm
  fits := fits

theorem Sample.Words.dataLine {s : Sample} (words : s.Words) (layout : Layout) :
    DataLine (s.write layout) s :=
  .intro layout.before.blank (numeral_writeNumeral _ words.thread)
    layout.beforeNumber.blank (numeral_writeNumeral _ words.number) layout.afterNumber.blank
    layout.beforeLatency.blank (numeral_writeNumeral _ words.latency) layout.after.blank

theorem Entry.newline_not_mem_line (entry : Entry) : '\n' ∉ entry.line := by
  cases entry with
  | banner line single => exact single
  | sample s layout =>
    simp [Entry.line, Sample.write, newline_not_mem_writeNumeral, layout.before.single,
      layout.beforeNumber.single, layout.afterNumber.single, layout.beforeLatency.single,
      layout.after.single]

theorem Entry.readLine_line (entry : Entry) (words : ∀ s, entry.sample? = some s → s.Words) :
    Sample.readLine entry.line = .ok entry.sample? := by
  cases entry with
  | sample s layout => exact Sample.readLine_of_dataLine ((words s rfl).dataLine layout)
  | banner line _ bare => exact Sample.readLine_of_not_dataShaped bare

namespace Transcript

/-- To a lenient reading the lines of the text are the entries. -/
theorem filterMap_lines_text {f : List Char → Option α} (lenient : Lenient f) (d : Transcript) :
    (lines d.text).filterMap f = d.entries.filterMap fun entry => f entry.line := by
  obtain ⟨ended, unended⟩ := d
  simp only [text, entries]
  induction ended with
  | nil =>
    cases unended with
    | none => rfl
    | some entry =>
      have alone := filterMap_lines_unended lenient entry.newline_not_mem_line
      cases read : f entry.line <;> simp [alone, read]
  | cons first more ih =>
    obtain ⟨entry, ending⟩ := first
    have single := entry.newline_not_mem_line
    have step : ∀ rest : List Char, (lines (entry.line ++ ending.chars ++ rest)).filterMap f =
        (f entry.line).toList ++ (lines rest).filterMap f := by
      intro rest
      cases ending with
      | lf => simpa [Ending.chars] using filterMap_lines_ended lenient rest single
      | crlf =>
        -- The carriage return is white space at the end of the entry's line.
        have cut : entry.line ++ ['\r', '\n'] ++ rest = entry.line ++ ['\r'] ++ '\n' :: rest := by simp
        rw [Ending.chars, cut, filterMap_lines_ended lenient rest (by simp [single]),
          lenient.carriageReturn]
    rw [List.flatMap_cons, List.append_assoc, step, ih]
    cases read : f entry.line <;> simp [read]

end Transcript

/-- Samples with threads that exist are read back in their order, each into its thread's bucket, and
nothing is refused. -/
theorem parse_transcript (d : Transcript) (n : Nat)
    (fits : ∀ s ∈ d.samples, s.thread < n ∧ s.Words) :
    (Log.parse (String.ofList d.text) n).rejected = 0 ∧
      (Log.parse (String.ofList d.text) n).latencies =
        (List.range n).map fun t => latenciesOf t d.samples := by
  have read : ∀ entry ∈ d.entries, Sample.readLine entry.line = .ok entry.sample? := by
    intro entry member
    apply entry.readLine_line
    intro s found
    exact (fits s (List.mem_filterMap.mpr ⟨entry, member, found⟩)).2
  have samples : (lines d.text).filterMap sampleOn = d.samples := by
    rw [d.filterMap_lines_text sampleOn_lenient]
    apply List.filterMap_congr
    intro entry member
    rw [sampleOn_eq, read entry member]
    rfl
  have faults : (lines d.text).filterMap (faultOn n) = [] := by
    rw [d.filterMap_lines_text (faultOn_lenient n)]
    apply List.filterMap_eq_nil_iff.mpr
    intro entry member
    rw [faultOn_eq, read entry member]
    cases found : entry.sample? with
    | none => rfl
    | some s => simp [(fits s (List.mem_filterMap.mpr ⟨entry, member, found⟩)).1]
  constructor
  · rw [← Log.length_faults, Log.faults_parse, String.toList_ofList, faults, List.length_nil]
  · rw [Log.latencies_eq, Log.threads_parse]
    apply List.map_congr_left
    intro t member
    rw [Log.thread_parse _ (List.mem_range.mp member), String.toList_ofList, samples]

/-- The largest latency with leading zeros, a carriage return among the white space, and a banner
without an ending. -/
def sparseTranscript : Transcript where
  ended := [
    (.sample ⟨1, 0, 18446744073709551615⟩ {
      before := ⟨['\t'], by decide, by decide⟩
      beforeNumber := ⟨['\u00A0'], by decide, by decide⟩
      afterNumber := ⟨[' '], by decide, by decide⟩
      beforeLatency := ⟨[], by decide, by decide⟩
      after := ⟨[' ', '\r'], by decide, by decide⟩
      threadZeros := 2
      numberZeros := 0
      latencyZeros := 3 }, .lf),
    (.banner ['#', ' ', '0', ':'] (by decide) (by decide), .crlf)]
  unended := some (.banner [] (by decide) (by decide))

theorem parse_sparseTranscript :
    (∀ s ∈ sparseTranscript.samples, s.thread < 2 ∧ s.Words) ∧
      (Log.parse (String.ofList sparseTranscript.text) 2).rejected = 0 ∧
      (Log.parse (String.ofList sparseTranscript.text) 2).latencies = [[], [18446744073709551615]] := by
  have fits : ∀ s ∈ sparseTranscript.samples, s.thread < 2 ∧ s.Words := by
    intro s member
    obtain rfl := List.mem_singleton.mp member
    exact ⟨by decide, by decide, by decide, by decide⟩
  exact ⟨fits, parse_transcript sparseTranscript 2 fits⟩

end SchedLatency
