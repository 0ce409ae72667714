import SchedLatency.Proofs.Accounting
import SchedLatency.Proofs.LineLanguage
import SchedLatency.Proofs.LossyReading

/-! Logs put together at a line feed. A text cut at a line feed has the lines of both parts, but for
an empty line more or a carriage return less at the cut, and neither counts to the reader of a log.
Main statement: `parse_splice`. -/
namespace SchedLatency

namespace Text

/-- Nothing is made of an empty line, or of a carriage return at the end of one. -/
structure Lenient (f : List Char → Option α) : Prop where
  empty : f [] = none
  carriageReturn : ∀ line, f (line ++ ['\r']) = f line

section Lenient
variable {f : List Char → Option α} (lenient : Lenient f)
include lenient

theorem filterMap_lines_unended (single : '\n' ∉ line) :
    (lines line).filterMap f = (f line).toList := by
  cases line with
  | nil => simp [lenient.empty]
  | cons c line =>
    rw [(Lined.unended (by simp) single).lines_eq]
    cases h : f (c :: line) <;> simp [h]

theorem filterMap_lines_ended (rest : List Char) (single : '\n' ∉ line) :
    (lines (line ++ '\n' :: rest)).filterMap f =
      (f line).toList ++ (lines rest).filterMap f := by
  by_cases last : line.getLast? = some '\r'
  · obtain ⟨front, rfl⟩ := List.getLast?_eq_some_iff.mp last
    have cut : Lined (front ++ ['\r'] ++ '\n' :: rest) (front :: lines rest) := by
      simpa using Lined.crlf (by simp_all) (lined_lines rest)
    rw [cut.lines_eq, lenient.carriageReturn]
    cases h : f front <;> simp [h]
  · rw [(Lined.lf single last (lined_lines rest)).lines_eq]
    cases h : f line <;> simp [h]

/-- The lines on both sides of a line feed are read as if they stood alone. -/
theorem filterMap_lines_splice (s t : List Char) :
    (lines (s ++ '\n' :: t)).filterMap f = (lines s).filterMap f ++ (lines t).filterMap f := by
  -- By the lines of the first text. A carriage return that is no part of an ending there may become
  -- one here, and one before a line feed may be given back to its line.
  have lined := lined_lines s
  generalize lines s = ls at lined
  induction lined with
  | empty =>
    rw [List.nil_append, ← List.nil_append ('\n' :: t), filterMap_lines_ended lenient t (by simp)]
    simp [lenient.empty]
  | unended nonempty single =>
    rw [filterMap_lines_ended lenient t single, ← filterMap_lines_unended lenient single,
      (Lined.unended nonempty single).lines_eq]
  | @lf line rest more single last lined ih =>
    have same : line ++ '\n' :: rest ++ '\n' :: t = line ++ '\n' :: (rest ++ '\n' :: t) := by simp
    rw [same, filterMap_lines_ended lenient _ single, ih]
    cases h : f line <;> simp [h]
  | @crlf line rest more single lined ih =>
    have same : line ++ '\r' :: '\n' :: rest ++ '\n' :: t =
        line ++ ['\r'] ++ '\n' :: (rest ++ '\n' :: t) := by simp
    rw [same, filterMap_lines_ended lenient _ (by simp [single]), lenient.carriageReturn, ih]
    cases h : f line <;> simp [h]

end Lenient
end Text

open Text

def sampleOn (line : List Char) : Option Sample := sample? (String.ofList line)

/-- What is wrong with a line that a log with this many threads refuses. -/
def faultOn (n : Nat) (line : List Char) : Option LineFault :=
  (refusal? n (String.ofList line)).map Reject.fault

theorem sampleOn_eq (line : List Char) : sampleOn line = (Sample.readLine line).toOption.join := by
  cases read : Sample.readLine line <;> simp [sampleOn, sample?, readLine, read, Except.toOption]

theorem faultOn_eq (n : Nat) (line : List Char) :
    faultOn n line = match Sample.readLine line with
      | .ok none => none
      | .ok (some s) => if s.thread < n then none else some (.noSuchThread s.thread n)
      | .error fault => some fault := by
  match read : Sample.readLine line with
  | .ok none => simp [faultOn, refusal?, readLine, read]
  | .ok (some s) =>
    by_cases inside : s.thread < n <;> simp [faultOn, refusal?, readLine, read, inside]
  | .error fault => simp [faultOn, refusal?, readLine, read]

theorem readLine_append_carriageReturn (line : List Char) :
    Sample.readLine (line ++ ['\r']) = Sample.readLine line := by
  apply Sample.readLine_append_blank
  intro c member
  rw [List.mem_singleton.mp member]
  decide

theorem sampleOn_lenient : Lenient sampleOn where
  empty := rfl
  carriageReturn line := by rw [sampleOn_eq, sampleOn_eq, readLine_append_carriageReturn]

theorem faultOn_lenient (n : Nat) : Lenient (faultOn n) where
  empty := rfl
  carriageReturn line := by rw [faultOn_eq, faultOn_eq, readLine_append_carriageReturn]

namespace Log

def faults (log : Log) : List LineFault := log.rejects.toList.map Reject.fault

@[simp] theorem length_faults (log : Log) : log.faults.length = log.rejected := by
  simp [faults, rejected]

theorem accounts_parse (text : String) (n : Nat) :
    Accounts (parse text n) n ((lines text.toList).map String.ofList) := by
  have accounts := foldl_record_accounts (empty n) n [] ((lines text.toList).map String.ofList)
    (empty_accounts n)
  rwa [List.nil_append] at accounts

theorem thread_of_le (log : Log) (outside : log.threads ≤ t) : log.thread t = [] := by
  have missing : log.buckets[t]? = none := Array.getElem?_eq_none outside
  simp [thread, missing]

theorem thread_parse (text : String) (inside : t < n) :
    (parse text n).thread t = latenciesOf t ((lines text.toList).filterMap sampleOn) := by
  rw [(accounts_parse text n).bucket t inside, samples, List.filterMap_map]
  rfl

theorem faults_parse (text : String) (n : Nat) :
    (parse text n).faults = (lines text.toList).filterMap (faultOn n) := by
  rw [faults, (accounts_parse text n).rejects, List.filterMap_map, List.map_filterMap]
  rfl

end Log

theorem latenciesOf_append (t : Nat) (xs ys : List Sample) :
    latenciesOf t (xs ++ ys) = latenciesOf t xs ++ latenciesOf t ys := by
  simp [latenciesOf]

/-- One log's buckets and faults come first, another's follow. -/
structure Log.Spliced (whole left right : Log) : Prop where
  thread : ∀ t, whole.thread t = left.thread t ++ right.thread t
  faults : whole.faults = left.faults ++ right.faults
  rejected : whole.rejected = left.rejected + right.rejected

/-- A line between two logs adds its own sample to that sample's bucket, or its own fault. -/
structure Log.Inserted (whole left : Log) (line : String) (right : Log) : Prop where
  thread : ∀ t < whole.threads, whole.thread t =
    left.thread t ++ latenciesOf t (sample? line).toList ++ right.thread t
  rejected : whole.rejected =
    left.rejected + (refusal? whole.threads line).toList.length + right.rejected

theorem parse_spliced {whole left right : String} (n : Nat)
    (cut : whole.toList = left.toList ++ '\n' :: right.toList) :
    Log.Spliced (.parse whole n) (.parse left n) (.parse right n) := by
  have faults : (Log.parse whole n).faults = (Log.parse left n).faults ++ (Log.parse right n).faults := by
    simp only [Log.faults_parse, cut, filterMap_lines_splice (faultOn_lenient n)]
  refine ⟨?_, faults, by simp only [← Log.length_faults, faults, List.length_append]⟩
  intro t
  by_cases inside : t < n
  · simp only [Log.thread_parse _ inside, cut, filterMap_lines_splice sampleOn_lenient, latenciesOf_append]
  · have outside (text : String) : (Log.parse text n).thread t = [] :=
      Log.thread_of_le _ (by rw [Log.threads_parse]; omega)
    simp [outside]

theorem parse_line (line : String) (n : Nat) (single : '\n' ∉ line.toList) :
    (∀ t < n, (Log.parse line n).thread t = latenciesOf t (sample? line).toList) ∧
      (Log.parse line n).rejected = (refusal? n line).toList.length := by
  constructor
  · intro t inside
    rw [Log.thread_parse line inside, filterMap_lines_unended sampleOn_lenient single, sampleOn,
      String.ofList_toList]
  · rw [← Log.length_faults, Log.faults_parse, filterMap_lines_unended (faultOn_lenient n) single,
      faultOn, String.ofList_toList]
    cases refusal? n line <;> rfl

/-- Whatever bytes stand on the two sides of a line feed, each side is read as if it stood alone; so
damage to a line does not reach beyond it. -/
theorem parse_splice (a b : Bytes) (n : Nat) :
    Log.Spliced (.parse (Utf8.lossy (a ++ 0x0A :: b)) n) (.parse (Utf8.lossy a) n)
      (.parse (Utf8.lossy b) n) ∧
    ∀ line : Bytes, 0x0A ∉ line →
      Log.Inserted (.parse (Utf8.lossy (a ++ 0x0A :: (line ++ 0x0A :: b))) n)
        (.parse (Utf8.lossy a) n) (Utf8.lossy line) (.parse (Utf8.lossy b) n) := by
  refine ⟨parse_spliced n (Utf8.lossy_append_newline a b), ?_⟩
  intro line single
  have outer := parse_spliced n (Utf8.lossy_append_newline a (line ++ 0x0A :: b))
  have inner := parse_spliced n (Utf8.lossy_append_newline line b)
  obtain ⟨thread, rejected⟩ := parse_line (Utf8.lossy line) n (mt Utf8.newline_mem_lossy_iff.mp single)
  constructor
  · intro t inside
    rw [Log.threads_parse] at inside
    rw [outer.thread, inner.thread, thread t inside, List.append_assoc]
  · rw [outer.rejected, inner.rejected, Log.threads_parse, rejected, Nat.add_assoc]

/-- A character cut off by the line feed, and a line of noise. -/
theorem parse_splice_cut_off :
    0x0A ∉ ([0x30, 0x3A, 0xF0, 0x9F] : Bytes) ∧
      Log.Inserted
        (.parse (Utf8.lossy ([0x30, 0x3A, 0x31, 0x3A, 0x35, 0x0D] ++ 0x0A ::
          ([0x30, 0x3A, 0xF0, 0x9F] ++ 0x0A :: [0x30, 0x3A, 0x32, 0x3A, 0x37]))) 1)
        (.parse (Utf8.lossy [0x30, 0x3A, 0x31, 0x3A, 0x35, 0x0D]) 1)
        (Utf8.lossy [0x30, 0x3A, 0xF0, 0x9F])
        (.parse (Utf8.lossy [0x30, 0x3A, 0x32, 0x3A, 0x37]) 1) :=
  ⟨by decide, (parse_splice _ _ 1).2 _ (by decide)⟩

end SchedLatency
