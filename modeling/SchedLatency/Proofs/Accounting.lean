import SchedLatency.Log
import SchedLatency.Proofs.Lines

/-! Where the data lines of a log go. `Log.Accounts` ties a log to the lines that it has read, one
line keeps it, and so `parse_accounts` finds every data line in one bucket or among the rejects. -/
namespace SchedLatency

def sample? (line : String) : Option Sample :=
  match readLine line with
  | .ok found => found
  | .error _ => none

def malformed (line : String) : Bool :=
  match readLine line with
  | .ok _ => false
  | .error _ => true

def samples (lines : List String) : List Sample := lines.filterMap sample?

def latenciesOf (thread : Nat) (samples : List Sample) : List Nat :=
  (samples.filter (·.thread = thread)).map Sample.latency

def refusal? (threads : Nat) (line : String) : Option Reject :=
  match readLine line with
  | .ok none => none
  | .ok (some s) => if s.thread < threads then none else some ⟨line, .noSuchThread s.thread threads⟩
  | .error r => some r

theorem startsData_iff (line : String) :
    Sample.startsData line.toList = true ↔ readLine line ≠ .ok none := by
  by_cases data : Sample.startsData line.toList = true
  · cases h : Sample.readData line.toList <;>
      simp [readLine, Sample.readLine_of_startsData data, h, data, Functor.map, Except.map]
  · have banner : Sample.startsData line.toList = false := by simpa using data
    simp [readLine, Sample.readLine_of_not_startsData banner, banner]

namespace Log

@[simp] theorem threads_reject (log : Log) (r : Reject) : (log.reject r).threads = log.threads := rfl

@[simp] theorem thread_reject (log : Log) (r : Reject) (t : Nat) :
    (log.reject r).thread t = log.thread t := rfl

@[simp] theorem rejects_reject (log : Log) (r : Reject) :
    (log.reject r).rejects.toList = log.rejects.toList ++ [r] := by
  simp [reject]

def keep (log : Log) (s : Sample) : Log :=
  { log with buckets := log.buckets.modify s.thread (·.push s.latency) }

@[simp] theorem threads_keep (log : Log) (s : Sample) : (log.keep s).threads = log.threads := by
  simp [threads, keep]

@[simp] theorem rejects_keep (log : Log) (s : Sample) : (log.keep s).rejects = log.rejects := rfl

/-- Only the sample's own thread gets it. -/
theorem thread_keep (log : Log) (s : Sample) (t : Nat) (inside : t < log.threads) :
    (log.keep s).thread t = log.thread t ++ if s.thread = t then [s.latency] else [] := by
  have bound : t < log.buckets.size := inside
  by_cases own : s.thread = t <;> simp [thread, keep, Array.getElem_modify, own, bound]

theorem record_cases (log : Log) (line : String) :
    (readLine line = .ok none ∧ log.record line = log) ∨
    (∃ s, readLine line = .ok (some s) ∧ s.thread < log.threads ∧ log.record line = log.keep s) ∨
    (∃ s, readLine line = .ok (some s) ∧ log.threads ≤ s.thread ∧
      log.record line = log.reject ⟨line, .noSuchThread s.thread log.threads⟩) ∨
    (∃ r, readLine line = .error r ∧ log.record line = log.reject r) := by
  cases h : readLine line with
  | error r => exact .inr (.inr (.inr ⟨r, rfl, by simp [record, h]⟩))
  | ok found =>
    cases found with
    | none => exact .inl ⟨rfl, by simp [record, h]⟩
    | some s =>
      by_cases inside : s.thread < log.threads
      · have bound : s.thread < log.buckets.size := inside
        exact .inr (.inl ⟨s, rfl, inside, by simp [record, h, bound, keep]⟩)
      · have bound : ¬ s.thread < log.buckets.size := inside
        exact .inr (.inr (.inl ⟨s, rfl, by omega, by simp [record, h, bound, threads]⟩))

/-- What a log holds once it has read these lines. -/
structure Accounts (log : Log) (n : Nat) (lines : List String) : Prop where
  threads : log.threads = n
  bucket : ∀ t < n, log.thread t = latenciesOf t (samples lines)
  rejects : log.rejects.toList = lines.filterMap (refusal? n)

theorem empty_accounts (n : Nat) : Accounts (empty n) n [] := by
  refine ⟨threads_empty n, ?_, rfl⟩
  intro t bound
  simp [samples, latenciesOf]

theorem record_accounts (log : Log) (n : Nat) (seen : List String) (line : String)
    (accounts : Accounts log n seen) : Accounts (log.record line) n (seen ++ [line]) := by
  have threads := accounts.threads
  have bucket := accounts.bucket
  have rejects := accounts.rejects
  rcases record_cases log line with ⟨read, next⟩ | ⟨s, read, inside, next⟩ | ⟨s, read, outside, next⟩ |
    ⟨r, read, next⟩
  all_goals rw [next]
  -- no data
  · have sample : sample? line = none := by simp [sample?, read]
    have refusal : refusal? n line = none := by simp [refusal?, read]
    exact ⟨threads, by simpa [samples, sample] using bucket, by simpa [refusal] using rejects⟩
  -- a sample for its bucket, the other buckets staying as they are
  · have sample : sample? line = some s := by simp [sample?, read]
    have refusal : refusal? n line = none := by simp [refusal?, read, ← threads, inside]
    refine ⟨by simpa using threads, ?_, by simpa [refusal] using rejects⟩
    intro t bound
    rw [thread_keep log s t (by omega), bucket t bound]
    by_cases own : s.thread = t <;> simp [samples, latenciesOf, sample, own]
  -- a sample that no bucket is asked for, since its thread is too high
  · have sample : sample? line = some s := by simp [sample?, read]
    have refusal : refusal? n line = some ⟨line, .noSuchThread s.thread log.threads⟩ := by
      simp [refusal?, read, ← threads, outside]
    refine ⟨by simpa using threads, ?_, by simpa [refusal] using rejects⟩
    intro t bound
    have other : s.thread ≠ t := by omega
    simpa [samples, latenciesOf, sample, other] using bucket t bound
  -- malformed
  · have sample : sample? line = none := by simp [sample?, read]
    have refusal : refusal? n line = some r := by simp [refusal?, read]
    exact ⟨by simpa using threads, by simpa [samples, sample] using bucket,
      by simpa [refusal] using rejects⟩

/-- The invariant is carried through all lines, those seen before included. -/
theorem foldl_record_accounts (log : Log) (n : Nat) (seen lines : List String)
    (accounts : Accounts log n seen) : Accounts (lines.foldl record log) n (seen ++ lines) := by
  induction lines generalizing log seen with
  | nil => simpa using accounts
  | cons line lines ih =>
    have next := ih (log.record line) (seen ++ [line]) (record_accounts log n seen line accounts)
    simpa using next

theorem latencies_eq (log : Log) : log.latencies = (List.range log.threads).map log.thread := by
  apply List.ext_getElem
  · simp [latencies, threads]
  · intro t inside _
    have bound : t < log.buckets.size := by simpa [latencies] using inside
    simp [latencies, thread, bound]

end Log

theorem countP_thread_succ (ss : List Sample) (n : Nat) :
    ss.countP (·.thread < n + 1) = ss.countP (·.thread < n) + (latenciesOf n ss).length := by
  induction ss with
  | nil => rfl
  | cons s ss ih =>
    simp only [latenciesOf, List.length_map, ← List.countP_eq_length_filter] at ih ⊢
    rw [List.countP_cons, List.countP_cons, List.countP_cons, ih]
    simp only [decide_eq_true_eq]
    split <;> split <;> split <;> omega

theorem length_latenciesOf (ss : List Sample) (n : Nat) :
    ((List.range n).flatMap fun t => latenciesOf t ss).length = ss.countP (·.thread < n) := by
  induction n with
  | zero => simp
  | succ n ih => rw [List.range_succ, countP_thread_succ, ← ih]; simp

theorem length_refusals (lines : List String) (n : Nat) :
    (lines.filterMap (refusal? n)).length =
      lines.countP malformed + (samples lines).countP (n ≤ ·.thread) := by
  induction lines with
  | nil => rfl
  | cons line lines ih =>
    cases read : readLine line with
    | error r => simp_all [refusal?, malformed, samples, sample?]; omega
    | ok found =>
      cases found with
      | none => simp_all [refusal?, malformed, samples, sample?]
      | some s =>
        by_cases inside : s.thread < n
        · simp_all [refusal?, malformed, samples, sample?]
        · have outside : n ≤ s.thread := by omega
          simp_all [refusal?, malformed, samples, sample?]; omega

theorem countP_startsData (lines : List String) :
    lines.countP (fun line => Sample.startsData line.toList) =
      lines.countP malformed + (samples lines).length := by
  induction lines with
  | nil => rfl
  | cons line lines ih =>
    have data := startsData_iff line
    cases read : readLine line with
    | error r => simp_all [malformed, samples, sample?]; omega
    | ok found =>
      cases found with
      | none => simp_all [malformed, samples, sample?]
      | some s => simp_all [malformed, samples, sample?]; omega

/-- Where the lines of a text end up in a log with this many threads. -/
structure Accounting (lines : List String) (n : Nat) (log : Log) : Prop where
  buckets : log.latencies = (List.range n).map fun t => latenciesOf t (samples lines)
  rejects : log.rejects.toList = lines.filterMap (refusal? n)
  rejected : log.rejected = lines.countP malformed + (samples lines).countP (n ≤ ·.thread)
  total : log.total + log.rejected = lines.countP fun line => Sample.startsData line.toList

theorem Log.Accounts.accounting (accounts : Log.Accounts log n lines) :
    Accounting lines n log := by
  have buckets : log.latencies = (List.range n).map fun t => latenciesOf t (samples lines) := by
    rw [log.latencies_eq, accounts.threads]
    apply List.map_congr_left
    intro t member
    exact accounts.bucket t (List.mem_range.mp member)
  have rejected : log.rejected = lines.countP malformed + (samples lines).countP (n ≤ ·.thread) := by
    rw [← length_refusals, ← accounts.rejects, Array.length_toList, Log.rejected]
  refine ⟨buckets, accounts.rejects, rejected, ?_⟩
  have total : log.total = (samples lines).countP (·.thread < n) := by
    rw [Log.total, buckets, ← List.flatMap_def, length_latenciesOf]
  have shared : (samples lines).length =
      (samples lines).countP (·.thread < n) + (samples lines).countP (n ≤ ·.thread) := by
    rw [List.length_eq_countP_add_countP (p := fun s => decide (s.thread < n))]
    simp
  rw [countP_startsData]
  omega

/-- Whatever lines are mixed in a text, every data line is in its thread's bucket or refused. -/
theorem parse_accounts (text : String) (n : Nat) :
    Text.Lined text.toList (Text.lines text.toList) ∧
      Accounting ((Text.lines text.toList).map String.ofList) n (Log.parse text n) := by
  have accounts := Log.foldl_record_accounts (Log.empty n) n []
    ((Text.lines text.toList).map String.ofList) (Log.empty_accounts n)
  exact ⟨Text.lined_lines text.toList, Log.Accounts.accounting accounts⟩

end SchedLatency
