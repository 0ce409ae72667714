import Mathlib.Data.List.Perm.Basic
import SchedLatency.Report
import SchedLatency.Proofs.OrderStatistics
import SchedLatency.Proofs.Splicing

/-! Logs with their lines in another order. Each line is read alone, so the order decides only how a
bucket is ordered, and the statistics sort every bucket. Main statement: `parse_reorder`. -/
namespace SchedLatency

open Text

/-- Lines with line feeds between them are read one by one. No line feed follows the last of them,
which may be empty or end in a carriage return. -/
theorem Text.filterMap_lines_intercalate {f : List Char → Option α} (lenient : Lenient f)
    (ls : List (List Char)) (single : ∀ line ∈ ls, '\n' ∉ line) :
    (lines (['\n'].intercalate ls)).filterMap f = ls.filterMap f := by
  induction ls with
  | nil => rfl
  | cons line more ih =>
    have first : '\n' ∉ line := single line List.mem_cons_self
    have rest := ih fun later member => single later (List.mem_cons_of_mem line member)
    cases more with
    | nil =>
      rw [List.intercalate_singleton, filterMap_lines_unended lenient first]
      cases read : f line <;> simp [read]
    | cons next more =>
      have cut : ['\n'].intercalate (line :: next :: more) =
          line ++ '\n' :: ['\n'].intercalate (next :: more) := by
        simp [List.intercalate_cons_cons]
      rw [cut, filterMap_lines_ended lenient _ first, rest]
      cases read : f line <;> simp [read]

theorem latenciesOf_perm (t : Nat) {xs ys : List Sample} (perm : xs.Perm ys) :
    (latenciesOf t xs).Perm (latenciesOf t ys) :=
  (perm.filter _).map Sample.latency

theorem mergeSort_eq_of_perm {xs ys : List Nat} (perm : xs.Perm ys) : xs.mergeSort = ys.mergeSort := by
  have sorted : xs.mergeSort.Perm ys.mergeSort :=
    (List.mergeSort_perm xs _).trans (perm.trans (List.mergeSort_perm ys _).symm)
  exact sorted.eq_of_pairwise (fun _ _ _ _ => Nat.le_antisymm) (mergeSort_ascending xs)
    (mergeSort_ascending ys)

theorem ThreadStats.ofSamples?_perm (t : Nat) {xs ys : List Nat} (perm : xs.Perm ys) :
    ofSamples? t xs = ofSamples? t ys := by
  rw [ofSamples?, ofSamples?, mergeSort_eq_of_perm perm]

theorem summarize_perm {xs ys : List (List Nat)} (perms : List.Forall₂ List.Perm xs ys) :
    summarize xs = summarize ys := by
  -- Buckets are counted from any number, so that the induction can take the first one off.
  suffices h : ∀ start,
      (xs.zipIdx start).filterMap (fun bucket => ThreadStats.ofSamples? bucket.2 bucket.1) =
        (ys.zipIdx start).filterMap fun bucket => ThreadStats.ofSamples? bucket.2 bucket.1 from h 0
  induction perms with
  | nil => intro start; rfl
  | @cons x y xs ys perm _ ih =>
    intro start
    have first := ThreadStats.ofSamples?_perm start perm
    have rest := ih (start + 1)
    simp only [List.zipIdx_cons, List.filterMap_cons, first, rest]

/-- Two logs with the same samples in each bucket and the same faults, in whatever order. -/
structure Log.Reordered (log other : Log) : Prop where
  threads : log.threads = other.threads
  thread : ∀ t, (log.thread t).Perm (other.thread t)
  faults : log.faults.Perm other.faults

namespace Log.Reordered
variable {log other : Log} (reordered : log.Reordered other)
include reordered

theorem latencies : List.Forall₂ List.Perm log.latencies other.latencies := by
  rw [log.latencies_eq, other.latencies_eq, reordered.threads, List.forall₂_map_left_iff,
    List.forall₂_map_right_iff]
  exact List.forall₂_same.mpr fun t _ => reordered.thread t

theorem rejected : log.rejected = other.rejected := by
  rw [← length_faults, ← length_faults, reordered.faults.length_eq]

theorem total : log.total = other.total :=
  (List.Perm.flatten_congr reordered.latencies).length_eq

theorem stats : log.stats = other.stats := summarize_perm reordered.latencies

end Log.Reordered

section Joined
variable (lines : List String) (single : ∀ line ∈ lines, '\n' ∉ line.toList)
include single

theorem filterMap_lines_joined {f : List Char → Option α} (lenient : Lenient f) :
    (Text.lines ("\n".intercalate lines).toList).filterMap f =
      lines.filterMap fun line => f line.toList := by
  have apart : ∀ chars ∈ lines.map String.toList, '\n' ∉ chars := by
    intro chars member
    obtain ⟨line, among, rfl⟩ := List.mem_map.mp member
    exact single line among
  rw [String.toList_intercalate]
  exact (filterMap_lines_intercalate lenient _ apart).trans List.filterMap_map

theorem thread_parse_joined (inside : t < n) :
    (Log.parse ("\n".intercalate lines) n).thread t = latenciesOf t (samples lines) := by
  rw [Log.thread_parse _ inside, filterMap_lines_joined lines single sampleOn_lenient]
  simp only [sampleOn, String.ofList_toList, samples]

theorem faults_parse_joined (n : Nat) : (Log.parse ("\n".intercalate lines) n).faults =
    lines.filterMap fun line => faultOn n line.toList := by
  rw [Log.faults_parse, filterMap_lines_joined lines single (faultOn_lenient n)]

end Joined

/-- Lines in another order give the same statistics and the same report, on whatever it is written. -/
theorem parse_reorder (lines lines' : List String) (n : Nat) (perm : lines.Perm lines')
    (single : ∀ line ∈ lines, '\n' ∉ line.toList) :
    let log := Log.parse ("\n".intercalate lines) n
    let other := Log.parse ("\n".intercalate lines') n
    log.Reordered other ∧ log.rejected = other.rejected ∧ log.total = other.total ∧
      log.stats = other.stats ∧ ∀ format sink,
        Report.write format log.stats sink = Report.write format other.stats sink := by
  intro log other
  have single' : ∀ line ∈ lines', '\n' ∉ line.toList :=
    fun line member => single line (perm.mem_iff.mpr member)
  have reordered : log.Reordered other := by
    refine ⟨by simp [log, other], fun t => ?_, ?_⟩
    · by_cases inside : t < n
      · rw [thread_parse_joined lines single inside, thread_parse_joined lines' single' inside]
        exact latenciesOf_perm t (perm.filterMap sample?)
      · have outside (text : String) : (Log.parse text n).thread t = [] :=
          Log.thread_of_le _ (by rw [Log.threads_parse]; omega)
        rw [outside, outside]
    · rw [faults_parse_joined lines single, faults_parse_joined lines' single']
      exact perm.filterMap _
  have stats := reordered.stats
  exact ⟨reordered, reordered.rejected, reordered.total, stats, fun format sink => by rw [stats]⟩

/-- A carriage return that ends the text in one order and a line in the other, an empty line, ties
and a line of a thread that does not exist. -/
theorem parse_reorder_carriageReturn :
    let lines := ["0:1:7", "", "1:1:3\r", "0:2:7", "2:0:1", "0:3:5\r"]
    let lines' := ["0:3:5\r", "0:1:7", "0:2:7", "2:0:1", "1:1:3\r", ""]
    lines.Perm lines' ∧ (∀ line ∈ lines, '\n' ∉ line.toList) ∧
      (Log.parse ("\n".intercalate lines) 2).stats = (Log.parse ("\n".intercalate lines') 2).stats := by
  intro lines lines'
  have perm : lines.Perm lines' := by decide
  have single : ∀ line ∈ lines, '\n' ∉ line.toList := by decide
  exact ⟨perm, single, (parse_reorder lines lines' 2 perm single).2.2.2.1⟩

end SchedLatency
