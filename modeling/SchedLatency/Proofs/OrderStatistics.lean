import SchedLatency.Stats
import Mathlib.Data.List.Forall2

/-! Ranks in an ascending list, and what a thread's statistics tell of its latencies. Less than
`100 - p` percent of the values exceed the value of rank `p`, and at least that many reach it
(`percentile?_rank`); the median and the 99th percentile are cases of it. Latencies of which none is
less than the one at its place in another list have no lower statistics: sorting moves the two lists
apart, but for every bound at least as many of the slower ones reach it, and that decides the value at
each place of an ascending list. Main statements: `summarize_orderStatistics` and
`ThreadStats.ofSamples?_slower`. -/
namespace SchedLatency

section
variable {sorted : List Nat} (ascending : sorted.Pairwise (· ≤ ·))
include ascending

theorem getElem_le_getElem {i j : Nat} (before : i ≤ j) (inside : j < sorted.length) :
    sorted[i] ≤ sorted[j] := by
  rcases Nat.lt_or_eq_of_le before with lt | rfl
  · exact List.pairwise_iff_getElem.mp ascending i j (by omega) inside lt
  · exact Nat.le_refl _

/-- What is greater than the value at a place stands after it. -/
theorem countP_lt_getElem {i : Nat} (inside : i < sorted.length) :
    sorted.countP (sorted[i] < ·) + i < sorted.length := by
  have front : (sorted.take (i + 1)).countP (sorted[i] < ·) = 0 := by
    apply List.countP_eq_zero.mpr
    intro x member
    obtain ⟨j, bound, rfl⟩ := List.mem_take_iff_getElem.mp member
    have le := getElem_le_getElem ascending (show j ≤ i by omega) inside
    simpa using le
  have back : (sorted.drop (i + 1)).countP (sorted[i] < ·) ≤ sorted.length - (i + 1) := by
    rw [← List.length_drop]
    exact List.countP_le_length
  have split : sorted.countP (sorted[i] < ·) = (sorted.take (i + 1)).countP (sorted[i] < ·) +
      (sorted.drop (i + 1)).countP (sorted[i] < ·) := by
    rw [← List.countP_append, List.take_append_drop]
  omega

theorem length_le_countP_getElem {i : Nat} (inside : i < sorted.length) :
    sorted.length ≤ sorted.countP (sorted[i] ≤ ·) + i := by
  have back : (sorted.drop i).countP (sorted[i] ≤ ·) = (sorted.drop i).length := by
    apply List.countP_eq_length.mpr
    intro x member
    obtain ⟨j, bound, rfl⟩ := List.mem_drop_iff_getElem.mp member
    simpa using getElem_le_getElem ascending (show i ≤ i + j by omega) (by omega)
  have part : (sorted.drop i).countP (sorted[i] ≤ ·) ≤ sorted.countP (sorted[i] ≤ ·) :=
    (List.drop_sublist i sorted).countP_le
  rw [back, List.length_drop] at part
  omega

theorem head?_le_of_mem {x v : Nat} (head : sorted.head? = some v) (member : x ∈ sorted) : v ≤ x := by
  obtain ⟨rest, rfl⟩ := List.head?_eq_some_iff.mp head
  rcases List.mem_cons.mp member with rfl | later
  · exact Nat.le_refl _
  · exact List.rel_of_pairwise_cons ascending later

theorem le_getLast?_of_mem {x v : Nat} (last : sorted.getLast? = some v) (member : x ∈ sorted) :
    x ≤ v := by
  obtain ⟨front, rfl⟩ := List.getLast?_eq_some_iff.mp last
  rcases List.mem_append.mp member with earlier | final
  · exact (List.pairwise_append.mp ascending).2.2 x earlier v (by simp)
  · exact Nat.le_of_eq (List.mem_singleton.mp final)

end

theorem percentile?_of_fits {sorted : List Nat} {p : Nat} (fits : sorted.length * p < Text.wordLimit) :
    percentile? sorted p = sorted[min (sorted.length * p / 100) (sorted.length - 1)]? := by
  rw [percentile?_eq, Nat.mod_eq_of_lt fits]

/-- Below 100 percent the place is inside the list. -/
theorem percentile?_eq_some_iff {sorted : List Nat} {p v : Nat} (below : p < 100)
    (fits : sorted.length * p < Text.wordLimit) :
    percentile? sorted p = some v ↔
      ∃ inside : sorted.length * p / 100 < sorted.length, sorted[sorted.length * p / 100] = v := by
  cases sorted with
  | nil => simp
  | cons x xs =>
    have most : (x :: xs).length * p ≤ (x :: xs).length * 99 := Nat.mul_le_mul_left _ (by omega)
    have positive : 0 < (x :: xs).length := by simp
    have clamp : min ((x :: xs).length * p / 100) ((x :: xs).length - 1) =
        (x :: xs).length * p / 100 := by omega
    rw [percentile?_of_fits fits, clamp, List.getElem?_eq_some_iff]

/-- Less than `100 - p` percent of the values exceed the value of rank `p`, and at least that many
reach it. -/
theorem percentile?_rank {sorted : List Nat} (ascending : sorted.Pairwise (· ≤ ·)) {p v : Nat}
    (below : p < 100) (fits : sorted.length * p < Text.wordLimit) (found : percentile? sorted p = some v) :
    100 * sorted.countP (v < ·) < (100 - p) * sorted.length ∧
      (100 - p) * sorted.length ≤ 100 * sorted.countP (v ≤ ·) := by
  obtain ⟨inside, rfl⟩ := (percentile?_eq_some_iff below fits).mp found
  have above := countP_lt_getElem ascending inside
  have reach := length_le_countP_getElem ascending inside
  have rest : (100 - p) * sorted.length = 100 * sorted.length - sorted.length * p := by
    rw [Nat.sub_mul, Nat.mul_comm p]
  omega

theorem percentile?_le {sorted : List Nat} (ascending : sorted.Pairwise (· ≤ ·)) {p q v w : Nat}
    (order : p ≤ q) (fits : sorted.length * q < Text.wordLimit) (lower : percentile? sorted p = some v)
    (upper : percentile? sorted q = some w) : v ≤ w := by
  have product : sorted.length * p ≤ sorted.length * q := Nat.mul_le_mul_left _ order
  have place : sorted.length * p / 100 ≤ sorted.length * q / 100 := Nat.div_le_div_right product
  rw [percentile?_of_fits (by omega)] at lower upper
  obtain ⟨_, rfl⟩ := List.getElem?_eq_some_iff.mp lower
  obtain ⟨inside, rfl⟩ := List.getElem?_eq_some_iff.mp upper
  exact getElem_le_getElem ascending (by omega) inside

theorem mergeSort_ascending (values : List Nat) : values.mergeSort.Pairwise (· ≤ ·) := by
  have result : values.mergeSort.Pairwise fun a b => decide (a ≤ b) = true :=
    List.pairwise_mergeSort (fun _ _ _ ab bc => by simp only [decide_eq_true_eq] at *; omega)
      (fun _ _ => by simp only [Bool.or_eq_true, decide_eq_true_eq]; omega) values
  simpa only [decide_eq_true_eq] using result

/-- Of `n` latencies less than half exceed the median and at least half reach it; less than one in
a hundred exceeds the 99th percentile and at least one in a hundred reaches it. -/
structure ThreadStats.Ranks (s : ThreadStats) (samples : List Nat) : Prop where
  min_mem : s.min ∈ samples
  median_mem : s.median ∈ samples
  p99_mem : s.p99 ∈ samples
  max_mem : s.max ∈ samples
  min_le : ∀ x ∈ samples, s.min ≤ x
  le_max : ∀ x ∈ samples, x ≤ s.max
  median_rank : 2 * samples.countP (s.median < ·) < samples.length ∧
    samples.length ≤ 2 * samples.countP (s.median ≤ ·)
  p99_rank : 100 * samples.countP (s.p99 < ·) < samples.length ∧
    samples.length ≤ 100 * samples.countP (s.p99 ≤ ·)
  ordered : s.min ≤ s.median ∧ s.median ≤ s.p99 ∧ s.p99 ≤ s.max

namespace ThreadStats

theorem ofSamples?_eq_some_iff {t : Nat} {samples : List Nat} {s : ThreadStats} :
    ofSamples? t samples = some s ↔ s.thread = t ∧ samples.mergeSort.head? = some s.min ∧
      percentile? samples.mergeSort 50 = some s.median ∧
      percentile? samples.mergeSort 99 = some s.p99 ∧ samples.mergeSort.getLast? = some s.max := by
  obtain ⟨thread, min, median, p99, max⟩ := s
  simp only [ofSamples?, Option.bind_eq_bind, Option.bind_eq_some_iff, Option.pure_def,
    Option.some.injEq, mk.injEq]
  constructor
  · rintro ⟨_, head, _, middle, _, high, _, last, rfl, rfl, rfl, rfl, rfl⟩
    exact ⟨rfl, head, middle, high, last⟩
  · rintro ⟨rfl, head, middle, high, last⟩
    exact ⟨min, head, median, middle, p99, high, max, last, rfl, rfl, rfl, rfl, rfl⟩

theorem exists_ofSamples?_iff {t : Nat} {samples : List Nat} :
    (∃ s, ofSamples? t samples = some s) ↔ samples ≠ [] := by
  constructor
  · rintro ⟨s, found⟩ rfl
    simp at found
  · intro nonempty
    have sorted : samples.mergeSort ≠ [] := by
      intro empty
      have perm := List.mergeSort_perm samples fun a b => decide (a ≤ b)
      exact nonempty (List.perm_nil.mp (empty ▸ perm.symm))
    obtain ⟨median, middle⟩ := Option.isSome_iff_exists.mp (percentile?_isSome sorted 50)
    obtain ⟨p99, high⟩ := Option.isSome_iff_exists.mp (percentile?_isSome sorted 99)
    exact ⟨⟨t, _, median, p99, _⟩, ofSamples?_eq_some_iff.mpr ⟨rfl, List.head?_eq_some_head sorted,
      middle, high, List.getLast?_eq_some_getLast sorted⟩⟩

theorem percentile?_mem {sorted : List Nat} {p v : Nat} (found : percentile? sorted p = some v) :
    v ∈ sorted := by
  rw [percentile?_eq] at found
  exact List.mem_of_getElem? found

theorem ofSamples?_ranks {t : Nat} {samples : List Nat} {s : ThreadStats}
    (fits : 99 * samples.length < Text.wordLimit) (found : ofSamples? t samples = some s) :
    s.Ranks samples := by
  obtain ⟨_, head, middle, high, last⟩ := ofSamples?_eq_some_iff.mp found
  have perm : samples.mergeSort.Perm samples := List.mergeSort_perm samples _
  have ascending := mergeSort_ascending samples
  have length : samples.mergeSort.length = samples.length := perm.length_eq
  have least : ∀ x ∈ samples.mergeSort, s.min ≤ x := fun _ => head?_le_of_mem ascending head
  have greatest : ∀ x ∈ samples.mergeSort, x ≤ s.max := fun _ => le_getLast?_of_mem ascending last
  have medianRank := percentile?_rank ascending (by omega) (by omega) middle
  have p99Rank := percentile?_rank ascending (by omega) (by omega) high
  simp only [perm.countP_eq, length] at medianRank p99Rank
  exact {
    min_mem := perm.mem_iff.mp (List.mem_of_head? head)
    median_mem := perm.mem_iff.mp (percentile?_mem middle)
    p99_mem := perm.mem_iff.mp (percentile?_mem high)
    max_mem := perm.mem_iff.mp (List.mem_of_getLast? last)
    min_le := fun x member => least x (perm.mem_iff.mpr member)
    le_max := fun x member => greatest x (perm.mem_iff.mpr member)
    median_rank := by omega
    p99_rank := by omega
    ordered := ⟨least _ (percentile?_mem middle),
      percentile?_le ascending (by omega) (by omega) middle high,
      greatest _ (percentile?_mem high)⟩ }

end ThreadStats

theorem mem_summarize {latencies : List (List Nat)} {s : ThreadStats} :
    s ∈ summarize latencies ↔ ∃ samples, latencies[s.thread]? = some samples ∧
      ThreadStats.ofSamples? s.thread samples = some s := by
  simp only [summarize, List.mem_filterMap, Prod.exists, List.mem_zipIdx_iff_getElem?]
  constructor
  · rintro ⟨samples, t, at_t, found⟩
    obtain ⟨rfl, _⟩ := ThreadStats.ofSamples?_eq_some_iff.mp found
    exact ⟨samples, at_t, found⟩
  · rintro ⟨samples, at_s, found⟩
    exact ⟨samples, s.thread, at_s, found⟩

theorem summarize_ordered (latencies : List (List Nat)) :
    (summarize latencies).Pairwise fun a b => a.thread < b.thread := by
  have indices : latencies.zipIdx.Pairwise fun a b => a.2 < b.2 := by
    rw [← List.pairwise_map (f := Prod.snd) (R := (· < ·)), List.zipIdx_map_snd]
    exact List.pairwise_lt_range'
  rw [summarize, List.pairwise_filterMap]
  apply indices.imp
  rintro ⟨_, i⟩ ⟨_, j⟩ before s first u second
  obtain ⟨rfl, _⟩ := ThreadStats.ofSamples?_eq_some_iff.mp first
  obtain ⟨rfl, _⟩ := ThreadStats.ofSamples?_eq_some_iff.mp second
  exact before

structure OrderStatistics (latencies : List (List Nat)) (stats : List ThreadStats) : Prop where
  ascending : stats.Pairwise fun a b => a.thread < b.thread
  present : ∀ t, (∃ s ∈ stats, s.thread = t) ↔ ∃ samples, latencies[t]? = some samples ∧ samples ≠ []
  ranks : ∀ s ∈ stats, ∃ samples, latencies[s.thread]? = some samples ∧ s.Ranks samples

/-- The statistics of a thread depend on no other thread's latencies. -/
theorem summarize_orderStatistics (latencies : List (List Nat))
    (fits : ∀ samples ∈ latencies, 99 * samples.length < Text.wordLimit) :
    OrderStatistics latencies (summarize latencies) ∧
      ∀ others, ∀ s ∈ summarize latencies, others[s.thread]? = latencies[s.thread]? →
        s ∈ summarize others := by
  refine ⟨⟨summarize_ordered latencies, ?_, ?_⟩, ?_⟩
  · intro t
    constructor
    · rintro ⟨s, member, rfl⟩
      obtain ⟨samples, at_s, found⟩ := mem_summarize.mp member
      exact ⟨samples, at_s, ThreadStats.exists_ofSamples?_iff.mp ⟨s, found⟩⟩
    · rintro ⟨samples, at_t, nonempty⟩
      obtain ⟨s, found⟩ := (ThreadStats.exists_ofSamples?_iff (t := t)).mpr nonempty
      obtain ⟨rfl, _⟩ := ThreadStats.ofSamples?_eq_some_iff.mp found
      exact ⟨s, mem_summarize.mpr ⟨samples, at_t, found⟩, rfl⟩
  · intro s member
    obtain ⟨samples, at_s, found⟩ := mem_summarize.mp member
    exact ⟨samples, at_s, ThreadStats.ofSamples?_ranks (fits samples (List.mem_of_getElem? at_s)) found⟩
  · intro others s member same
    obtain ⟨samples, at_s, found⟩ := mem_summarize.mp member
    exact mem_summarize.mpr ⟨samples, same.trans at_s, found⟩

theorem orderStatistics_ties :
    (∀ samples ∈ [[64, 66, 66, 65, 65], [], [7]], 99 * samples.length < Text.wordLimit) ∧
      OrderStatistics [[64, 66, 66, 65, 65], [], [7]] (summarize [[64, 66, 66, 65, 65], [], [7]]) :=
  ⟨by decide, (summarize_orderStatistics _ (by decide)).1⟩

/-- The value at a place reaches a bound if and only if at least as many values reach that bound as
there are places from this one on. -/
theorem le_getElem_iff {sorted : List Nat} (ascending : sorted.Pairwise (· ≤ ·)) {i v : Nat}
    (inside : i < sorted.length) :
    v ≤ sorted[i] ↔ sorted.length ≤ sorted.countP (v ≤ ·) + i := by
  constructor
  · intro reached
    have place := length_le_countP_getElem ascending inside
    have more : sorted.countP (sorted[i] ≤ ·) ≤ sorted.countP (v ≤ ·) := by
      apply List.countP_mono_left
      intro x _ above
      simp only [decide_eq_true_eq] at above ⊢
      exact Nat.le_trans reached above
    omega
  · intro enough
    by_contra short
    have place := countP_lt_getElem ascending inside
    have fewer : sorted.countP (v ≤ ·) ≤ sorted.countP (sorted[i] < ·) := by
      apply List.countP_mono_left
      intro x _ above
      simp only [decide_eq_true_eq] at above ⊢
      omega
    omega

section
variable {fast slow : List Nat} (slower : List.Forall₂ (· ≤ ·) fast slow)
include slower

theorem countP_le_of_slower (v : Nat) : fast.countP (v ≤ ·) ≤ slow.countP (v ≤ ·) := by
  induction slower with
  | nil => exact Nat.le_refl _
  | @cons x y fast slow le _ ih =>
    rw [List.countP_cons, List.countP_cons]
    by_cases reached : v ≤ x
    · have reached' : v ≤ y := Nat.le_trans reached le
      simp [reached, reached', ih]
    · simp only [reached, decide_false, Bool.false_eq_true, if_false]
      omega

theorem mergeSort_slower : List.Forall₂ (· ≤ ·) fast.mergeSort slow.mergeSort := by
  have length : fast.mergeSort.length = slow.mergeSort.length := by simp [slower.length_eq]
  rw [List.forall₂_iff_get]
  refine ⟨length, fun i inside inside' => ?_⟩
  change fast.mergeSort[i] ≤ slow.mergeSort[i]
  apply (le_getElem_iff (mergeSort_ascending slow) inside').mpr
  have reached := (le_getElem_iff (mergeSort_ascending fast) inside).mp (Nat.le_refl _)
  have more := countP_le_of_slower slower fast.mergeSort[i]
  rw [(List.mergeSort_perm fast _).countP_eq, length] at reached
  rw [(List.mergeSort_perm slow _).countP_eq]
  omega

theorem getElem?_le_of_slower {i v w : Nat} (left : fast[i]? = some v) (right : slow[i]? = some w) :
    v ≤ w := by
  obtain ⟨inside, rfl⟩ := List.getElem?_eq_some_iff.mp left
  obtain ⟨inside', rfl⟩ := List.getElem?_eq_some_iff.mp right
  exact slower.get inside inside'

/-- A rank stands at the same place in lists of one length, be the product exact or not. -/
theorem percentile?_le_of_slower {p v w : Nat} (left : percentile? fast p = some v)
    (right : percentile? slow p = some w) : v ≤ w := by
  rw [percentile?_eq] at left right
  rw [slower.length_eq] at left
  exact getElem?_le_of_slower slower left right

end

/-- No figure of one thread is greater than the same figure of another. -/
structure ThreadStats.NoWorse (s s' : ThreadStats) : Prop where
  min : s.min ≤ s'.min
  median : s.median ≤ s'.median
  p99 : s.p99 ≤ s'.p99
  max : s.max ≤ s'.max

/-- Slower latencies never make for better statistics. -/
theorem ThreadStats.ofSamples?_slower (t t' : Nat) {fast slow : List Nat} (nonempty : fast ≠ [])
    (slower : List.Forall₂ (· ≤ ·) fast slow) :
    ∃ s s', ofSamples? t fast = some s ∧ ofSamples? t' slow = some s' ∧ s.NoWorse s' := by
  have nonempty' : slow ≠ [] := by
    rintro rfl
    exact nonempty (List.forall₂_nil_right_iff.mp slower)
  obtain ⟨s, found⟩ := (exists_ofSamples?_iff (t := t)).mpr nonempty
  obtain ⟨s', found'⟩ := (exists_ofSamples?_iff (t := t')).mpr nonempty'
  obtain ⟨_, head, middle, high, last⟩ := ofSamples?_eq_some_iff.mp found
  obtain ⟨_, head', middle', high', last'⟩ := ofSamples?_eq_some_iff.mp found'
  have sorted := mergeSort_slower slower
  rw [List.head?_eq_getElem?] at head head'
  rw [List.getLast?_eq_getElem?] at last last'
  rw [sorted.length_eq] at last
  exact ⟨s, s', found, found', {
    min := getElem?_le_of_slower sorted head head'
    median := percentile?_le_of_slower sorted middle middle'
    p99 := percentile?_le_of_slower sorted high high'
    max := getElem?_le_of_slower sorted last last' }⟩

/-- Sorting puts the middle of the one list last and that of the other first. -/
theorem ofSamples?_slower_crossed :
    [9, 14, 3] ≠ [] ∧ List.Forall₂ (· ≤ ·) [9, 14, 3] [20, 14, 18] ∧
      ∃ s s', ThreadStats.ofSamples? 0 [9, 14, 3] = some s ∧
        ThreadStats.ofSamples? 0 [20, 14, 18] = some s' ∧ s.NoWorse s' := by
  have slower : List.Forall₂ (· ≤ ·) [9, 14, 3] [20, 14, 18] := by simp
  exact ⟨by simp, slower, ThreadStats.ofSamples?_slower 0 0 (by simp) slower⟩

end SchedLatency
