import Mathlib.Data.List.Chain
import Mathlib.Data.Nat.PSub
import SchedLatency.Host
import SchedLatency.Proofs.CoreGroups
import SchedLatency.Proofs.Encoding

/-! The ranges of a listing as a partition of its cores. `Told` says which parts a listing tells,
`MaximalRuns` how ranges cut the cores into runs of one part, and `scan` finds the ranges in one pass
that counts the cores. Main statement: `ranges_partition`. -/
namespace SchedLatency.Cpuinfo

open Text
open Text.Utf8 (encode)

/-- The parts that lines tell, in their order. A line of any other form tells nothing. -/
inductive Told : List (List Char) → List (List Char) → Prop where
  | nil : Told [] []
  | part (line : PartLine l part) (later : Told ls cores) : Told (l :: ls) (part :: cores)
  | other (silent : ∀ part, ¬ PartLine l part) (later : Told ls cores) : Told (l :: ls) cores

theorem part?_eq_none_iff : part? line = none ↔ ∀ part, ¬ PartLine line part := by
  simp only [Option.eq_none_iff_forall_ne_some, ne_eq, part?_eq_some_iff]

theorem told_iff : Told ls cores ↔ cores = ls.filterMap part? := by
  constructor
  · intro told
    induction told with
    | nil => rfl
    | part line _ ih => rw [List.filterMap_cons_some (part?_eq_some_iff.mpr line), ih]
    | other silent _ ih => rw [List.filterMap_cons_none (part?_eq_none_iff.mpr silent), ih]
  · rintro rfl
    induction ls with
    | nil => exact .nil
    | cons l ls ih =>
      cases read : part? l with
      | none =>
        rw [List.filterMap_cons_none read]
        exact .other (part?_eq_none_iff.mp read) ih
      | some part =>
        rw [List.filterMap_cons_some read]
        exact .part (part?_eq_some_iff.mp read) ih

/-- The cores, counted from zero, in ranges of one part each that are as long as they can be. -/
structure MaximalRuns (cores : List α) (ranges : List CoreRange) : Prop where
  empty : ranges = [] ↔ cores = []
  first : ∀ r, ranges.head? = some r → r.first = 0
  ordered : ∀ r ∈ ranges, r.first ≤ r.last
  adjacent : ranges.IsChain fun r next => next.first = r.last + 1
  last : ∀ r, ranges.getLast? = some r → r.last + 1 = cores.length
  alike : ∀ r ∈ ranges, ∃ part, ∀ n, r.Covers n → cores[n]? = some part
  changes : ranges.IsChain fun r next => cores[r.last]? ≠ cores[next.first]?

section Partition
variable {α : Type} {cores : List α} {ranges : List CoreRange} {runs : List (α × CoreRange)}

theorem MaximalRuns.getElem?_append (earlier : MaximalRuns cores ranges) (member : r ∈ ranges)
    (covers : r.Covers n) (later : List α) : (cores ++ later)[n]? = cores[n]? := by
  obtain ⟨part, alike⟩ := earlier.alike r member
  obtain ⟨within, _⟩ := List.getElem?_eq_some_iff.mp (alike n covers)
  exact List.getElem?_append_left within

theorem MaximalRuns.covers_first (found : MaximalRuns cores ranges) (member : r ∈ ranges) :
    r.Covers r.first :=
  ⟨Nat.le_refl _, found.ordered r member⟩

theorem MaximalRuns.covers_last (found : MaximalRuns cores ranges) (member : r ∈ ranges) :
    r.Covers r.last :=
  ⟨found.ordered r member, Nat.le_refl _⟩

theorem MaximalRuns.append (earlier : MaximalRuns cores ranges) (more : Nat)
    (differs : ∀ r, ranges.getLast? = some r → cores[r.last]? ≠ some part) :
    MaximalRuns (cores ++ List.replicate (more + 1) part)
      (ranges ++ [⟨cores.length, cores.length + more⟩]) where
  empty := by simp
  first := by
    intro r head
    cases ranges with
    | nil =>
      obtain rfl := earlier.empty.mp rfl
      obtain rfl := Option.some.inj head
      rfl
    | cons _ _ => exact earlier.first r head
  ordered := by
    intro r member
    rcases List.mem_append.mp member with old | new
    · exact earlier.ordered r old
    · rw [List.mem_singleton.mp new]
      exact Nat.le_add_right _ _
  adjacent := by
    refine earlier.adjacent.append (.singleton _) ?_
    rintro r last _ ⟨⟩
    exact (earlier.last r last).symm
  last := by
    intro r last
    rw [List.getLast?_concat] at last
    obtain rfl := Option.some.inj last
    simp [Nat.add_assoc]
  alike := by
    intro r member
    rcases List.mem_append.mp member with old | new
    · obtain ⟨part, alike⟩ := earlier.alike r old
      refine ⟨part, fun n covers => ?_⟩
      rw [earlier.getElem?_append old covers, alike n covers]
    · obtain rfl := List.mem_singleton.mp new
      refine ⟨part, ?_⟩
      rintro n ⟨first, last⟩
      have within : n - cores.length < more + 1 := by
        simp only at last
        omega
      rw [List.getElem?_append_right first, List.getElem?_replicate_of_lt within]
  changes := by
    refine List.IsChain.append ?_ (.singleton _) ?_
    · refine earlier.changes.imp_of_mem_imp fun r next member member' change => ?_
      rwa [earlier.getElem?_append member (earlier.covers_last member),
        earlier.getElem?_append member' (earlier.covers_first member')]
    · rintro r last _ ⟨⟩
      have member := List.mem_of_getLast? last
      rw [earlier.getElem?_append member (earlier.covers_last member),
        List.getElem?_append_right (Nat.le_refl _), Nat.sub_self,
        List.getElem?_replicate_of_lt (Nat.succ_pos more)]
      exact differs r last

theorem Runs.maximalRuns (found : Runs cores runs) :
    MaximalRuns cores (runs.map Prod.snd).reverse := by
  induction found with
  | nil =>
    exact ⟨by simp, by simp, by simp, .nil, by simp, by simp, .nil⟩
  | @cons cores runs part more changes earlier ih =>
    rw [List.map_cons, List.reverse_cons]
    apply ih.append
    intro r last
    rw [List.getLast?_reverse, List.head?_map] at last
    obtain ⟨g, latest, rfl⟩ := Option.map_eq_some_iff.mp last
    have member := List.mem_of_mem_head? latest
    rw [earlier.part_eq member (ih.covers_last (by simpa using ⟨g.1, member⟩))]
    intro same
    exact changes g latest (Option.some.inj same)

end Partition

/-- A pass over the cores: the ranges that are closed, the part and the first core of the range that
is open, and the number of cores so far. -/
structure Scan (α : Type) where
  closed : List CoreRange := []
  current : Option (α × Nat) := none
  count : Nat := 0

namespace Scan
variable {α : Type}

/-- A range is closed at the core before the next one. It would be a fault if there were none. -/
def push [DecidableEq α] (s : Scan α) (part : α) : Option (Scan α) :=
  match s.current with
  | none => some { s with current := some (part, s.count), count := s.count + 1 }
  | some (p, first) =>
    if p = part then some { s with count := s.count + 1 }
    else do
      let last ← s.count.ppred
      return ⟨s.closed ++ [⟨first, last⟩], some (part, s.count), s.count + 1⟩

def finish (s : Scan α) : Option (List CoreRange) :=
  match s.current with
  | none => some s.closed
  | some (_, first) => do return s.closed ++ [⟨first, ← s.count.ppred⟩]

/-- Where a pass stands that has found these groups, the latest of them first. -/
def after : List (α × CoreRange) → Scan α
  | [] => {}
  | (part, r) :: earlier => ⟨(earlier.map Prod.snd).reverse, some (part, r.first), r.last + 1⟩

theorem push_after [DecidableEq α] (groups : List (α × CoreRange)) (part : α) :
    (after groups).push part = some (after (addCore groups part)) := by
  cases groups with
  | nil => rfl
  | cons g earlier =>
    obtain ⟨p, r⟩ := g
    by_cases same : p = part
    · simp [push, after, addCore, same]
    · simp [push, after, addCore, same, Nat.ppred]

theorem foldlM_push_after [DecidableEq α] (groups : List (α × CoreRange)) (cores : List α) :
    cores.foldlM push (after groups) = some (after (cores.foldl addCore groups)) := by
  induction cores generalizing groups with
  | nil => rfl
  | cons part cores ih => simp [push_after, ih]

theorem finish_after (groups : List (α × CoreRange)) :
    (after groups).finish = some (groups.map Prod.snd).reverse := by
  cases groups with
  | nil => rfl
  | cons g earlier => simp [finish, after, Nat.ppred]

end Scan

def scan [DecidableEq α] (cores : List α) : Option (List CoreRange) :=
  cores.foldlM Scan.push {} >>= Scan.finish

/-- The pass finds the groups, and meets no fault. -/
theorem scan_eq [DecidableEq α] (cores : List α) : scan cores = some ((groups cores).map Prod.snd) := by
  have pass := Scan.foldlM_push_after [] cores
  rw [Scan.after] at pass
  rw [scan, pass, Option.bind_eq_bind, Option.bind_some, Scan.finish_after, groups, List.map_reverse]

/-- The parts are those of the lines of the one form that tells a part, in order. The ranges cut the
cores that have these parts into maximal runs, a pass that counts the cores never closes a range
before the first of them, and each range is reported by its two ends. -/
theorem ranges_partition (cpuinfo : String) :
    (∀ cores, Told (lines cpuinfo.toList) cores ↔ cores = parts cpuinfo) ∧
    MaximalRuns (parts cpuinfo) (ranges cpuinfo) ∧
    scan (parts cpuinfo) = some (ranges cpuinfo) ∧
    ∀ lscpu, (Platform.mk lscpu (.ok (encode cpuinfo))).coreRanges.result =
      .ok ((ranges cpuinfo).map fun r => s!"{r.first}-{r.last}") := by
  have partition := (runs_groups (parts cpuinfo)).maximalRuns
  rw [List.map_reverse, List.reverse_reverse] at partition
  refine ⟨fun cores => told_iff, partition, scan_eq _, ?_⟩
  intro lscpu
  simp only [Platform.coreRanges, Utf8.decode?_encode]
  rfl

end SchedLatency.Cpuinfo
