import SchedLatency.Proofs.CountLine
import SchedLatency.Topology

/-! Groups of like cores. `PartLine` says which lines tell a core's part, and `Runs` how groups cut
the cores into runs of one part, each run as long as it can be. Main statements:
`part?_eq_some_iff` and `runs_groups`. -/
namespace SchedLatency

def CoreRange.Covers (r : CoreRange) (n : Nat) : Prop := r.first ≤ n ∧ n ≤ r.last

instance (r : CoreRange) : DecidablePred r.Covers :=
  fun n => inferInstanceAs (Decidable (r.first ≤ n ∧ n ≤ r.last))

namespace Cpuinfo

open Text Lscpu

/-- A core's part is a hexadecimal number, set off by white space. It is told as it is written. -/
inductive PartLine : List Char → List Char → Prop where
  | intro (beforeColon : w ≠ []) (blank : Blank w) (afterColon : w' ≠ []) (blank' : Blank w')
      (nonempty : digits ≠ []) (hex : ∀ c ∈ digits, isHex c = true) (after : Blank w'') :
      PartLine ("CPU part".toList ++ (w ++ ':' :: (w' ++ '0' :: 'x' :: (digits ++ w''))))
        ('0' :: 'x' :: digits)

section Lines

theorem skipBlanks?_eq_some_iff (solid : ∀ c, rest.head? = some c → isBlank c = false) :
    skipBlanks? line = some rest ↔ ∃ w, w ≠ [] ∧ Blank w ∧ line = w ++ rest := by
  unfold skipBlanks?
  constructor
  · intro found
    split at found
    · next begins =>
      obtain rfl := Option.some.inj found
      refine ⟨line.takeWhile isBlank, ?_, fun c => List.mem_takeWhile_imp,
        (takeWhile_append_trimStart line).symm⟩
      cases line with
      | nil => simp at begins
      | cons c line => simp [show isBlank c = true by simpa using begins]
    · cases found
  · rintro ⟨w, nonempty, blank, rfl⟩
    obtain ⟨c, w, rfl⟩ := List.exists_cons_of_ne_nil nonempty
    have begins : isBlank c = true := blank c List.mem_cons_self
    rw [trimStart_append_of_blank blank, trimStart_eq_self solid]
    simp [begins]

theorem not_isHex_of_isBlank (c : Char) (blank : isBlank c = true) : isHex c = false := by
  simp only [isBlank, Bool.or_eq_true, Bool.and_eq_true, decide_eq_true_eq, beq_iff_eq] at blank
  apply Bool.eq_false_iff.mpr
  simp only [isHex, Char.isDigit, ne_eq, Bool.or_eq_true, Bool.and_eq_true, decide_eq_true_eq,
    Char.le_def, UInt32.le_iff_toNat_le, Char.reduceVal, UInt32.reduceToNat]
  have value : c.val.toNat = c.toNat := rfl
  omega

theorem part?_eq_some_iff : part? line = some part ↔ PartLine line part := by
  have colon (rest : List Char) : ∀ c, (":".toList ++ rest).head? = some c → isBlank c = false := by
    rintro c ⟨⟩
    decide
  have zero (rest : List Char) : ∀ c, ("0x".toList ++ rest).head? = some c → isBlank c = false := by
    rintro c ⟨⟩
    decide
  unfold part?
  simp only [Option.bind_eq_bind, Option.bind_eq_some_iff, after?_eq_some_iff]
  constructor
  · rintro ⟨_, rfl, _, skipped, _, rfl, _, skipped', rest, rfl, read⟩
    obtain ⟨w, beforeColon, blank, rfl⟩ := (skipBlanks?_eq_some_iff (colon _)).mp skipped
    obtain ⟨w', afterColon, blank', rfl⟩ := (skipBlanks?_eq_some_iff (zero _)).mp skipped'
    split at read
    · next ends =>
      obtain ⟨nonempty, after⟩ := ends
      obtain rfl := Option.some.inj read
      have whole := List.takeWhile_append_dropWhile (p := isHex) (l := rest)
      have shape := PartLine.intro beforeColon blank afterColon blank' nonempty
        (fun c => List.mem_takeWhile_imp) (List.all_eq_true.mp after)
      rwa [whole] at shape
    · cases read
  · rintro ⟨beforeColon, blank, afterColon, blank', nonempty, hex, after⟩
    obtain ⟨taken, left⟩ := span_append_blank not_isHex_of_isBlank hex after
    refine ⟨_, rfl, _, (skipBlanks?_eq_some_iff (colon _)).mpr ⟨_, beforeColon, blank, rfl⟩, _, rfl,
      _, (skipBlanks?_eq_some_iff (zero _)).mpr ⟨_, afterColon, blank', rfl⟩, _, rfl, ?_⟩
    rw [List.append_eq, taken, left, if_pos ⟨nonempty, List.all_eq_true.mpr after⟩]

end Lines

/-- The groups of cores, the latest first. Each is a run of one part, and the one before it is of
another. -/
inductive Runs : List α → List (α × CoreRange) → Prop where
  | nil : Runs [] []
  | cons {cores : List α} {runs : List (α × CoreRange)} {part : α} (more : Nat)
      (changes : ∀ g, runs.head? = some g → g.1 ≠ part) (earlier : Runs cores runs) :
      Runs (cores ++ List.replicate (more + 1) part)
        ((part, ⟨cores.length, cores.length + more⟩) :: runs)

section Groups
variable {α : Type} {cores : List α} {runs : List (α × CoreRange)}

theorem Runs.addCore [DecidableEq α] (earlier : Runs cores runs) (part : α) :
    Runs (cores ++ [part]) (addCore runs part) := by
  cases earlier with
  | nil => exact .cons 0 (by simp) .nil
  | @cons cores runs p more changes earlier =>
    by_cases same : p = part
    · subst same
      have longer := Runs.cons (more + 1) changes earlier
      simpa [Cpuinfo.addCore, List.replicate_succ', Nat.add_assoc] using longer
    · have next : Runs _ ((part, _) :: (p, _) :: runs) :=
        .cons 0 (by simpa using same) (.cons more changes earlier)
      simpa [Cpuinfo.addCore, same, Nat.add_assoc] using next

theorem Runs.foldl_addCore [DecidableEq α] (earlier : Runs cores runs) (later : List α) :
    Runs (cores ++ later) (later.foldl Cpuinfo.addCore runs) := by
  induction later generalizing cores runs with
  | nil => simpa using earlier
  | cons part later ih => simpa using ih (earlier.addCore part)

theorem runs_groups [DecidableEq α] (cores : List α) : Runs cores (groups cores).reverse := by
  rw [groups, List.reverse_reverse]
  exact Runs.nil.foldl_addCore cores

theorem Runs.part_eq {g : α × CoreRange} (found : Runs cores runs) (member : g ∈ runs)
    (covers : g.2.Covers n) : cores[n]? = some g.1 := by
  induction found with
  | nil => simp at member
  | @cons cores runs part more changes earlier ih =>
    rcases List.mem_cons.mp member with rfl | old
    · obtain ⟨first, last⟩ := covers
      have within : n - cores.length < more + 1 := by
        simp only at last
        omega
      rw [List.getElem?_append_right first, List.getElem?_replicate_of_lt within]
    · obtain ⟨bound, _⟩ := List.getElem?_eq_some_iff.mp (ih old)
      rw [List.getElem?_append_left bound, ih old]

theorem Runs.countP_covers (found : Runs cores runs) (n : Nat) :
    runs.countP (·.2.Covers n) = if n < cores.length then 1 else 0 := by
  induction found with
  | nil => simp
  | @cons cores runs part more changes earlier ih =>
    have latest : CoreRange.Covers ⟨cores.length, cores.length + more⟩ n ↔
      cores.length ≤ n ∧ n ≤ cores.length + more := Iff.rfl
    simp only [List.countP_cons, ih, decide_eq_true_eq, latest, List.length_append,
      List.length_replicate]
    split <;> split <;> split <;> omega

end Groups

theorem countP_ranges (cpuinfo : String) (n : Nat) :
    (ranges cpuinfo).countP (·.Covers n) = if n < (parts cpuinfo).length then 1 else 0 := by
  rw [← (runs_groups (parts cpuinfo)).countP_covers, List.countP_reverse, ranges, List.countP_map]
  rfl

theorem exists_covers (within : n < (parts cpuinfo).length) : ∃ r ∈ ranges cpuinfo, r.Covers n := by
  have once := countP_ranges cpuinfo n
  rw [if_pos within] at once
  have some : 0 < (ranges cpuinfo).countP (·.Covers n) := by omega
  simpa [List.countP_pos_iff] using some

theorem lt_of_covers (member : r ∈ ranges cpuinfo) (covers : r.Covers n) :
    n < (parts cpuinfo).length := by
  have some : 0 < (ranges cpuinfo).countP (·.Covers n) :=
    List.countP_pos_iff.mpr ⟨r, member, decide_eq_true covers⟩
  rw [countP_ranges] at some
  split at some
  · assumption
  · contradiction

theorem exists_part (member : r ∈ ranges cpuinfo) :
    ∃ part, ∀ n, r.Covers n → (parts cpuinfo)[n]? = some part := by
  obtain ⟨g, grouped, rfl⟩ := List.mem_map.mp member
  exact ⟨g.1, fun n covers =>
    (runs_groups (parts cpuinfo)).part_eq (List.mem_reverse.mpr grouped) covers⟩

/-- Where there are two ranges, their cores have different parts. -/
theorem exists_parts_of_pair (pair : ranges cpuinfo = [small, big]) : ∃ part part', part ≠ part' ∧
    (∀ n, small.Covers n → (parts cpuinfo)[n]? = some part) ∧
    ∀ n, big.Covers n → (parts cpuinfo)[n]? = some part' := by
  obtain ⟨g, _, groups_eq, rfl, second⟩ := List.map_eq_cons_iff.mp pair
  obtain ⟨g', _, rfl, rfl, none⟩ := List.map_eq_cons_iff.mp second
  obtain rfl := List.map_eq_nil_iff.mp none
  have found := runs_groups (parts cpuinfo)
  have of_mem {g : List Char × CoreRange} (member : g ∈ groups (parts cpuinfo)) (n : Nat) :
      g.2.Covers n → (parts cpuinfo)[n]? = some g.1 :=
    found.part_eq (List.mem_reverse.mpr member)
  refine ⟨g.1, g'.1, ?_, of_mem (by simp [groups_eq]), of_mem (by simp [groups_eq])⟩
  rw [groups_eq] at found
  generalize parts cpuinfo = cores at found
  cases found with
  | cons more changes => exact changes g rfl

end Cpuinfo
end SchedLatency
