import Mathlib.Data.List.Basic
import SchedLatency.Proofs.CorePartition
import SchedLatency.Proofs.Phases

/-! Which processors a kind of cores stands for, by the parts that a listing tells. Small and big
cores are told apart if the parts change just once; otherwise either kind is the first processor, and
an error says why. Main statement: `resolve_kinds`. -/
namespace SchedLatency

namespace Cpuinfo

/-- So many cores of one part, and after them so many of another. -/
structure TwoKinds (cores : List α) (small big : Nat) : Prop where
  someSmall : 0 < small
  someBig : 0 < big
  parts : ∃ p q, p ≠ q ∧ cores = List.replicate small p ++ List.replicate big q

section Groups
variable {α : Type} [DecidableEq α] {cores : List α} {runs : List (α × CoreRange)}

theorem foldl_addCore_replicate (part : α) (r : CoreRange) (more : Nat) :
    (List.replicate more part).foldl addCore ((part, r) :: runs) =
      (part, { r with last := r.last + more }) :: runs := by
  induction more generalizing r with
  | zero => rfl
  | succ more ih =>
    rw [List.replicate_succ, List.foldl_cons, addCore, if_pos rfl, ih]
    simp only [Nat.add_assoc, Nat.add_comm 1 more]

theorem groups_two {p q : α} (differ : p ≠ q) (someSmall : 0 < small) (someBig : 0 < big) :
    groups (List.replicate small p ++ List.replicate big q) =
      [(p, ⟨0, small - 1⟩), (q, ⟨small, small + big - 1⟩)] := by
  obtain ⟨small, rfl⟩ := Nat.exists_eq_succ_of_ne_zero someSmall.ne'
  obtain ⟨big, rfl⟩ := Nat.exists_eq_succ_of_ne_zero someBig.ne'
  have opens (r : CoreRange) : addCore [(p, r)] q = [(q, ⟨r.last + 1, r.last + 1⟩), (p, r)] :=
    if_neg differ
  have last : small.succ + big.succ - 1 = small + 1 + big := by omega
  rw [groups, List.foldl_append, List.replicate_succ, List.foldl_cons, addCore,
    foldl_addCore_replicate, List.replicate_succ, List.foldl_cons, opens, foldl_addCore_replicate,
    last]
  simp

/-- There are two groups just if the parts change once. -/
theorem groups_pair_iff : (groups cores).map Prod.snd = [s, b] ↔
    ∃ small big, TwoKinds cores small big ∧ s = ⟨0, small - 1⟩ ∧ b = ⟨small, small + big - 1⟩ := by
  constructor
  · intro pair
    obtain ⟨⟨p, _⟩, _, grouped, rfl, second⟩ := List.map_eq_cons_iff.mp pair
    obtain ⟨⟨q, _⟩, _, rfl, rfl, none⟩ := List.map_eq_cons_iff.mp second
    obtain rfl := List.map_eq_nil_iff.mp none
    have found := runs_groups cores
    rw [grouped] at found
    cases found with
    | cons more changes earlier =>
      cases earlier with
      | @cons _ _ _ fewer _ earliest =>
        cases earliest with
        | nil =>
          have last : fewer + 1 + more = fewer + 1 + (more + 1) - 1 := by omega
          refine ⟨fewer + 1, more + 1, ⟨by omega, by omega, p, q, changes _ rfl, by simp⟩, ?_, ?_⟩
          · simp
          · rw [← last]
            simp
  · rintro ⟨small, big, ⟨someSmall, someBig, p, q, differ, rfl⟩, rfl, rfl⟩
    rw [groups_two differ someSmall someBig]
    rfl

end Groups

theorem text_first (last : Nat) : CoreRange.text ⟨0, last⟩ = s!"0-{last}" := by
  have words : "0-" = "0" ++ "-" := rfl
  have zero : toString 0 = "0" := rfl
  unfold CoreRange.text
  generalize toString last = n
  rw [zero, toString_text, toString_text, words]

/-- Two ranges side by side that share no core and leave none of so many out. -/
structure SideBySide (s b : CoreRange) (cores : Nat) : Prop where
  adjacent : b.first = s.last + 1
  disjoint : ∀ n, ¬ (s.Covers n ∧ b.Covers n)
  covering : ∀ n, n < cores ↔ s.Covers n ∨ b.Covers n

theorem TwoKinds.sideBySide {cores : List α} (kinds : TwoKinds cores small big) :
    SideBySide ⟨0, small - 1⟩ ⟨small, small + big - 1⟩ cores.length := by
  obtain ⟨someSmall, someBig, p, q, _, rfl⟩ := kinds
  refine ⟨(Nat.sub_add_cancel someSmall).symm, ?_, ?_⟩
  · intro n
    simp only [CoreRange.Covers]
    omega
  · intro n
    simp only [CoreRange.Covers, List.length_append, List.length_replicate]
    omega

end Cpuinfo

open Cpuinfo
open Text.Utf8 (encode)

namespace Topology
variable (t : Topology) (choose : String × String → String)

def pinning (why : String) : Message :=
  ⟨.error, .topology, s!"affinity resolution failed: {why}; pinning to cpu 0"⟩

def miscounted (ranges : List String) : String :=
  s!"expected 2 types of heterogeneous cores, found {ranges.length} ({Text.quoteAll ranges})"

theorem pickGroup_pair (listed : t.coreRanges.result = .ok [small, big]) :
    t.pickGroup choose = ⟨t.askCoreRanges.events, choose (small, big)⟩ := by
  apply Traced.ext <;> simp [pickGroup, askCoreRanges, Answer.traced, listed]

theorem fallBack_eq (why : String) : pickGroup.fallBack why = ⟨[.logged (pinning why)], "0"⟩ := by
  have text (s : String) : (Error.affinity s).message = "affinity resolution failed: " ++ s := rfl
  have words : "; pinning to cpu 0" = "; pinning to cpu " ++ "0" := rfl
  have message : (Error.affinity s!"{why}; pinning to cpu {fallbackCpu}").message = (pinning why).text := by
    rw [text, pinning]
    simp only [toString_text, words, fallbackCpu, String.append_assoc]
  rw [pickGroup.fallBack, message]
  rfl

theorem miscounted_eq (groups : List String) :
    s!"expected 2 types of heterogeneous cores, found {groups.length} " ++
      s!"({Text.quoteAll groups})" = miscounted groups := by
  have words : " (" = " " ++ "(" := rfl
  unfold miscounted
  generalize toString groups.length = count
  generalize Text.quoteAll groups = quoted
  simp only [toString_text, words, String.append_assoc]

theorem pickGroup_other {groups : List String} (listed : t.coreRanges.result = .ok groups)
    (other : groups.length ≠ 2) : t.pickGroup choose =
      ⟨t.askCoreRanges.events ++ [.logged (pinning (miscounted groups))], "0"⟩ := by
  have result : t.askCoreRanges.value = .ok groups := listed
  have falls : t.pickGroup choose =
      t.askCoreRanges >>= fun _ => pickGroup.fallBack (miscounted groups) := by
    rw [← miscounted_eq, pickGroup]
    apply Traced.ext <;> simp only [Traced.events_bind, Traced.value_bind, result]
    all_goals
      split
      · next pair => exact absurd (by rw [Except.ok.inj pair]; rfl) other
      · next all => rw [Except.ok.inj all]
      · next failed => cases failed
  rw [falls, fallBack_eq]
  rfl

theorem pickGroup_unreadable (unlisted : t.coreRanges.result = .error fault) :
    t.pickGroup choose =
      ⟨t.askCoreRanges.events ++ [.logged (pinning s!"topology error: {fault.text}")], "0"⟩ := by
  have result : t.askCoreRanges.value = .error fault := unlisted
  have falls : t.pickGroup choose =
      t.askCoreRanges >>= fun _ => pickGroup.fallBack s!"topology error: {fault.text}" := by
    rw [pickGroup]
    apply Traced.ext <;> simp only [Traced.events_bind, Traced.value_bind, result] <;> rfl
  rw [falls, fallBack_eq]
  rfl

def listed (count : Answer Nat) (notes : List (Level × String)) (cpuinfo : String) : Topology :=
  ⟨count, notes, .ok ((ranges cpuinfo).map CoreRange.text)⟩

/-- What a machine notes of its own listing: that it tells no parts, if that is so. -/
def platformNotes (cpuinfo : String) : List (Level × String) :=
  if (ranges cpuinfo).isEmpty then
    [(.error, "NO CPU PART ENTRIES IN /proc/cpuinfo -- CANNOT GROUP CORES")] else []

def unlisted (count : Answer Nat) (notes : List (Level × String)) (fault : TopologyFault) : Topology :=
  ⟨count, notes, .error fault⟩

end Topology

def Answer.said (a : Answer α) : List Message :=
  a.notes.map fun (level, text) => ⟨level, .topology, text⟩

/-- What a kind of cores comes to: the processors, with one query, and what is said besides the notes
of the query. -/
structure Resolved (a : Affinity) (t : Topology) (processors : String) (said : List Message) : Prop where
  value : (a.resolve t).value = some processors
  asked : queries (a.resolve t).events = [.coreRanges]
  logged : logged (a.resolve t).events = t.coreRanges.said ++ said

open SchedLatency.Topology

theorem queries_map_logged (ms : List Message) : queries (ms.map .logged) = [] := by
  rw [queries, List.filterMap_map]
  exact List.filterMap_eq_nil_iff.mpr fun _ _ => rfl

theorem askCoreRanges_events (t : Topology) :
    t.askCoreRanges.events = .asked .coreRanges :: t.coreRanges.said.map .logged := by
  simp [askCoreRanges, Answer.traced, Answer.said, Function.comp_def]

theorem exists_choose {a : Affinity} (kind : a ≠ .all) (t : Topology) :
    ∃ choose, a.resolve t = some <$> t.pickGroup choose := by
  cases a with
  | all => exact absurd rfl kind
  | smallCores => exact ⟨Prod.fst, rfl⟩
  | bigCores => exact ⟨Prod.snd, rfl⟩

theorem resolved_of_pickGroup {a : Affinity} {t : Topology} {said : List Message}
    (picks : a.resolve t = some <$> t.pickGroup choose)
    (picked : t.pickGroup choose = ⟨t.askCoreRanges.events ++ said.map .logged, processors⟩) :
    Resolved a t processors said := by
  have events : (a.resolve t).events =
      .asked .coreRanges :: (t.coreRanges.said ++ said).map .logged := by
    rw [picks, Traced.events_map, picked, askCoreRanges_events, List.map_append]
    rfl
  refine ⟨?_, ?_, ?_⟩
  · rw [picks, Traced.value_map, picked]
  · rw [events]
    exact congrArg (.coreRanges :: ·) (queries_map_logged _)
  · rw [events]
    exact logged_map_logged _

/-- Where the parts change just once, small and big cores are the cores before and after the change,
and nothing is said of it. Where they do not, and where the cores cannot be listed, either kind is the
first processor, and one error is logged. Without a wish for a kind nothing is asked or said. -/
theorem resolve_kinds (cpuinfo : String) (count : Answer Nat) (notes : List (Level × String)) :
    Told (Text.lines cpuinfo.toList) (parts cpuinfo) ∧
    (∀ small big, TwoKinds (parts cpuinfo) small big →
      Resolved .smallCores (listed count notes cpuinfo) s!"0-{small - 1}" [] ∧
      Resolved .bigCores (listed count notes cpuinfo) s!"{small}-{small + big - 1}" [] ∧
      SideBySide ⟨0, small - 1⟩ ⟨small, small + big - 1⟩ (parts cpuinfo).length) ∧
    ((∀ small big, ¬ TwoKinds (parts cpuinfo) small big) → ∀ a ≠ .all,
      Resolved a (listed count notes cpuinfo) "0"
        [pinning (miscounted ((ranges cpuinfo).map CoreRange.text))]) ∧
    (∀ fault, ∀ a ≠ .all, Resolved a (unlisted count notes fault) "0"
      [pinning s!"topology error: {fault.text}"]) ∧
    (∀ t, Affinity.all.resolve t = ⟨[], none⟩) ∧
    ∀ lscpu, ∃ counted, (Platform.mk lscpu (.ok (encode cpuinfo))).topology =
      listed counted (platformNotes cpuinfo) cpuinfo := by
  refine ⟨told_iff.mpr rfl, ?_, ?_, ?_, fun t => rfl, ?_⟩
  · intro small big kinds
    have pair : ranges cpuinfo = [⟨0, small - 1⟩, ⟨small, small + big - 1⟩] :=
      groups_pair_iff.mpr ⟨small, big, kinds, rfl, rfl⟩
    have apart : (listed count notes cpuinfo).coreRanges.result =
        .ok [s!"0-{small - 1}", s!"{small}-{small + big - 1}"] := by
      rw [listed, pair, ← text_first]
      rfl
    refine ⟨resolved_of_pickGroup rfl ?_, resolved_of_pickGroup rfl ?_, kinds.sideBySide⟩
    · simp [pickGroup_pair _ _ apart]
    · simp [pickGroup_pair _ _ apart]
  · intro mixed a kind
    obtain ⟨choose, picks⟩ := exists_choose kind (listed count notes cpuinfo)
    refine resolved_of_pickGroup picks (pickGroup_other _ _ rfl ?_)
    intro two
    rw [List.length_map] at two
    obtain ⟨s, b, pair⟩ := List.length_eq_two.mp two
    obtain ⟨small, big, kinds, _⟩ := groups_pair_iff.mp pair
    exact mixed small big kinds
  · intro fault a kind
    obtain ⟨choose, picks⟩ := exists_choose kind (unlisted count notes fault)
    exact resolved_of_pickGroup picks (pickGroup_unreadable _ _ rfl)
  · intro lscpu
    refine ⟨{ result := Platform.cpuCount ⟨lscpu, .ok (encode cpuinfo)⟩ }, ?_⟩
    simp only [Platform.topology, Platform.coreRanges, Text.Utf8.decode?_encode, List.isEmpty_map]
    rfl

end SchedLatency
