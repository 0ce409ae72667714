import Mathlib.Data.List.Forall2
import Mathlib.Data.List.Perm.Subperm
import SchedLatency.Host
import SchedLatency.Proofs.CoreGroups
import SchedLatency.Proofs.Encoding
import SchedLatency.Proofs.Transcript

/-! The numbers of cores. A listing tells each core's number beside its part, but the groups count
the cores by their place in the listing. A core that has been unplugged leaves a gap in the numbers,
and the ranges after the gap name cores that are not there or are of another part. Main statement:
`ranges_nameCores`, that this is the only way to go wrong. -/
namespace SchedLatency.Cpuinfo

open Text
open Text.Utf8 (encode)

structure Core where
  number : Nat
  part : List Char
  deriving DecidableEq, Repr

inductive ProcessorLine : List Char → Nat → Prop where
  | intro (beforeColon : Blank w) (afterColon : Blank w') (number : Numeral digits n)
      (after : Blank w'') :
      ProcessorLine ("processor".toList ++ (w ++ ':' :: (w' ++ (digits ++ w'')))) n

/-- Just one of the lines tells something, and this is what it tells. -/
def ToldOnce (Tells : List Char → α → Prop) (ls : List (List Char)) (a : α) : Prop :=
  ∃ before line after, ls = before ++ line :: after ∧ Tells line a ∧
    ∀ other ∈ before ++ after, ∀ b, ¬ Tells other b

structure Block (ls : List (List Char)) (core : Core) : Prop where
  number : ToldOnce ProcessorLine ls core.number
  part : ToldOnce PartLine ls core.part

/-- A text with a block for each core, in the order of their numbers. -/
structure Listing (cpuinfo : String) (cores : List Core) : Prop where
  blocks : ∃ blocks, lines cpuinfo.toList = blocks.flatten ∧ List.Forall₂ Block blocks cores
  ascending : cores.Pairwise (·.number < ·.number)

/-- The ranges name the cores by their numbers: those that are there, each once, and of one part in
each range. -/
structure NameCores (ranges : List CoreRange) (cores : List Core) : Prop where
  present : ∀ r ∈ ranges, ∀ n, r.Covers n → ∃ c ∈ cores, c.number = n
  once : ∀ c ∈ cores, ranges.countP (·.Covers c.number) = 1
  alike : ∀ r ∈ ranges, ∀ c ∈ cores, ∀ c' ∈ cores, r.Covers c.number → r.Covers c'.number →
    c.part = c'.part

/-- The cores are numbered from zero, and none is left out. -/
def Unbroken (cores : List Core) : Prop := cores.map Core.number = List.range cores.length

/-- Both ranges name cores that are there, all of one part each, and the parts differ. -/
def TellApart (small big : CoreRange) (cores : List Core) : Prop :=
  ∃ part part', part ≠ part' ∧
    (∀ n, small.Covers n → ∃ c ∈ cores, c.number = n ∧ c.part = part) ∧
    ∀ n, big.Covers n → ∃ c ∈ cores, c.number = n ∧ c.part = part'

theorem ToldOnce.filterMap {Tells : List Char → α → Prop} {read? : List Char → Option α}
    (reads : ∀ line a, read? line = some a ↔ Tells line a) (once : ToldOnce Tells ls a) :
    ls.filterMap read? = [a] := by
  obtain ⟨before, line, after, rfl, tells, silent⟩ := once
  have nothing (other) (member : other ∈ before ++ after) : read? other = none := by
    apply Option.eq_none_iff_forall_ne_some.mpr
    intro b read
    exact silent other member b ((reads other b).mp read)
  have ahead : before.filterMap read? = [] :=
    List.filterMap_eq_nil_iff.mpr fun other member => nothing other (List.mem_append_left _ member)
  have behind : after.filterMap read? = [] :=
    List.filterMap_eq_nil_iff.mpr fun other member => nothing other (List.mem_append_right _ member)
  rw [List.filterMap_append, ahead, List.filterMap_cons_some ((reads line a).mpr tells), behind,
    List.nil_append]

section Listed
variable {cpuinfo : String} {cores : List Core} (listing : Listing cpuinfo cores)

include listing in
theorem Listing.parts_eq : parts cpuinfo = cores.map Core.part := by
  obtain ⟨blocks, cut, each⟩ := listing.blocks
  rw [parts, cut]
  clear cut listing
  induction each with
  | nil => rfl
  | cons block _ ih =>
    rw [List.flatten_cons, List.filterMap_append, ih,
      block.part.filterMap fun _ _ => part?_eq_some_iff, List.map_cons, List.singleton_append]

/-- Ascending numbers that miss none below their count are those below it. -/
theorem unbroken_iff (ascending : cores.Pairwise (·.number < ·.number)) :
    Unbroken cores ↔ ∀ n < cores.length, ∃ c ∈ cores, c.number = n := by
  constructor
  · intro unbroken n within
    have member : n ∈ cores.map Core.number := by
      rw [unbroken]
      exact List.mem_range.mpr within
    exact List.mem_map.mp member
  · intro present
    have sorted : (cores.map Core.number).Pairwise (· < ·) := List.pairwise_map.mpr ascending
    have within : List.range cores.length ⊆ cores.map Core.number := by
      intro n member
      obtain ⟨c, listed, rfl⟩ := present n (List.mem_range.mp member)
      exact List.mem_map_of_mem listed
    have same : (List.range cores.length).Perm (cores.map Core.number) :=
      (List.subperm_of_subset List.nodup_range within).perm_of_length_le (by simp)
    exact same.symm.eq_of_pairwise (fun _ _ _ _ lt gt => absurd lt (Nat.lt_asymm gt)) sorted
      List.pairwise_lt_range

theorem Unbroken.getElem?_eq_some_iff (unbroken : Unbroken cores) {n : Nat} {c : Core} :
    cores[n]? = some c ↔ c ∈ cores ∧ c.number = n := by
  have number_eq {i : Nat} {c : Core} (place : cores[i]? = some c) : c.number = i := by
    have numbered : (cores.map Core.number)[i]? = (List.range cores.length)[i]? := by rw [unbroken]
    obtain ⟨within, _⟩ := List.getElem?_eq_some_iff.mp place
    rw [List.getElem?_map, place, List.getElem?_range within] at numbered
    exact Option.some.inj numbered
  constructor
  · intro place
    exact ⟨List.mem_of_getElem? place, number_eq place⟩
  · rintro ⟨member, rfl⟩
    obtain ⟨i, place⟩ := List.mem_iff_getElem?.mp member
    rwa [number_eq place]

include listing

theorem Listing.lt_length_iff : n < (parts cpuinfo).length ↔ n < cores.length := by
  rw [listing.parts_eq, List.length_map]

/-- A core whose place lies in a range of cores of one part. -/
theorem Listing.exists_core (unbroken : Unbroken cores) (place : (parts cpuinfo)[n]? = some part) :
    ∃ c ∈ cores, c.number = n ∧ c.part = part := by
  rw [listing.parts_eq, List.getElem?_map] at place
  obtain ⟨c, found, rfl⟩ := Option.map_eq_some_iff.mp place
  obtain ⟨member, number⟩ := unbroken.getElem?_eq_some_iff.mp found
  exact ⟨c, member, number, rfl⟩

theorem Listing.nameCores (unbroken : Unbroken cores) : NameCores (ranges cpuinfo) cores := by
  refine ⟨?_, ?_, ?_⟩
  · intro r member n covers
    exact (unbroken_iff listing.ascending).mp unbroken n
      (listing.lt_length_iff.mp (lt_of_covers member covers))
  · intro c member
    have place := unbroken.getElem?_eq_some_iff.mpr ⟨member, rfl⟩
    obtain ⟨within, _⟩ := List.getElem?_eq_some_iff.mp place
    rw [countP_ranges, if_pos (listing.lt_length_iff.mpr within)]
  · intro r member c listed c' listed' covers covers'
    obtain ⟨part, same⟩ := exists_part member
    have part_eq {c : Core} (listed : c ∈ cores) (covers : r.Covers c.number) : c.part = part := by
      have place := same c.number covers
      rw [listing.parts_eq, List.getElem?_map,
        unbroken.getElem?_eq_some_iff.mpr ⟨listed, rfl⟩] at place
      exact Option.some.inj place
    rw [part_eq listed covers, part_eq listed' covers']

/-- The ranges cover as many numbers as there are cores, from zero on. -/
theorem Listing.unbroken (present : ∀ r ∈ ranges cpuinfo, ∀ n, r.Covers n → ∃ c ∈ cores, c.number = n) :
    Unbroken cores := by
  apply (unbroken_iff listing.ascending).mpr
  intro n within
  obtain ⟨r, member, covers⟩ := exists_covers (listing.lt_length_iff.mpr within)
  exact present r member n covers

theorem Listing.tellApart_iff (pair : ranges cpuinfo = [small, big]) :
    TellApart small big cores ↔ Unbroken cores := by
  constructor
  · rintro ⟨part, part', _, ofSmall, ofBig⟩
    apply listing.unbroken
    intro r member n covers
    rw [pair, List.mem_pair] at member
    rcases member with rfl | rfl
    · obtain ⟨c, listed, number, _⟩ := ofSmall n covers
      exact ⟨c, listed, number⟩
    · obtain ⟨c, listed, number, _⟩ := ofBig n covers
      exact ⟨c, listed, number⟩
  · intro unbroken
    obtain ⟨part, part', differ, ofSmall, ofBig⟩ := exists_parts_of_pair pair
    exact ⟨part, part', differ, fun n covers => listing.exists_core unbroken (ofSmall n covers),
      fun n covers => listing.exists_core unbroken (ofBig n covers)⟩

end Listed

/-- Two groups are taken as they are, the first for the small cores. -/
theorem resolve_pair {p : Platform} (read : p.cpuinfo = .ok (encode cpuinfo))
    (pair : ranges cpuinfo = [small, big]) :
    (Affinity.smallCores.resolve p.topology).value = some small.text ∧
      (Affinity.bigCores.resolve p.topology).value = some big.text := by
  have listed : p.topology.coreRanges.result = .ok [small.text, big.text] := by
    simp [Platform.topology, Platform.coreRanges, read, Utf8.decode?_encode, pair]
  constructor <;>
    simp [Affinity.resolve, Topology.pickGroup, Topology.askCoreRanges, Answer.traced, listed]

theorem ProcessorLine.head? (line : ProcessorLine l n) : l.head? = some 'p' := by
  cases line
  rfl

theorem PartLine.head? (line : PartLine l part) : l.head? = some 'C' := by
  cases line
  rfl

namespace Core

structure Plain (c : Core) : Prop where
  number : c.number < wordLimit
  part : ∃ digits, c.part = '0' :: 'x' :: digits ∧ digits ≠ [] ∧ ∀ d ∈ digits, isHex d = true

def field (label : String) (value : List Char) : List Char := label.toList ++ value

def processorLine (c : Core) : List Char := field "processor\t: " (writeNumeral 0 c.number)

def partLine (c : Core) : List Char := field "CPU part\t: " c.part

def block (c : Core) : List (List Char) := [c.processorLine, c.partLine, []]

end Core

def listingOf (cores : List Core) : String :=
  String.ofList ((cores.flatMap Core.block).flatMap (· ++ ['\n']))

section Written
variable {c : Core} (plain : c.Plain)
include plain

theorem Core.Plain.processorLine : ProcessorLine c.processorLine c.number := by
  have tab : Blank ['\t'] := by decide
  have space : Blank [' '] := by decide
  have nothing : Blank [] := by decide
  have label : "processor\t: ".toList = "processor".toList ++ ['\t', ':', ' '] := by decide
  rw [Core.processorLine, field, label]
  simpa using ProcessorLine.intro tab space (numeral_writeNumeral 0 plain.number) nothing

theorem Core.Plain.partLine : PartLine c.partLine c.part := by
  have tab : Blank ['\t'] := by decide
  have space : Blank [' '] := by decide
  have nothing : Blank [] := by decide
  have label : "CPU part\t: ".toList = "CPU part".toList ++ ['\t', ':', ' '] := by decide
  obtain ⟨digits, same, nonempty, hex⟩ := plain.part
  rw [Core.partLine, field, label, same]
  simpa using PartLine.intro (by simp) tab (by simp) space nonempty hex nothing

theorem Core.Plain.block : Block c.block c := by
  -- The two lines begin differently, and the third does not begin at all.
  constructor
  · refine ⟨[], _, _, rfl, plain.processorLine, ?_⟩
    intro other member n line
    have head := line.head?
    simp only [List.nil_append, List.mem_pair] at member
    rcases member with rfl | rfl
    · simp [plain.partLine.head?] at head
    · simp at head
  · refine ⟨[_], _, _, rfl, plain.partLine, ?_⟩
    intro other member n line
    have head := line.head?
    simp only [List.singleton_append, List.mem_pair] at member
    rcases member with rfl | rfl
    · simp [plain.processorLine.head?] at head
    · simp at head

/-- A line of a block holds no line feed and does not end in a carriage return. -/
theorem Core.Plain.line (member : l ∈ c.block) : '\n' ∉ l ∧ l.getLast? ≠ some '\r' := by
  have single {label : String} {value : List Char} (words : '\n' ∉ label.toList)
      (nonempty : value ≠ []) (solid : ∀ d ∈ value, isBlank d = false) :
      '\n' ∉ field label value ∧ (field label value).getLast? ≠ some '\r' := by
    rw [field, List.getLast?_append_of_ne_nil _ nonempty, List.mem_append, not_or]
    refine ⟨⟨words, fun feed => ?_⟩, fun last => ?_⟩
    · exact absurd (solid _ feed) (by decide)
    · exact absurd (solid _ (List.mem_of_getLast? last)) (by decide)
  simp only [Core.block, List.mem_cons, List.not_mem_nil, or_false] at member
  rcases member with rfl | rfl | rfl
  · have number := numeral_writeNumeral 0 plain.number
    exact single (by decide) number.nonempty number.solid
  · obtain ⟨digits, same, _, hex⟩ := plain.part
    refine single (by decide) (by simp [same]) ?_
    rw [same]
    have solid {d : Char} (digit : isHex d = true) : isBlank d = false := by
      rw [← Bool.not_eq_true]
      intro blank
      rw [not_isHex_of_isBlank _ blank] at digit
      cases digit
    simpa using ⟨by decide, by decide, fun d member => solid (hex d member)⟩
  · simp

end Written

theorem lines_ended (ls : List (List Char)) (single : ∀ l ∈ ls, '\n' ∉ l ∧ l.getLast? ≠ some '\r') :
    lines (ls.flatMap (· ++ ['\n'])) = ls := by
  apply Eq.symm
  apply lined_iff.mp
  induction ls with
  | nil => exact .empty
  | cons l ls ih =>
    obtain ⟨single, rest⟩ := List.forall_mem_cons.mp single
    simpa using Lined.lf single.1 single.2 (ih rest)

theorem listing_listingOf (plain : ∀ c ∈ cores, c.Plain)
    (ascending : cores.Pairwise (·.number < ·.number)) : Listing (listingOf cores) cores := by
  refine ⟨⟨cores.map Core.block, ?_, ?_⟩, ascending⟩
  · have single : ∀ l ∈ cores.flatMap Core.block, '\n' ∉ l ∧ l.getLast? ≠ some '\r' := by
      intro l member
      obtain ⟨c, listed, within⟩ := List.mem_flatMap.mp member
      exact (plain c listed).line within
    rw [listingOf, String.toList_ofList, lines_ended _ single, List.flatMap_def]
  · rw [List.forall₂_map_left_iff, List.forall₂_same]
    intro c listed
    exact (plain c listed).block

/-- The ranges name the cores of a listing if and only if the cores are numbered from zero without a
gap, and only then are the cores of two kinds told apart for the probe. -/
theorem ranges_nameCores {cpuinfo : String} {cores : List Core} (listing : Listing cpuinfo cores) :
    (NameCores (ranges cpuinfo) cores ↔ Unbroken cores) ∧
    ∀ p : Platform, p.cpuinfo = .ok (encode cpuinfo) →
      ∀ small big, ranges cpuinfo = [small, big] →
        (Affinity.smallCores.resolve p.topology).value = some small.text ∧
        (Affinity.bigCores.resolve p.topology).value = some big.text ∧
        (TellApart small big cores ↔ Unbroken cores) := by
  refine ⟨⟨fun names => listing.unbroken names.present, listing.nameCores⟩, ?_⟩
  intro p read small big pair
  obtain ⟨ofSmall, ofBig⟩ := resolve_pair read pair
  exact ⟨ofSmall, ofBig, listing.tellApart_iff pair⟩

def bigLittle : List Core :=
  [⟨0, ['0', 'x', 'd', '0', '3']⟩, ⟨1, ['0', 'x', 'd', '0', '9']⟩, ⟨2, ['0', 'x', 'd', '0', '9']⟩]

theorem ranges_nameCores_bigLittle :
    NameCores (ranges (listingOf bigLittle)) bigLittle ∧ TellApart ⟨0, 0⟩ ⟨1, 2⟩ bigLittle := by
  have plain : ∀ c ∈ bigLittle, c.Plain := by
    intro c member
    simp only [bigLittle, List.mem_cons, List.not_mem_nil, or_false] at member
    rcases member with rfl | rfl | rfl <;>
      exact ⟨by decide, _, rfl, by decide, List.all_eq_true.mp (by decide)⟩
  have pair : ranges (listingOf bigLittle) = [⟨0, 0⟩, ⟨1, 2⟩] := by decide +kernel
  obtain ⟨names, pinned⟩ := ranges_nameCores (listing_listingOf plain (by decide))
  obtain ⟨_, _, apart⟩ :=
    pinned ⟨.error .notFound, .ok (encode (listingOf bigLittle))⟩ rfl _ _ pair
  exact ⟨names.mpr rfl, apart.mpr rfl⟩

/-- A small core and a big one. The core between them has been unplugged. -/
def unplugged : List Core := [⟨0, ['0', 'x', 'd', '0', '5']⟩, ⟨2, ['0', 'x', 'd', '0', 'b']⟩]

/-- The probe is pinned to a core that is not there. -/
theorem ranges_unplugged : Listing (listingOf unplugged) unplugged ∧
    ¬ NameCores (ranges (listingOf unplugged)) unplugged ∧
    (Affinity.bigCores.resolve (Platform.mk (.error .notFound)
      (.ok (encode (listingOf unplugged)))).topology).value = some "1-1" := by
  have plain : ∀ c ∈ unplugged, c.Plain := by
    intro c member
    simp only [unplugged, List.mem_cons, List.not_mem_nil, or_false] at member
    rcases member with rfl | rfl <;>
      exact ⟨by decide, _, rfl, by decide, List.all_eq_true.mp (by decide)⟩
  have pair : ranges (listingOf unplugged) = [⟨0, 0⟩, ⟨1, 1⟩] := by decide +kernel
  refine ⟨listing_listingOf plain (by decide), ?_, (resolve_pair rfl pair).2⟩
  intro names
  rw [pair] at names
  obtain ⟨c, listed, number⟩ := names.present ⟨1, 1⟩ (by simp) 1 (by decide)
  revert c
  decide

end SchedLatency.Cpuinfo
