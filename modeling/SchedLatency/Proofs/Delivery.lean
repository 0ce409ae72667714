import SchedLatency.Cli.Machine

/-! A report is delivered as the bytes of its rendering, however it is cut into pieces on the way, and
what becomes of it on a sink that may run out of room. The sink takes of each write what it has room
for; the writer goes on with the rest until a write fails or nothing is taken. However the report is
cut into writes, the same bytes arrive and the same is told. Main statements:
`Sink.writeAll_eq_write`, `Cli.deliver_taken` and `write_anySink`. -/
namespace SchedLatency

open Text (Bytes)
open Text.Utf8 (encode)

namespace Text.Utf8

theorem encode_append (s t : String) : encode (s ++ t) = encode s ++ encode t := by
  rw [encode, String.toList_append, List.flatMap_append, encode, encode]

theorem encode_join (pieces : List String) :
    encode (String.join pieces) = (pieces.map encode).flatten := by
  induction pieces with
  | nil => rfl
  | cons piece pieces ih => rw [String.join_cons, encode_append, ih, List.map_cons, List.flatten_cons]

end Text.Utf8

namespace Sink

theorem write_nil (s : Sink) : s.write [] = (.ok (), s) := by
  unfold write
  cases room : s.room with
  | none => simp
  | some r => simp [← room]

theorem write_append (s : Sink) (a b : Bytes) :
    s.write (a ++ b) =
      match s.write a with
      | (.ok (), s) => s.write b
      | failed => failed := by
  have assoc (x y : Bytes) : s.taken ++ (x ++ y) = s.taken ++ x ++ y := by
    apply Array.ext'
    simp
  unfold write
  cases room : s.room with
  | none => simp [room, assoc]
  | some r =>
    by_cases first : a.length ≤ r
    · by_cases both : a.length + b.length ≤ r
      · have second : b.length ≤ r - a.length := by omega
        have left : r - (a.length + b.length) = r - a.length - b.length := by omega
        simp [first, both, second, left, assoc]
      · have second : ¬ b.length ≤ r - a.length := by omega
        simp [first, both, second, List.take_append, List.take_of_length_le first, assoc]
    · have both : ¬ a.length + b.length ≤ r := by omega
      have within : r - a.length = 0 := by omega
      simp [first, both, List.take_append, within]

theorem writeAll_eq_write (s : Sink) (pieces : List Bytes) :
    s.writeAll pieces = s.write pieces.flatten := by
  induction pieces generalizing s with
  | nil => rw [List.flatten_nil, write_nil, writeAll_nil]
  | cons piece pieces ih =>
    rw [List.flatten_cons, write_append, writeAll]
    rcases s.write piece with ⟨_ | _, rest⟩
    · rfl
    · exact ih rest

theorem writeAll_append (s : Sink) (a b : List Bytes) :
    s.writeAll (a ++ b) =
      match s.writeAll a with
      | (.ok (), s) => s.writeAll b
      | failed => failed := by
  simp only [writeAll_eq_write, List.flatten_append, write_append]

theorem print_append (s : Sink) (a b : List String) :
    s.print (a ++ b) =
      match s.print a with
      | (.ok (), s) => s.print b
      | failed => failed := by
  simp only [print, List.map_append, writeAll_append]

theorem write_fresh_eq_ok_iff {m : Medium} {bytes : Bytes} :
    (m.fresh.write bytes).1 = .ok () ↔ ∀ room, m.room = some room → bytes.length ≤ room := by
  unfold write Medium.fresh
  cases room : m.room with
  | none => simp
  | some r => by_cases fits : bytes.length ≤ r <;> simp [fits]

end Sink

/-- A medium takes bytes if it has room for them and can be flushed. -/
structure Medium.Takes (m : Medium) (bytes : Bytes) : Prop where
  room : ∀ room, m.room = some room → bytes.length ≤ room
  flush : m.flushFault = none

namespace Report

/-- A report is one write of its rendering, and is flushed if that succeeds. -/
theorem write_eq (format : Format) (stats : List ThreadStats) (sink : Sink) :
    write format stats sink =
      match sink.write (encode (render format stats)) with
      | (.ok (), sink) => (sink.flush.1.mapError .os, sink.flush.2)
      | (.error cause, sink) => (.error (.os cause), sink) := by
  have all : sink.write (encode (render format stats)) =
      sink.writeAll ((pieces format stats).map encode) := by
    rw [Sink.writeAll_eq_write, render, Text.Utf8.encode_join]
  rw [all]
  rfl

theorem write_taken {medium : Medium} {format : Format} {stats : List ThreadStats}
    (takes : medium.Takes (encode (render format stats))) :
    ∃ sink, write format stats medium.fresh = (.ok (), sink) ∧
      sink.taken.toList = encode (render format stats) := by
  have written : ∃ sink, medium.fresh.write (encode (render format stats)) = (.ok (), sink) ∧
      sink.taken.toList = encode (render format stats) ∧ sink.flushFault = none := by
    unfold Sink.write Medium.fresh
    cases room : medium.room with
    | none => exact ⟨_, rfl, by simp, takes.flush⟩
    | some r => exact ⟨_, if_pos (takes.room r room), by simp, takes.flush⟩
  obtain ⟨sink, all, taken, fault⟩ := written
  refine ⟨sink.flush.2, ?_, ?_⟩
  · rw [write_eq, all]
    simp [Sink.flush, fault]
  · rw [← taken, Sink.flush]
    simp [fault]

end Report

namespace Cli

theorem deliver_taken {m : Machine} {args : OutputArgs} {stats : List ThreadStats} {medium : Medium}
    (opens : m.openOutput args.path = .ok medium)
    (takes : medium.Takes (encode (Report.render args.format stats))) :
    deliver m args stats =
      { result := .ok (), output := .at args.path (encode (Report.render args.format stats)) } := by
  obtain ⟨sink, written, taken⟩ := Report.write_taken takes
  rw [deliver, opens]
  dsimp only
  rw [written, taken]
  rfl

end Cli

/-- How a full sink answers a write. The error that it may fail with is not that the write was
interrupted: that would ask for the same write once more. -/
inductive Full where
  | fails (cause : OsError)
  | takesNothing

def Full.cause : Full → OsError
  | .fails cause => cause
  | .takesNothing => .nothingTaken

namespace Sink

/-- One write, and how many of the bytes it took. -/
def offer (full : Full) (s : Sink) (bytes : Bytes) : Except OsError Nat × Sink :=
  match s.room with
  | none => (.ok bytes.length, { s with taken := s.taken ++ bytes })
  | some 0 =>
    match full with
    | .fails cause => (.error cause, s)
    | .takesNothing => (.ok 0, s)
  | some room => (.ok (min room bytes.length),
      { s with room := some (room - bytes.length), taken := s.taken ++ bytes.take room })

/-- Writes what has not been taken yet, until there is nothing left. Every error ends it, as none of
them is an interruption. -/
def insist (full : Full) (s : Sink) : Bytes → Except OsError Unit × Sink
  | [] => (.ok (), s)
  | byte :: bytes =>
    match s.offer full (byte :: bytes) with
    | (.error cause, s) => (.error cause, s)
    | (.ok 0, s) => (.error .nothingTaken, s)
    | (.ok (n + 1), s) => s.insist full (bytes.drop n)
termination_by bytes => bytes.length
decreasing_by
  simp only [List.length_drop, List.length_cons]
  omega

/-- Writes the pieces up to the first failure, and flushes after the last of them. -/
def put (full : Full) (s : Sink) : List Bytes → Except Error Unit × Sink
  | [] => let (flushed, s) := s.flush; (flushed.mapError .os, s)
  | piece :: more =>
    match s.insist full piece with
    | (.ok (), s) => s.put full more
    | (.error cause, s) => (.error (.os cause), s)

section Insist
variable {full : Full} {s : Sink}

theorem insist_of_full (none : s.room = some 0) (nonempty : bytes ≠ []) :
    s.insist full bytes = (.error full.cause, s) := by
  obtain ⟨byte, bytes, rfl⟩ := List.exists_cons_of_ne_nil nonempty
  have answer : s.offer full (byte :: bytes) =
      match full with
      | .fails cause => (.error cause, s)
      | .takesNothing => (.ok 0, s) := by
    simp [offer, none]
  rw [insist, answer]
  cases full <;> rfl

theorem insist_of_fits (fits : ∀ room, s.room = some room → bytes.length ≤ room) :
    s.insist full bytes = s.write bytes := by
  cases bytes with
  | nil => rw [insist, write_nil]
  | cons byte bytes =>
    have answer : s.offer full (byte :: bytes) =
        (.ok (bytes.length + 1), (s.write (byte :: bytes)).2) ∧
        (s.write (byte :: bytes)).1 = .ok () := by
      unfold offer write
      cases room : s.room with
      | none => simp
      | some room' =>
        have enough := fits room' room
        cases room' with
        | zero => simp at enough
        | succ room' =>
          simp only [List.length_cons, Nat.add_le_add_iff_right] at enough
          simp [enough, List.take_of_length_le]
    rw [insist, answer.1]
    simp only [List.drop_length, insist]
    exact Prod.ext answer.2.symm rfl

theorem insist_of_not_fits (room : s.room = some room') (tooMuch : room' < bytes.length) :
    s.insist full bytes =
      (.error full.cause, { s with room := some 0, taken := s.taken ++ bytes.take room' }) := by
  obtain ⟨byte, bytes, rfl⟩ := List.exists_cons_of_length_pos (Nat.zero_lt_of_lt tooMuch)
  cases room' with
  | zero =>
    rw [insist_of_full room (by simp)]
    simp [← room]
  | succ room' =>
    have answer : s.offer full (byte :: bytes) = (.ok (room' + 1),
        { s with room := some 0, taken := s.taken ++ (byte :: bytes).take (room' + 1) }) := by
      simp only [List.length_cons] at tooMuch
      have least : min (room' + 1) (bytes.length + 1) = room' + 1 := by omega
      have none : room' + 1 - (bytes.length + 1) = 0 := by omega
      simp [offer, room, least, none]
    have left : bytes.drop room' ≠ [] := by
      simp only [List.length_cons] at tooMuch
      rw [ne_eq, List.drop_eq_nil_iff]
      omega
    rw [insist, answer]
    dsimp only
    rw [insist_of_full rfl left]

/-- To go on until all is taken is one write to a sink that refuses in its own words. -/
theorem insist_eq_write (refuses : s.refusal = full.cause) (bytes : Bytes) :
    s.insist full bytes = s.write bytes := by
  by_cases fits : ∀ room, s.room = some room → bytes.length ≤ room
  · exact insist_of_fits fits
  · obtain ⟨room', room, tooMuch⟩ : ∃ room', s.room = some room' ∧ room' < bytes.length := by
      simpa using fits
    rw [insist_of_not_fits room tooMuch, write, room, refuses]
    simp [tooMuch]

theorem refusal_write (s : Sink) (bytes : Bytes) : (s.write bytes).2.refusal = s.refusal := by
  unfold write
  split
  · rfl
  · split <;> rfl

theorem put_eq_write (refuses : s.refusal = full.cause) (pieces : List Bytes) :
    s.put full pieces =
      match s.write pieces.flatten with
      | (.ok (), s) => (s.flush.1.mapError .os, s.flush.2)
      | (.error cause, s) => (.error (.os cause), s) := by
  induction pieces generalizing s with
  | nil =>
    rw [List.flatten_nil, write_nil]
    rfl
  | cons piece pieces ih =>
    have still := (refusal_write s piece).trans refuses
    rw [put, insist_eq_write refuses, List.flatten_cons, write_append]
    cases written : s.write piece with
    | mk result rest =>
      rw [written] at still
      cases result with
      | error cause => rfl
      | ok => exact ih still

end Insist
end Sink

/-- A medium with so much room, that answers in these ways when it is full and when it is flushed. -/
def Full.medium (full : Full) (room : Option Nat) (flushFault : Option OsError) : Medium :=
  ⟨room, full.cause, flushFault⟩

/-- What has reached a sink of these bytes, and what is told of it. -/
structure Settled (bytes : Bytes) (full : Full) (room : Option Nat) (flushFault : Option OsError)
    (result : Except Error Unit) (sink : Sink) : Prop where
  taken : sink.taken.toList = bytes.take (room.getD bytes.length)
  /-- The failure is the sink's own, or it is that a write came to nothing. -/
  cut : ∀ n, room = some n → n < bytes.length → sink.flushes = 0 ∧
    (∀ cause, full = .fails cause → result = .error (.os cause)) ∧
    (full = .takesNothing → result = .error (.os ⟨"failed to write whole buffer"⟩))
  whole : (∀ n, room = some n → bytes.length ≤ n) → sink.flushes = 1 ∧
    (flushFault = none → result = .ok ()) ∧
    ∀ cause, flushFault = some cause → result = .error (.os cause)
  ok : result = .ok () → sink.taken.toList = bytes ∧ sink.flushes = 1

namespace Report
variable {full : Full} {room : Option Nat} {flushFault : Option OsError} {format : Format}
  {stats : List ThreadStats}

theorem write_of_fits
    (fits : ∀ n, room = some n → (encode (render format stats)).length ≤ n) :
    ∃ left, write format stats (full.medium room flushFault).fresh =
      (match flushFault with
        | none => .ok ()
        | some cause => .error (.os cause),
      { full.medium left flushFault with
        taken := (encode (render format stats)).toArray, flushes := 1 }) := by
  rw [write_eq]
  generalize encode (render format stats) = bytes at fits
  have written : ∃ left, (full.medium room flushFault).fresh.write bytes =
      (.ok (), { full.medium left flushFault with taken := bytes.toArray }) := by
    unfold Sink.write Medium.fresh Full.medium
    cases room with
    | none => exact ⟨none, by simp⟩
    | some n => exact ⟨some (n - bytes.length), by simp [fits n rfl]⟩
  obtain ⟨left, written⟩ := written
  refine ⟨left, ?_⟩
  rw [written]
  cases flushFault <;> rfl

theorem write_of_not_fits (tooMuch : n < (encode (render format stats)).length) :
    write format stats (full.medium (some n) flushFault).fresh = (.error (.os full.cause),
      { full.medium (some 0) flushFault with
        taken := ((encode (render format stats)).take n).toArray }) := by
  rw [write_eq]
  generalize encode (render format stats) = bytes at tooMuch
  have written : (full.medium (some n) flushFault).fresh.write bytes = (.error full.cause,
      { full.medium (some 0) flushFault with taken := (bytes.take n).toArray }) := by
    unfold Sink.write Medium.fresh Full.medium
    simp [tooMuch]
  rw [written]

theorem settled_write (full : Full) (room : Option Nat) (flushFault : Option OsError)
    (format : Format) (stats : List ThreadStats) :
    Settled (encode (render format stats)) full room flushFault
      (write format stats (full.medium room flushFault).fresh).1
      (write format stats (full.medium room flushFault).fresh).2 := by
  by_cases fits : ∀ n, room = some n → (encode (render format stats)).length ≤ n
  · obtain ⟨left, written⟩ := write_of_fits fits
    rw [written]
    refine ⟨?_, ?_, ?_, ?_⟩
    · cases room with
      | none => simp
      | some n => simp [List.take_of_length_le (fits n rfl)]
    · intro n limit tooMuch
      exact absurd (fits n limit) (Nat.not_le_of_lt tooMuch)
    · intro _
      cases flushFault <;> simp
    · intro _
      exact ⟨rfl, rfl⟩
  · obtain ⟨n, rfl, tooMuch⟩ : ∃ n, room = some n ∧ n < (encode (render format stats)).length := by
      simpa using fits
    rw [write_of_not_fits tooMuch]
    refine ⟨rfl, ?_, fun all => absurd all fits, ?_⟩
    · intro _ _ _
      cases full <;> simp [Full.cause, OsError.nothingTaken]
    · intro success
      cases success

/-- On every sink just what there is room for arrives, the failure is the sink's own, and the report
is flushed once if all of it has arrived. However the rendering is cut into writes, it comes to the
same. -/
theorem write_anySink (full : Full) (room : Option Nat) (flushFault : Option OsError)
    (format : Format) (stats : List ThreadStats) :
    Settled (encode (render format stats)) full room flushFault
      (write format stats (full.medium room flushFault).fresh).1
      (write format stats (full.medium room flushFault).fresh).2 ∧
    ∀ pieces : List Bytes, pieces.flatten = encode (render format stats) →
      (full.medium room flushFault).fresh.put full pieces =
        write format stats (full.medium room flushFault).fresh := by
  refine ⟨settled_write full room flushFault format stats, ?_⟩
  intro pieces cut
  rw [write_eq, ← cut]
  exact Sink.put_eq_write rfl pieces

theorem write_anySink_cut :
    (write .json [] (Full.takesNothing.medium (some 5) none).fresh).1 =
      .error (.os ⟨"failed to write whole buffer"⟩) ∧
    (Full.takesNothing.medium (some 5) none).fresh.put .takesNothing
        [encode "\x7b\"st", encode "ats\":[]\x7d\n"] =
      write .json [] (Full.takesNothing.medium (some 5) none).fresh := by
  obtain ⟨settled, pieces⟩ := write_anySink .takesNothing (some 5) none .json []
  refine ⟨(settled.cut 5 rfl (by decide)).2.2 rfl, pieces _ ?_⟩
  decide

end Report
end SchedLatency
