import SchedLatency.Text.Utf8

/-! Line feeds in the reading of bytes that may be damaged. A line feed byte ends whatever character
was begun before it and is read as itself, and nothing else is read as a line feed. Main statements:
`lossy_append_newline` and `newline_mem_lossy_iff`. -/
namespace SchedLatency.Text.Utf8

theorem eq_of_ofNat_eq_newline {n : Nat} (h : Char.ofNat n = '\n') : n = 10 := by
  by_cases valid : n.isValidChar
  · rw [Char.ofNat, dif_pos valid] at h
    exact congrArg Char.toNat h
  · rw [Char.ofNat, dif_neg valid] at h
    exact absurd h (by decide)

/-- No ASCII byte continues the character begun, and it will not be an ASCII character. -/
structure Begun.Multibyte (p : Begun) : Prop where
  low : 0x80 ≤ p.low
  value : 1 ≤ p.value ∨ 2 ≤ p.owed ∧ 0x90 ≤ p.low

theorem eq_or_pos_of_le {b least : UInt8} (h : least.toNat ≤ b.toNat) :
    b = least ∨ b ≠ least ∧ 1 ≤ b.toNat - least.toNat := by
  by_cases same : b = least
  · exact .inl same
  · have apart : b.toNat ≠ least.toNat := fun equal => same (UInt8.toNat_inj.mp equal)
    exact .inr ⟨same, by omega⟩

theorem lead_multibyte (h : lead b = .begun p) : p.Multibyte := by
  simp only [lead, UInt8.lt_iff_toNat_lt] at h
  split at h
  · cases h
  split at h
  · cases h
  next _ ascii =>
  split at h
  · rw [← Lead.begun.inj h]
    refine ⟨UInt8.le_refl _, .inl ?_⟩
    simp at ascii ⊢
    omega
  next _ two =>
  -- The two first bytes that leave a value of zero ask for a larger second byte.
  split at h
  · rw [← Lead.begun.inj h]
    rcases eq_or_pos_of_le (Nat.le_of_not_lt two) with rfl | ⟨apart, positive⟩
    · exact ⟨by decide, .inr ⟨by decide, by decide⟩⟩
    · exact ⟨by simp [apart], .inl positive⟩
  next _ three =>
  split at h
  · rw [← Lead.begun.inj h]
    rcases eq_or_pos_of_le (Nat.le_of_not_lt three) with rfl | ⟨apart, positive⟩
    · exact ⟨by decide, .inr ⟨by decide, by decide⟩⟩
    · exact ⟨by simp [apart], .inl positive⟩
  · cases h

theorem Begun.Multibyte.continued {p : Begun} (multibyte : p.Multibyte) (fits : p.low ≤ b) :
    16 ≤ p.value * 64 + (b.toNat - 0x80) := by
  rcases multibyte.value with positive | ⟨_, wide⟩
  · omega
  · have reached : (0x90 : UInt8).toNat ≤ b.toNat := UInt8.le_iff_toNat_le.mp (UInt8.le_trans wide fits)
    simp at reached
    omega

namespace Reader

/-- A reader that stands within a character stands within one of several bytes. -/
def Sound (r : Reader) : Prop := ∀ p, r.begun = some p → p.Multibyte

theorem start_sound : start.Sound := by
  intro p h
  cases h

theorem fresh_sound (read : List (Option Char)) (b : UInt8) : (fresh read b).Sound := by
  intro p h
  unfold fresh at h
  split at h
  · cases h
  · next q begun => exact lead_multibyte (Option.some.inj h ▸ begun)
  · cases h

theorem push_sound {r : Reader} (sound : r.Sound) (b : UInt8) : (r.push b).Sound := by
  unfold push
  split
  · exact fresh_sound r.read b
  · next p begun =>
    split
    · next fits =>
      have continued := (sound p begun).continued fits.1
      split
      · intro q h
        cases h
      · intro q h
        rw [← Option.some.inj h]
        exact ⟨UInt8.le_refl _, .inl (Nat.le_trans (by decide) continued)⟩
    · exact fresh_sound _ b

theorem foldl_push_sound {r : Reader} (sound : r.Sound) (bytes : Bytes) :
    (bytes.foldl push r).Sound := by
  induction bytes generalizing r with
  | nil => exact sound
  | cons b bytes ih => exact ih (push_sound sound b)

def after (r : Reader) (history : List (Option Char)) : Reader := ⟨r.read ++ history, r.begun⟩

theorem fresh_after (read history : List (Option Char)) (b : UInt8) :
    fresh (read ++ history) b = (fresh read b).after history := by
  unfold fresh
  split <;> rfl

theorem push_after (r : Reader) (history : List (Option Char)) (b : UInt8) :
    (r.after history).push b = (r.push b).after history := by
  simp only [push, after]
  split
  · exact fresh_after r.read history b
  · split
    · split <;> rfl
    · exact fresh_after (none :: r.read) history b

/-- What was read before has no part in the reading. -/
theorem foldl_push_after (r : Reader) (history : List (Option Char)) (bytes : Bytes) :
    bytes.foldl push (r.after history) = (bytes.foldl push r).after history := by
  induction bytes generalizing r with
  | nil => rfl
  | cons b bytes ih => rw [List.foldl_cons, List.foldl_cons, push_after, ih]

theorem finish_after (r : Reader) (history : List (Option Char)) :
    (r.after history).finish = history.reverse ++ r.finish := by
  simp only [finish, after]
  split <;> simp

/-- A line feed ends what was begun and leaves the reader as at the start. -/
theorem push_newline {r : Reader} (sound : r.Sound) :
    r.push 0x0A = start.after (some '\n' :: r.finish.reverse) := by
  have newline (read : List (Option Char)) : fresh read 0x0A = ⟨some '\n' :: read, none⟩ := rfl
  unfold push finish
  split
  · next begun => simp [newline, start, after]
  · next p begun =>
    have outside : ¬ (p.low ≤ 0x0A ∧ 0x0A ≤ p.high) := by
      intro ⟨low, _⟩
      exact absurd (UInt8.le_trans (sound p begun).low low) (by decide)
    simp [outside, newline, start, after]

theorem newline_not_mem_fresh {read : List (Option Char)} (other : b ≠ 0x0A)
    (clean : some '\n' ∉ read) : some '\n' ∉ (fresh read b).read := by
  unfold fresh
  split
  · next c char =>
    have differ : c ≠ '\n' := by
      rintro rfl
      have code : b.toNat = 10 := by
        unfold lead at char
        split at char
        · exact eq_of_ofNat_eq_newline (Lead.char.inj char)
        · repeat' split at char
          all_goals cases char
      exact other (UInt8.toNat_inj.mp code)
    simpa [differ.symm] using clean
  · exact clean
  · simpa using clean

theorem newline_not_mem_push {r : Reader} (sound : r.Sound) (other : b ≠ 0x0A)
    (clean : some '\n' ∉ r.read) : some '\n' ∉ (r.push b).read := by
  unfold push
  split
  · exact newline_not_mem_fresh other clean
  · next p begun =>
    split
    · next fits =>
      have continued := (sound p begun).continued fits.1
      split
      · have differ : Char.ofNat (p.value * 64 + (b.toNat - 0x80)) ≠ '\n' := by
          intro same
          have code := eq_of_ofNat_eq_newline same
          omega
        simpa [differ.symm] using clean
      · exact clean
    · exact newline_not_mem_fresh other (by simpa using clean)

theorem newline_not_mem_foldl_push {r : Reader} (sound : r.Sound) (bytes : Bytes)
    (single : 0x0A ∉ bytes) (clean : some '\n' ∉ r.read) :
    some '\n' ∉ (bytes.foldl push r).read := by
  induction bytes generalizing r with
  | nil => exact clean
  | cons b bytes ih =>
    simp only [List.mem_cons, not_or] at single
    exact ih (push_sound sound b) single.2 (newline_not_mem_push sound (Ne.symm single.1) clean)

theorem mem_finish {r : Reader} (c : Char) : some c ∈ r.finish ↔ some c ∈ r.read := by
  unfold finish
  split <;> simp

end Reader

theorem scan_append_newline (a b : Bytes) :
    scan (a ++ 0x0A :: b) = scan a ++ some '\n' :: scan b := by
  have sound := Reader.foldl_push_sound Reader.start_sound a
  rw [scan, List.foldl_append, List.foldl_cons, Reader.push_newline sound, Reader.foldl_push_after,
    Reader.finish_after]
  simp [scan]

/-- Damaged or not, the bytes on both sides of a line feed are read as if they stood alone. -/
theorem lossy_append_newline (a b : Bytes) :
    (lossy (a ++ 0x0A :: b)).toList = (lossy a).toList ++ '\n' :: (lossy b).toList := by
  simp [lossy, scan_append_newline]

theorem newline_mem_lossy_iff {bytes : Bytes} : '\n' ∈ (lossy bytes).toList ↔ 0x0A ∈ bytes := by
  constructor
  · intro member
    apply Classical.byContradiction
    intro single
    have clean := Reader.newline_not_mem_foldl_push Reader.start_sound bytes single
      (by simp [Reader.start])
    simp only [lossy, String.toList_ofList, List.mem_map] at member
    obtain ⟨c, read, newline⟩ := member
    cases c with
    | none => exact absurd newline (by decide)
    | some c =>
      obtain rfl : c = '\n' := newline
      exact clean ((Reader.mem_finish '\n').mp read)
  · intro member
    obtain ⟨a, b, rfl⟩ := List.append_of_mem member
    simp [lossy_append_newline]

end SchedLatency.Text.Utf8
