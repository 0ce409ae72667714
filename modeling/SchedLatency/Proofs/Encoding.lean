import SchedLatency.Text.Utf8

/-! UTF-8 is read back as it was written, and nothing else is read without a gap. A character begun
is known by the bytes that have been read of it, and the last byte makes them the encoding of the
character. Main statement: `decode?_eq_some_iff`. -/
namespace SchedLatency.Text.Utf8

theorem toNat_ofNat_of_valid {n : Nat} (valid : n.isValidChar) : (Char.ofNat n).toNat = n := by
  rw [Char.ofNat, dif_pos valid]
  rfl

theorem eq_ofNat {b : UInt8} {n : Nat} (same : b.toNat = n) : b = .ofNat n := by
  rw [← same, UInt8.ofNat_toNat]

/-! First bytes -/

theorem lead_one {n : Nat} (high : n < 128) : lead (.ofNat n) = .char (Char.ofNat n) := by
  have code := UInt8.toNat_ofNat_of_lt' (show n < 256 by omega)
  have ascii : UInt8.ofNat n < 0x80 := by rw [UInt8.lt_iff_toNat_lt, code]; exact high
  rw [lead, if_pos ascii, code]

theorem ofNat_add_eq_iff {v w base : Nat} (fits : v + base < 256) (fits' : w + base < 256) :
    UInt8.ofNat (v + base) = .ofNat (w + base) ↔ v = w := by
  rw [← UInt8.toNat_inj, UInt8.toNat_ofNat_of_lt' fits, UInt8.toNat_ofNat_of_lt' fits']
  omega

theorem lead_two {v : Nat} (low : 2 ≤ v) (high : v < 32) :
    lead (.ofNat (v + 192)) = .begun ⟨v, 1, 0x80, 0xBF⟩ := by
  have code := UInt8.toNat_ofNat_of_lt' (show v + 192 < 256 by omega)
  simp only [lead, UInt8.lt_iff_toNat_lt, code, UInt8.toNat_ofNat]
  rw [if_neg (by omega), if_neg (by omega), if_pos (by omega), Nat.add_sub_cancel]

theorem lead_three {v : Nat} (high : v < 16) : lead (.ofNat (v + 224)) =
    .begun ⟨v, 2, if v = 0 then 0xA0 else 0x80, if v = 13 then 0x9F else 0xBF⟩ := by
  have code := UInt8.toNat_ofNat_of_lt' (show v + 224 < 256 by omega)
  have least : UInt8.ofNat (v + 224) = 0xE0 ↔ v = 0 := ofNat_add_eq_iff (w := 0) (by omega) (by omega)
  have last : UInt8.ofNat (v + 224) = 0xED ↔ v = 13 := ofNat_add_eq_iff (w := 13) (by omega) (by omega)
  simp only [lead, UInt8.lt_iff_toNat_lt, code, UInt8.toNat_ofNat, least, last]
  rw [if_neg (by omega), if_neg (by omega), if_neg (by omega), if_pos (by omega), Nat.add_sub_cancel]

theorem lead_four {v : Nat} (high : v < 5) : lead (.ofNat (v + 240)) =
    .begun ⟨v, 3, if v = 0 then 0x90 else 0x80, if v = 4 then 0x8F else 0xBF⟩ := by
  have code := UInt8.toNat_ofNat_of_lt' (show v + 240 < 256 by omega)
  have least : UInt8.ofNat (v + 240) = 0xF0 ↔ v = 0 := ofNat_add_eq_iff (w := 0) (by omega) (by omega)
  have last : UInt8.ofNat (v + 240) = 0xF4 ↔ v = 4 := ofNat_add_eq_iff (w := 4) (by omega) (by omega)
  simp only [lead, UInt8.lt_iff_toNat_lt, code, UInt8.toNat_ofNat, least, last]
  rw [if_neg (by omega), if_neg (by omega), if_neg (by omega), if_neg (by omega), if_pos (by omega),
    Nat.add_sub_cancel]

/-- The bytes that have been read of a character begun: one, two or three of the two, three or four
that it takes. Its value is what their bits make so far. -/
inductive Begun.Spelled : Begun → Bytes → Prop where
  | oneOfTwo (v : Nat) (low : 2 ≤ v) (high : v < 32) :
      Spelled ⟨v, 1, 0x80, 0xBF⟩ [.ofNat (v + 192)]
  | oneOfThree (v : Nat) (high : v < 16) :
      Spelled ⟨v, 2, if v = 0 then 0xA0 else 0x80, if v = 13 then 0x9F else 0xBF⟩ [.ofNat (v + 224)]
  -- From 864 to 895 the character would be a surrogate.
  | twoOfThree (v : Nat) (low : 32 ≤ v) (high : v < 1024) (scalar : v < 864 ∨ 896 ≤ v) :
      Spelled ⟨v, 1, 0x80, 0xBF⟩ [.ofNat (v / 64 + 224), .ofNat (v % 64 + 128)]
  | oneOfFour (v : Nat) (high : v < 5) :
      Spelled ⟨v, 3, if v = 0 then 0x90 else 0x80, if v = 4 then 0x8F else 0xBF⟩ [.ofNat (v + 240)]
  | twoOfFour (v : Nat) (low : 16 ≤ v) (high : v < 272) :
      Spelled ⟨v, 2, 0x80, 0xBF⟩ [.ofNat (v / 64 + 240), .ofNat (v % 64 + 128)]
  | threeOfFour (v : Nat) (low : 1024 ≤ v) (high : v < 17408) :
      Spelled ⟨v, 1, 0x80, 0xBF⟩
        [.ofNat (v / 4096 + 240), .ofNat (v / 64 % 64 + 128), .ofNat (v % 64 + 128)]

theorem lead_begun (h : lead b = .begun p) : 194 ≤ b.toNat ∧ b.toNat < 245 := by
  simp only [lead, UInt8.lt_iff_toNat_lt, UInt8.toNat_ofNat] at h
  split at h
  · cases h
  split at h
  · cases h
  next _ low =>
  split at h
  · omega
  split at h
  · omega
  split at h
  · omega
  · cases h

theorem lead_spelled (h : lead b = .begun p) : p.Spelled [b] := by
  obtain ⟨low, high⟩ := lead_begun h
  by_cases two : b.toNat < 224
  · obtain ⟨v, least, most, rfl⟩ : ∃ v, 2 ≤ v ∧ v < 32 ∧ b = .ofNat (v + 192) :=
      ⟨b.toNat - 192, by omega, by omega, eq_ofNat (by omega)⟩
    rw [lead_two least most] at h
    exact Lead.begun.inj h ▸ .oneOfTwo v least most
  by_cases three : b.toNat < 240
  · obtain ⟨v, most, rfl⟩ : ∃ v, v < 16 ∧ b = .ofNat (v + 224) :=
      ⟨b.toNat - 224, by omega, eq_ofNat (by omega)⟩
    rw [lead_three most] at h
    exact Lead.begun.inj h ▸ .oneOfThree v most
  · obtain ⟨v, most, rfl⟩ : ∃ v, v < 5 ∧ b = .ofNat (v + 240) :=
      ⟨b.toNat - 240, by omega, eq_ofNat (by omega)⟩
    rw [lead_four most] at h
    exact Lead.begun.inj h ▸ .oneOfFour v most

/-! Whole characters -/

section Encoded
variable {n : Nat}

theorem utf8EncodeChar_one (high : n < 128) : String.utf8EncodeChar (Char.ofNat n) = [.ofNat n] := by
  have code : (Char.ofNat n).val.toNat = n := toNat_ofNat_of_valid (.inl (by omega))
  simp only [String.utf8EncodeChar, code]
  rw [if_pos (by omega)]

theorem utf8EncodeChar_two (low : 128 ≤ n) (high : n < 2048) : String.utf8EncodeChar (Char.ofNat n) =
    [.ofNat (n / 64 + 192), .ofNat (n % 64 + 128)] := by
  have code : (Char.ofNat n).val.toNat = n := toNat_ofNat_of_valid (.inl (by omega))
  have first : n / 64 % 32 = n / 64 := by omega
  simp only [String.utf8EncodeChar, code]
  rw [if_neg (by omega), if_pos (by omega), first]

theorem utf8EncodeChar_three (low : 2048 ≤ n) (high : n < 65536) (scalar : n < 55296 ∨ 57344 ≤ n) :
    String.utf8EncodeChar (Char.ofNat n) =
      [.ofNat (n / 4096 + 224), .ofNat (n / 64 % 64 + 128), .ofNat (n % 64 + 128)] := by
  have code : (Char.ofNat n).val.toNat = n := toNat_ofNat_of_valid (by omega)
  have first : n / 4096 % 16 = n / 4096 := by omega
  simp only [String.utf8EncodeChar, code]
  rw [if_neg (by omega), if_neg (by omega), if_pos (by omega), first]

theorem utf8EncodeChar_four (low : 65536 ≤ n) (high : n < 1114112) :
    String.utf8EncodeChar (Char.ofNat n) = [.ofNat (n / 262144 + 240), .ofNat (n / 4096 % 64 + 128),
      .ofNat (n / 64 % 64 + 128), .ofNat (n % 64 + 128)] := by
  have code : (Char.ofNat n).val.toNat = n := toNat_ofNat_of_valid (by omega)
  have first : n / 262144 % 8 = n / 262144 := by omega
  simp only [String.utf8EncodeChar, code]
  rw [if_neg (by omega), if_neg (by omega), if_neg (by omega), first]

end Encoded

/-! Further bytes -/

section Bits
variable {v k : Nat} (small : k < 64)
include small

theorem bits_mod : (v * 64 + k) % 64 = k := by omega
theorem bits_div : (v * 64 + k) / 64 = v := by omega
theorem bits_div_two : (v * 64 + k) / 4096 = v / 64 := by omega
theorem bits_div_three : (v * 64 + k) / 262144 = v / 4096 := by omega

end Bits

namespace Begun.Spelled
variable {p : Begun} {pending : Bytes} (spelled : p.Spelled pending)
include spelled

theorem exists_bits (fits : p.low ≤ b ∧ b ≤ p.high) :
    ∃ k, k < 64 ∧ p.low.toNat ≤ k + 128 ∧ k + 128 ≤ p.high.toNat ∧ b = .ofNat (k + 128) := by
  have least : 128 ≤ p.low.toNat := by
    cases spelled <;> dsimp only <;> (try split) <;> decide
  have most : p.high.toNat ≤ 191 := by
    cases spelled <;> dsimp only <;> (try split) <;> decide
  simp only [UInt8.le_iff_toNat_le] at fits
  exact ⟨b.toNat - 128, by omega, by omega, by omega, eq_ofNat (by omega)⟩

variable (small : k < 64)
include small

theorem last (owed : p.owed = 1) :
    String.utf8EncodeChar (Char.ofNat (p.value * 64 + k)) = pending ++ [.ofNat (k + 128)] := by
  cases spelled with
  | oneOfTwo v low high =>
    dsimp only
    rw [utf8EncodeChar_two (by omega) (by omega)]
    simp [bits_mod small, bits_div small]
  | twoOfThree v low high scalar =>
    dsimp only
    rw [utf8EncodeChar_three (by omega) (by omega) (by omega)]
    simp [bits_mod small, bits_div small, bits_div_two small]
  | threeOfFour v low high =>
    dsimp only
    rw [utf8EncodeChar_four (by omega) (by omega)]
    simp [bits_mod small, bits_div small, bits_div_two small, bits_div_three small]
  | oneOfThree | oneOfFour | twoOfFour => simp at owed

theorem more (low : p.low.toNat ≤ k + 128) (high : k + 128 ≤ p.high.toNat) (owed : p.owed ≠ 1) :
    Begun.Spelled ⟨p.value * 64 + k, p.owed - 1, 0x80, 0xBF⟩ (pending ++ [.ofNat (k + 128)]) := by
  cases spelled with
  | oneOfThree v most =>
    have shortest : 32 ≤ v * 64 + k := by
      by_cases zero : v = 0 <;> simp [zero] at low <;> omega
    have scalar : v * 64 + k < 864 ∨ 896 ≤ v * 64 + k := by
      by_cases surrogate : v = 13 <;> simp [surrogate] at high <;> omega
    simpa [bits_mod small, bits_div small] using
      twoOfThree (v * 64 + k) shortest (by omega) scalar
  | oneOfFour v most =>
    have shortest : 16 ≤ v * 64 + k := by
      by_cases zero : v = 0 <;> simp [zero] at low <;> omega
    have greatest : v * 64 + k < 272 := by
      by_cases last : v = 4 <;> simp [last] at high <;> omega
    simpa [bits_mod small, bits_div small] using
      twoOfFour (v * 64 + k) shortest greatest
  | twoOfFour v least most =>
    simpa [bits_mod small, bits_div small, bits_div_two small] using
      threeOfFour (v * 64 + k) (by omega) (by omega)
  | oneOfTwo | twoOfThree | threeOfFour => simp at owed

end Begun.Spelled

namespace Reader

variable (read : List (Option Char)) {p : Begun}

/-! What is written is read -/

theorem foldl_push_lead (begins : lead b = .begun p) :
    [b].foldl push ⟨read, none⟩ = ⟨read, some p⟩ := by
  have first : push ⟨read, none⟩ b = fresh read b := rfl
  rw [List.foldl_cons, List.foldl_nil, first, fresh, begins]

theorem push_bits (small : k < 64) (low : p.low.toNat ≤ k + 128) (high : k + 128 ≤ p.high.toNat) :
    push ⟨read, some p⟩ (.ofNat (k + 128)) =
      if p.owed = 1 then ⟨some (Char.ofNat (p.value * 64 + k)) :: read, none⟩
      else ⟨read, some ⟨p.value * 64 + k, p.owed - 1, 0x80, 0xBF⟩⟩ := by
  have code := UInt8.toNat_ofNat_of_lt' (show k + 128 < 256 by omega)
  have fits : p.low ≤ .ofNat (k + 128) ∧ .ofNat (k + 128) ≤ p.high := by
    simpa only [UInt8.le_iff_toNat_le, code] using And.intro low high
  simp only [push, fits, and_self, if_true, code, Nat.add_sub_cancel]

/-- The last six bits of `v` follow the spelling of the others. -/
theorem foldl_push_more {v owed : Nat} {low high : UInt8}
    (begun : pending.foldl push ⟨read, none⟩ = ⟨read, some ⟨v / 64, owed + 2, low, high⟩⟩)
    (least : low.toNat ≤ v % 64 + 128) (most : v % 64 + 128 ≤ high.toNat) :
    (pending ++ [.ofNat (v % 64 + 128)]).foldl push ⟨read, none⟩ =
      ⟨read, some ⟨v, owed + 1, 0x80, 0xBF⟩⟩ := by
  have value : v / 64 * 64 + v % 64 = v := by omega
  rw [List.foldl_append, begun, List.foldl_cons, List.foldl_nil,
    push_bits read (Nat.mod_lt v (by decide)) least most, if_neg (by simp), value]
  rfl

theorem foldl_push_spelled (spelled : p.Spelled pending) :
    pending.foldl push ⟨read, none⟩ = ⟨read, some p⟩ := by
  have twoOfFour (v : Nat) (low : 16 ≤ v) (high : v < 272) :
      [UInt8.ofNat (v / 64 + 240), .ofNat (v % 64 + 128)].foldl push ⟨read, none⟩ =
        ⟨read, some ⟨v, 2, 0x80, 0xBF⟩⟩ := by
    refine foldl_push_more read (foldl_push_lead read (lead_four (by omega))) ?_ ?_
    · split
      · simp
        omega
      · simp
    · split
      · simp
        omega
      · simp
        omega
  cases spelled with
  | oneOfTwo v low high => exact foldl_push_lead read (lead_two low high)
  | oneOfThree v high => exact foldl_push_lead read (lead_three high)
  | oneOfFour v high => exact foldl_push_lead read (lead_four high)
  | twoOfThree v low high scalar =>
    refine foldl_push_more read (foldl_push_lead read (lead_three (by omega))) ?_ ?_
    · split
      · simp
        omega
      · simp
    · split
      · simp
        omega
      · simp
        omega
  | twoOfFour v low high => exact twoOfFour v low high
  | threeOfFour v low high =>
    have first : v / 64 / 64 = v / 4096 := by omega
    have second := twoOfFour (v / 64) (by omega) (by omega)
    rw [first] at second
    refine foldl_push_more read second ?_ ?_
    · simp
    · simp
      omega

theorem foldl_push_utf8EncodeChar (c : Char) :
    (String.utf8EncodeChar c).foldl push ⟨read, none⟩ = ⟨some c :: read, none⟩ := by
  obtain ⟨n, scalar, rfl⟩ : ∃ n : Nat, n.isValidChar ∧ c = Char.ofNat n :=
    ⟨c.toNat, c.valid, (Char.ofNat_toNat c).symm⟩
  have range : n < 55296 ∨ 57344 ≤ n ∧ n < 1114112 := by
    rcases scalar with low | ⟨low, high⟩ <;> omega
  by_cases one : n < 128
  · rw [utf8EncodeChar_one one, List.foldl_cons, List.foldl_nil, push, fresh, lead_one one]
  -- All bytes but the last are the spelling of a character that owes one byte.
  obtain ⟨pending, spelled⟩ : ∃ pending, Begun.Spelled ⟨n / 64, 1, 0x80, 0xBF⟩ pending := by
    by_cases two : n < 2048
    · exact ⟨_, .oneOfTwo (n / 64) (by omega) (by omega)⟩
    by_cases three : n < 65536
    · exact ⟨_, .twoOfThree (n / 64) (by omega) (by omega) (by omega)⟩
    · exact ⟨_, .threeOfFour (n / 64) (by omega) (by omega)⟩
  have value : n / 64 * 64 + n % 64 = n := by omega
  have whole := spelled.last (Nat.mod_lt n (by decide)) rfl
  dsimp only at whole
  rw [value] at whole
  rw [whole, List.foldl_append, foldl_push_spelled read spelled, List.foldl_cons, List.foldl_nil,
    push_bits read (Nat.mod_lt n (by decide))]
  · simp [value]
  · simp
  · simp
    omega

theorem foldl_push_encode (chars : List Char) :
    (chars.flatMap String.utf8EncodeChar).foldl push ⟨read, none⟩ =
      ⟨(chars.map some).reverse ++ read, none⟩ := by
  induction chars generalizing read with
  | nil => rfl
  | cons c chars ih =>
    rw [List.flatMap_cons, List.foldl_append, foldl_push_utf8EncodeChar, ih]
    simp

end Reader

theorem decode?_encode (s : String) : decode? (encode s) = some s := by
  have read : scan (encode s) = s.toList.map some := by
    rw [scan, encode, Reader.start, Reader.foldl_push_encode]
    simp [Reader.finish]
  rw [decode?, read, whole_map_some, Option.map_some, String.ofList_toList]

/-! What is read without a gap was written so -/

theorem utf8EncodeChar_of_lead (char : lead b = .char c) : String.utf8EncodeChar c = [b] := by
  by_cases ascii : b.toNat < 128
  · have same : b = .ofNat b.toNat := by simp
    rw [same, lead_one ascii] at char
    rw [← Lead.char.inj char, utf8EncodeChar_one ascii, ← same]
  · simp only [lead, UInt8.lt_iff_toNat_lt, UInt8.toNat_ofNat] at char
    rw [if_neg ascii] at char
    repeat' split at char
    all_goals cases char

namespace Reader

/-- The bytes of the character that a reader is in. -/
def Pending : Option Begun → Bytes → Prop
  | none, pending => pending = []
  | some p, pending => p.Spelled pending

/-- A reader without gaps has read the encodings of its characters. -/
def Faithful (r : Reader) (bytes : Bytes) : Prop :=
  none ∈ r.read ∨ ∃ (chars : List Char) (pending : Bytes), r.read = (chars.map some).reverse ∧
    bytes = chars.flatMap String.utf8EncodeChar ++ pending ∧ Pending r.begun pending

theorem mem_fresh {read : List (Option Char)} {x : Option Char} (member : x ∈ read) :
    x ∈ (fresh read b).read := by
  unfold fresh
  split
  · exact List.mem_cons_of_mem _ member
  · exact member
  · exact List.mem_cons_of_mem _ member

theorem mem_push {r : Reader} {x : Option Char} (member : x ∈ r.read) : x ∈ (r.push b).read := by
  unfold push
  split
  · exact mem_fresh member
  · split
    · split
      · exact List.mem_cons_of_mem _ member
      · exact member
    · exact mem_fresh (List.mem_cons_of_mem _ member)

theorem fresh_faithful (chars : List Char) (b : UInt8) :
    (fresh (chars.map some).reverse b).Faithful (chars.flatMap String.utf8EncodeChar ++ [b]) := by
  unfold fresh
  split
  · next c char =>
    refine .inr ⟨chars ++ [c], [], by simp, ?_, rfl⟩
    rw [List.flatMap_append, List.flatMap_singleton, utf8EncodeChar_of_lead char, List.append_nil]
  · next p begins => exact .inr ⟨chars, [b], rfl, rfl, lead_spelled begins⟩
  · exact .inl List.mem_cons_self

theorem push_faithful {r : Reader} (faithful : r.Faithful bytes) (b : UInt8) :
    (r.push b).Faithful (bytes ++ [b]) := by
  -- A gap is never taken back, so only readers without gaps have to be looked at.
  rcases faithful with gap | ⟨chars, pending, read, rfl, begun⟩
  · exact .inl (mem_push gap)
  obtain ⟨_, begun?⟩ := r
  subst read
  cases begun? with
  | none =>
    obtain rfl : pending = [] := begun
    rw [List.append_nil]
    exact fresh_faithful chars b
  | some p =>
    have spelled : p.Spelled pending := begun
    by_cases fits : p.low ≤ b ∧ b ≤ p.high
    · obtain ⟨k, small, low, high, rfl⟩ := spelled.exists_bits fits
      rw [push_bits _ small low high, List.append_assoc]
      split
      · next owed =>
        refine .inr ⟨chars ++ [Char.ofNat (p.value * 64 + k)], [], by simp, ?_, rfl⟩
        rw [List.flatMap_append, List.flatMap_singleton, spelled.last small owed, List.append_nil]
      · next owed => exact .inr ⟨chars, _, rfl, rfl, spelled.more small low high owed⟩
    · have refused : push ⟨(chars.map some).reverse, some p⟩ b =
        fresh (none :: (chars.map some).reverse) b := if_neg fits
      rw [refused]
      exact .inl (mem_fresh List.mem_cons_self)

theorem foldl_push_faithful (bytes : Bytes) : (bytes.foldl push start).Faithful bytes := by
  suffices ∀ (r : Reader) (before : Bytes), r.Faithful before →
      (bytes.foldl push r).Faithful (before ++ bytes) by
    exact this start [] (.inr ⟨[], [], rfl, rfl, rfl⟩)
  intro r before faithful
  induction bytes generalizing r before with
  | nil => simpa using faithful
  | cons b bytes ih => simpa using ih _ _ (push_faithful faithful b)

end Reader

theorem eq_encode_of_decode? (h : decode? bytes = some s) : bytes = encode s := by
  obtain ⟨chars, read, rfl⟩ := Option.map_eq_some_iff.mp h
  have finish : (bytes.foldl Reader.push .start).finish = chars.map some := whole_eq_some_iff.mp read
  have faithful := Reader.foldl_push_faithful bytes
  have whole : none ∉ (bytes.foldl Reader.push .start).finish := by simp [finish]
  unfold Reader.finish at finish whole
  split at finish
  · next between =>
    rcases faithful with gap | ⟨chars', pending, read, same, begun⟩
    · simp [between, gap] at whole
    · rw [between] at begun
      obtain rfl : pending = [] := begun
      rw [read, List.reverse_reverse] at finish
      have chars : chars' = chars := (List.map_inj_right fun _ _ => Option.some.inj).mp finish
      rw [same, chars, List.append_nil, encode, String.toList_ofList]
  · next p within => simp [within] at whole

theorem decode?_eq_some_iff : decode? bytes = some s ↔ bytes = encode s :=
  ⟨eq_encode_of_decode?, fun same => same ▸ decode?_encode s⟩

theorem decode?_eq_none_iff : decode? bytes = none ↔ ∀ s, bytes ≠ encode s := by
  simp only [Option.eq_none_iff_forall_ne_some, ne_eq, decode?_eq_some_iff]

end SchedLatency.Text.Utf8
