/-! UTF-8 read byte by byte. Each character gives its code point, each maximal part of an
ill-formed sequence gives a gap; the lossy reading fills gaps with U+FFFD and the strict reading
refuses them. -/
namespace SchedLatency.Text

abbrev Bytes := List UInt8

namespace Utf8

/-- A character begun: its value so far, the bytes it still owes and the range of the next one. -/
structure Begun where
  value : Nat
  owed : Nat
  low : UInt8
  high : UInt8
  deriving DecidableEq, Repr

/-- What a byte between two characters does: it is a character, begins one, or fits nowhere. -/
inductive Lead where
  | char (c : Char)
  | begun (b : Begun)
  | stray

/-- The first byte fixes the number of bytes. The second byte's range rules out overlong forms,
surrogates and what lies beyond U+10FFFF. -/
def lead (b : UInt8) : Lead :=
  if b < 0x80 then .char (Char.ofNat b.toNat)
  else if b < 0xC2 then .stray
  else if b < 0xE0 then .begun ⟨b.toNat - 0xC0, 1, 0x80, 0xBF⟩
  else if b < 0xF0 then
    .begun ⟨b.toNat - 0xE0, 2, if b = 0xE0 then 0xA0 else 0x80, if b = 0xED then 0x9F else 0xBF⟩
  else if b < 0xF5 then
    .begun ⟨b.toNat - 0xF0, 3, if b = 0xF0 then 0x90 else 0x80, if b = 0xF4 then 0x8F else 0xBF⟩
  else .stray

/-- A reader between two bytes: what it has read, newest first, and the character it is in. -/
structure Reader where
  read : List (Option Char)
  begun : Option Begun

def Reader.start : Reader := ⟨[], none⟩

/-- Takes a byte that stands between two characters. -/
def Reader.fresh (read : List (Option Char)) (b : UInt8) : Reader :=
  match lead b with
  | .char c => ⟨some c :: read, none⟩
  | .begun p => ⟨read, some p⟩
  | .stray => ⟨none :: read, none⟩

/-- A byte that cannot continue the character begun leaves a gap and is taken afresh. -/
def Reader.push (r : Reader) (b : UInt8) : Reader :=
  match r.begun with
  | none => fresh r.read b
  | some p =>
    if p.low ≤ b ∧ b ≤ p.high then
      let value := p.value * 64 + (b.toNat - 0x80)
      if p.owed = 1 then ⟨some (Char.ofNat value) :: r.read, none⟩
      else ⟨r.read, some ⟨value, p.owed - 1, 0x80, 0xBF⟩⟩
    else fresh (none :: r.read) b

/-- The end of the input leaves a gap in place of a character begun. -/
def Reader.finish (r : Reader) : List (Option Char) :=
  match r.begun with
  | none => r.read.reverse
  | some _ => (none :: r.read).reverse

/-- The characters of a byte string, and a gap for each maximal ill-formed part. -/
def scan (bytes : Bytes) : List (Option Char) := (bytes.foldl Reader.push .start).finish

def replacement : Char := '\uFFFD'

def lossy (bytes : Bytes) : String :=
  String.ofList ((scan bytes).map fun c => c.getD replacement)

def whole (read : List (Option Char)) : Option (List Char) :=
  if read.all Option.isSome then some (read.filterMap id) else none

def decode? (bytes : Bytes) : Option String := (whole (scan bytes)).map String.ofList

def encode (s : String) : Bytes := s.toList.flatMap String.utf8EncodeChar

@[simp] theorem whole_map_some (s : List Char) : whole (s.map some) = some s := by
  simp [whole, List.filterMap_map, Function.comp_def]

theorem whole_eq_some_iff {read : List (Option Char)} {s : List Char} :
    whole read = some s ↔ read = s.map some := by
  constructor
  · intro h
    simp only [whole, Option.ite_none_right_eq_some, Option.some.injEq] at h
    obtain ⟨all, rfl⟩ := h
    induction read with
    | nil => rfl
    | cons c rest ih =>
      cases c with
      | none => simp at all
      | some c => simpa using ih (by simpa using all)
  · rintro rfl; exact whole_map_some s

/-- The two readings differ on ill-formed input only. -/
theorem lossy_of_decode? {bytes : Bytes} {s : String} (h : decode? bytes = some s) :
    lossy bytes = s := by
  obtain ⟨chars, hw, rfl⟩ := Option.map_eq_some_iff.1 h
  simp [lossy, whole_eq_some_iff.1 hw, Function.comp_def]

end Utf8
end SchedLatency.Text
