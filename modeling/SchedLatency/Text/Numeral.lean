/-! Digits and numerals. Decimal digits of any script are the characters of Unicode's general category
`Nd`; they come in runs of ten, zero to nine, so the table lists the zeros. A decimal numeral has to
fit into 64 bits. It is read from left to right: the first character that is not an ASCII digit, or
that takes the value past the limit, decides. -/
namespace SchedLatency.Text

def decimalZeros : List Nat := [
  0x0030, 0x0660, 0x06F0, 0x07C0, 0x0966, 0x09E6, 0x0A66, 0x0AE6,
  0x0B66, 0x0BE6, 0x0C66, 0x0CE6, 0x0D66, 0x0DE6, 0x0E50, 0x0ED0,
  0x0F20, 0x1040, 0x1090, 0x17E0, 0x1810, 0x1946, 0x19D0, 0x1A80,
  0x1A90, 0x1B50, 0x1BB0, 0x1C40, 0x1C50, 0xA620, 0xA8D0, 0xA900,
  0xA9D0, 0xA9F0, 0xAA50, 0xABF0, 0xFF10, 0x104A0, 0x10D30, 0x10D40,
  0x11066, 0x110F0, 0x11136, 0x111D0, 0x112F0, 0x11450, 0x114D0, 0x11650,
  0x116C0, 0x116D0, 0x116DA, 0x11730, 0x118E0, 0x11950, 0x11BF0, 0x11C50,
  0x11D50, 0x11DA0, 0x11F50, 0x16130, 0x16A60, 0x16AC0, 0x16B50, 0x16D70,
  0x1CCF0, 0x1D7CE, 0x1D7D8, 0x1D7E2, 0x1D7EC, 0x1D7F6, 0x1E140, 0x1E2F0,
  0x1E4F0, 0x1E5F1, 0x1E950, 0x1FBF0]

def isDecimalDigit (c : Char) : Bool :=
  decimalZeros.any fun first => first ≤ c.toNat && c.toNat < first + 10

theorem isDecimalDigit_of_isDigit (c : Char) (h : c.isDigit = true) : isDecimalDigit c = true := by
  simp only [Char.isDigit, Bool.and_eq_true, decide_eq_true_eq, UInt32.le_iff_toNat_le] at h
  have low : 48 ≤ c.toNat := h.1
  have high : c.toNat ≤ 57 := h.2
  simp only [isDecimalDigit, List.any_eq_true, Bool.and_eq_true, decide_eq_true_eq]
  exact ⟨0x0030, List.mem_cons_self, low, by omega⟩

def isHex (c : Char) : Bool :=
  c.isDigit || ('a' ≤ c && c ≤ 'f') || ('A' ≤ c && c ≤ 'F')

def hexDigit (c : Char) : Nat :=
  if c.isDigit then c.toNat - 0x30 else c.toLower.toNat - 0x57

def hexValue (digits : List Char) : Nat := digits.foldl (fun n c => n * 16 + hexDigit c) 0

@[simp] theorem hexValue_nil : hexValue [] = 0 := rfl

theorem hexValue_append (digits : List Char) (c : Char) :
    hexValue (digits ++ [c]) = hexValue digits * 16 + hexDigit c := by
  simp [hexValue]

inductive NumeralFault where
  | empty
  | notDigit
  | tooLarge
  deriving DecidableEq, Repr

def NumeralFault.text : NumeralFault → String
  | .empty => "cannot parse integer from empty string"
  | .notDigit => "invalid digit found in string"
  | .tooLarge => "number too large to fit in target type"

/-- The values of 64-bit unsigned words lie below this bound. -/
def wordLimit : Nat := 1 <<< 64

/-- Reads on from the value of the digits already seen. -/
def continueNumeral (value : Nat) : List Char → Except NumeralFault Nat
  | [] => .ok value
  | c :: rest =>
    if c.isDigit then
      let next := value * 10 + (c.toNat - '0'.toNat)
      if next < wordLimit then continueNumeral next rest else .error .tooLarge
    else .error .notDigit

def readNumeral : List Char → Except NumeralFault Nat
  | [] => .error .empty
  | digits => continueNumeral 0 digits

theorem le_ofDigitChars (digits : List Char) (value : Nat) :
    value ≤ Nat.ofDigitChars 10 digits value := by
  induction digits generalizing value with
  | nil => simp
  | cons c digits ih =>
    rw [Nat.ofDigitChars_cons]
    have := ih (10 * value + (c.toNat - '0'.toNat))
    omega

theorem continueNumeral_eq_ok_iff {digits : List Char} {value n : Nat} (fits : value < wordLimit) :
    continueNumeral value digits = .ok n ↔
      (∀ c ∈ digits, c.isDigit = true) ∧ n = Nat.ofDigitChars 10 digits value ∧ n < wordLimit := by
  induction digits generalizing value with
  | nil => simp only [continueNumeral, Nat.ofDigitChars_nil, Except.ok.injEq]; grind
  | cons c digits ih =>
    have grows := le_ofDigitChars digits (10 * value + (c.toNat - '0'.toNat))
    by_cases digit : c.isDigit = true
    · by_cases next : value * 10 + (c.toNat - '0'.toNat) < wordLimit
      · simp only [continueNumeral, digit, if_true, next, ih next, Nat.ofDigitChars_cons,
          List.forall_mem_cons, true_and, Nat.mul_comm]
      · simp only [continueNumeral, digit, if_true, next, if_false, Nat.ofDigitChars_cons,
          reduceCtorEq, false_iff]
        omega
    · simp [continueNumeral, digit]

/-- Digits at the front are read before what follows is looked at. -/
theorem continueNumeral_append {front : List Char} (ascii : ∀ c ∈ front, c.isDigit = true)
    (rest : List Char) {value : Nat} (fits : value < wordLimit) :
    continueNumeral value (front ++ rest) =
      if Nat.ofDigitChars 10 front value < wordLimit then
        continueNumeral (Nat.ofDigitChars 10 front value) rest
      else .error .tooLarge := by
  induction front generalizing value with
  | nil => rw [Nat.ofDigitChars_nil, if_pos fits, List.nil_append]
  | cons c front ih =>
    have digit := ascii c List.mem_cons_self
    rw [List.cons_append, continueNumeral, if_pos digit, Nat.ofDigitChars_cons, Nat.mul_comm 10]
    dsimp only
    split
    case isTrue next => exact ih (fun d member => ascii d (List.mem_cons_of_mem c member)) next
    case isFalse past =>
      have grows := le_ofDigitChars front (value * 10 + (c.toNat - '0'.toNat))
      rw [if_neg (by omega)]

/-- Leading zeros are allowed; what counts is the value. -/
theorem readNumeral_eq_ok_iff {digits : List Char} {n : Nat} :
    readNumeral digits = .ok n ↔ digits ≠ [] ∧ (∀ c ∈ digits, c.isDigit = true) ∧
      n = Nat.ofDigitChars 10 digits 0 ∧ n < wordLimit := by
  cases digits with
  | nil => simp [readNumeral]
  | cons c digits => simp [readNumeral, continueNumeral_eq_ok_iff (by decide : 0 < wordLimit)]

end SchedLatency.Text
