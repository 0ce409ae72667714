/-! White space, as Unicode's `White_Space` property has it, trimming by it, and the lines of a text.
`pieces` cuts after every line feed, so that its pieces concatenate to the text; `lines` then takes
each piece's ending off: a line feed, and one carriage return directly before that line feed. A
carriage return at the end of the text ends no line and stays. -/
namespace SchedLatency.Text

def isBlank (c : Char) : Bool :=
  (0x09 ≤ c.toNat && c.toNat ≤ 0x0D) || c.toNat == 0x20 || c.toNat == 0x85 || c.toNat == 0xA0 ||
  c.toNat == 0x1680 || (0x2000 ≤ c.toNat && c.toNat ≤ 0x200A) || c.toNat == 0x2028 ||
  c.toNat == 0x2029 || c.toNat == 0x202F || c.toNat == 0x205F || c.toNat == 0x3000

def trimStart (s : List Char) : List Char := s.dropWhile isBlank

def trimEnd (s : List Char) : List Char := (trimStart s.reverse).reverse

def trim (s : List Char) : List Char := trimEnd (trimStart s)

theorem isBlank_of_isWhitespace (c : Char) (h : c.isWhitespace = true) : isBlank c = true := by
  simp only [Char.isWhitespace, Bool.or_eq_true, decide_eq_true_eq] at h
  rcases h with ((rfl | rfl) | rfl) | rfl <;> decide

theorem trimStart_append_of_blank {w : List Char} (h : ∀ c ∈ w, isBlank c = true) (s : List Char) :
    trimStart (w ++ s) = trimStart s :=
  List.dropWhile_append_of_pos h

theorem trimStart_eq_self {s : List Char} (h : ∀ c, s.head? = some c → isBlank c = false) :
    trimStart s = s := by
  cases s with
  | nil => rfl
  | cons c s => simp [trimStart, h c rfl]

/-- Puts a character in front of the pieces of what follows it. A line feed closes its piece. -/
def cut (c : Char) : List (List Char) → List (List Char)
  | [] => [[c]]
  | piece :: more => if c = '\n' then [c] :: piece :: more else (c :: piece) :: more

def pieces (text : List Char) : List (List Char) := text.foldr cut []

def chomp (piece : List Char) : List Char :=
  match piece.reverse with
  | '\n' :: '\r' :: line => line.reverse
  | '\n' :: line => line.reverse
  | _ => piece

def lines (text : List Char) : List (List Char) := (pieces text).map chomp

@[simp] theorem pieces_nil : pieces [] = [] := rfl

theorem pieces_cons (c : Char) (text : List Char) : pieces (c :: text) = cut c (pieces text) := rfl

theorem flatten_cut (c : Char) (ps : List (List Char)) : (cut c ps).flatten = c :: ps.flatten := by
  cases ps with
  | nil => rfl
  | cons piece more => by_cases h : c = '\n' <;> simp [cut, h]

/-- Nothing is lost between the lines. -/
theorem flatten_pieces (text : List Char) : (pieces text).flatten = text := by
  induction text with
  | nil => rfl
  | cons c text ih => rw [pieces_cons, flatten_cut, ih]

@[simp] theorem lines_nil : lines [] = [] := rfl

@[simp] theorem chomp_crlf (line : List Char) : chomp (line ++ ['\r', '\n']) = line := by
  simp [chomp]

theorem chomp_lf (line : List Char) (h : line.getLast? ≠ some '\r') :
    chomp (line ++ ['\n']) = line := by
  unfold chomp
  simp only [List.reverse_append, List.reverse_cons, List.reverse_nil, List.nil_append,
    List.cons_append]
  cases hr : line.reverse with
  | nil => simp_all
  | cons c rest =>
    have last : line.getLast? = some c := by
      rw [← List.head?_reverse, hr]; rfl
    have : c ≠ '\r' := by rintro rfl; exact h last
    simp only [← hr]
    split <;> simp_all

theorem chomp_open (line : List Char) (h : '\n' ∉ line) : chomp line = line := by
  unfold chomp
  cases hr : line.reverse with
  | nil => rfl
  | cons c rest =>
    have : c ∈ line := by rw [← List.mem_reverse, hr]; simp
    have : c ≠ '\n' := by rintro rfl; exact h this
    split <;> simp_all

end SchedLatency.Text
