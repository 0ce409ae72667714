import SchedLatency.Proofs.CountLine

/-! Readers that take a value off the front of a text and leave the rest. A text is read as a value if
that is so whatever follows, as long as it does not go on with a digit. Main statements:
`reads_number?` and `many_flatMap`. -/
namespace SchedLatency.Text

open Lscpu (after? after?_eq_some_iff)

abbrev FrontReader (α : Type) := List Char → Option (α × List Char)

/-- A numeral ends before this text. -/
def Apart (rest : List Char) : Prop := ∀ c, rest.head? = some c → c.isDigit = false

def Reads (read : FrontReader α) (text : List Char) (a : α) : Prop :=
  ∀ rest, Apart rest → read (text ++ rest) = some (a, rest)

@[simp] theorem apart_nil : Apart [] := by simp [Apart]

@[simp] theorem apart_cons : Apart (c :: rest) ↔ c.isDigit = false := by simp [Apart]

/-- A text that begins with something else than a digit. -/
structure Marked (text : List Char) : Prop where
  nonempty : text ≠ []
  apart : Apart text

theorem marked_cons (other : c.isDigit = false) : Marked (c :: text) :=
  ⟨List.cons_ne_nil c text, apart_cons.mpr other⟩

theorem Marked.append (marked : Marked text) (rest : List Char) : Marked (text ++ rest) := by
  obtain ⟨c, text, rfl⟩ := List.exists_cons_of_ne_nil marked.nonempty
  exact marked_cons (apart_cons.mp marked.apart)

@[simp] theorem after?_append (label : String) (rest : List Char) :
    after? label (label.toList ++ rest) = some rest :=
  after?_eq_some_iff.mpr rfl

def FrontReader.mapped (read : FrontReader α) (f : α → β) : FrontReader β := fun text =>
  (read text).map (Prod.map f id)

theorem Reads.mapped {read : FrontReader α} (reads : Reads read text a) (f : α → β) :
    Reads (read.mapped f) text (f a) := by
  intro rest apart
  rw [FrontReader.mapped, reads rest apart]
  rfl

theorem FrontReader.mapped_eq_none {read : FrontReader α} {f : α → β} (stop : read text = none) :
    read.mapped f text = none := by
  rw [mapped, stop]
  rfl

/-! Numbers -/

/-- A decimal numeral without leading zeros. -/
def number? : FrontReader Nat := fun text =>
  let digits := text.takeWhile Char.isDigit
  let n := Nat.ofDigitChars 10 digits 0
  if Nat.toDigits 10 n = digits then some (n, text.dropWhile Char.isDigit) else none

theorem reads_number? (n : Nat) : Reads number? (toString n).toList n := by
  intro rest apart
  have digits : ∀ c ∈ Nat.toDigits 10 n, c.isDigit = true :=
    fun c => Nat.isDigit_of_mem_toDigits (by decide) (by decide)
  have ends : rest.takeWhile Char.isDigit = [] ∧ rest.dropWhile Char.isDigit = rest := by
    cases rest with
    | nil => exact ⟨rfl, rfl⟩
    | cons c rest =>
      have other := apart_cons.mp apart
      exact ⟨List.takeWhile_cons_of_neg (by simp [other]), List.dropWhile_cons_of_neg (by simp [other])⟩
  rw [Nat.toString_eq_ofList_toDigits, String.toList_ofList, number?,
    List.takeWhile_append_of_pos digits, List.dropWhile_append_of_pos digits, ends.1, ends.2,
    List.append_nil, Nat.ofDigitChars_ten_toDigits, if_pos rfl]

theorem number?_eq_none (marked : Marked text) : number? text = none := by
  obtain ⟨c, text, rfl⟩ := List.exists_cons_of_ne_nil marked.nonempty
  have other := apart_cons.mp marked.apart
  rw [number?, List.takeWhile_cons_of_neg (by simp [other])]
  exact if_neg Nat.toDigits_ne_nil

def labelled? (label : String) (read : FrontReader α) : FrontReader α := fun text => do
  read (← after? label text)

theorem Reads.labelled? {read : FrontReader α} (label : String) (reads : Reads read text a) :
    Reads (labelled? label read) (label.toList ++ text) a := by
  intro rest apart
  rw [Text.labelled?, List.append_assoc, after?_append]
  exact reads rest apart

theorem labelled?_eq_none {read : FrontReader α} (other : after? label text = none) :
    labelled? label read text = none := by
  rw [labelled?, other]
  rfl

/-! Sequences -/

/-- Reads as often as something is taken. -/
def many (read : FrontReader α) (text : List Char) : List α × List Char :=
  match read text with
  | none => ([], text)
  | some (a, rest) =>
    if rest.length < text.length then
      let (as, rest) := many read rest
      (a :: as, rest)
    else ([], text)
termination_by text.length

theorem many_of_none {read : FrontReader α} (stop : read text = none) : many read text = ([], text) := by
  rw [many, stop]

theorem many_of_some {read : FrontReader α} {front rest : List Char}
    (step : read (front ++ rest) = some (a, rest)) (nonempty : front ≠ []) :
    many read (front ++ rest) = (a :: (many read rest).1, (many read rest).2) := by
  have shorter : rest.length < (front ++ rest).length := by
    simpa using List.length_pos_iff.mpr nonempty
  rw [many, step]
  exact if_pos shorter

theorem many_flatMap {read : FrontReader α} {write : α → List Char} {as : List α}
    (reads : ∀ a ∈ as, Reads read (write a) a) (marked : ∀ a, Marked (write a))
    (apart : Apart rest) (stop : read rest = none) :
    many read (as.flatMap write ++ rest) = (as, rest) := by
  have follows (as : List α) : Apart (as.flatMap write ++ rest) := by
    cases as with
    | nil => exact apart
    | cons a as =>
      rw [List.flatMap_cons, List.append_assoc]
      exact ((marked a).append _).apart
  induction as with
  | nil => exact many_of_none stop
  | cons a as ih =>
    obtain ⟨first, others⟩ := List.forall_mem_cons.mp reads
    rw [List.flatMap_cons, List.append_assoc,
      many_of_some (first _ (follows as)) (marked a).nonempty, ih others]

/-- Values with commas between them, perhaps none. -/
def separated? (item : FrontReader α) : FrontReader (List α) := fun text =>
  match item text with
  | none => some ([], text)
  | some (a, rest) =>
    let (as, rest) := many (labelled? "," item) rest
    some (a :: as, rest)

theorem toList_join_intersperse (first : String) (others : List String) :
    (String.join ((first :: others).intersperse ",")).toList =
      first.toList ++ others.flatMap fun text => ',' :: text.toList := by
  induction others generalizing first with
  | nil => simp
  | cons second others ih =>
    rw [List.intersperse_cons_cons, String.join_cons, String.join_cons, String.toList_append,
      String.toList_append, ih]
    rfl

/-- The values are read back if the rest begins with neither a value nor a comma. -/
theorem separated?_join {item : FrontReader α} {write : α → String} {as : List α}
    (reads : ∀ a ∈ as, Reads item (write a).toList a) (apart : Apart rest)
    (stop : item rest = none) (comma : after? "," rest = none) :
    separated? item ((String.join ((as.map write).intersperse ",")).toList ++ rest) =
      some (as, rest) := by
  cases as with
  | nil => simp [separated?, stop]
  | cons a as =>
    obtain ⟨first, others⟩ := List.forall_mem_cons.mp reads
    have further : ∀ b ∈ as, Reads (labelled? "," item) (',' :: (write b).toList) b :=
      fun b member => (others b member).labelled? ","
    have all := many_flatMap further (fun _ => marked_cons (by decide)) apart
      (labelled?_eq_none comma)
    have follows : Apart ((as.flatMap fun b => ',' :: (write b).toList) ++ rest) := by
      cases as with
      | nil => exact apart
      | cons b as => exact apart_cons.mpr (by decide)
    rw [List.map_cons, toList_join_intersperse, List.flatMap_map, List.append_assoc, separated?,
      first _ follows]
    dsimp only
    rw [all]

/-- Values with commas between them, and a mark at either end. -/
def bracketed? (opening : String) (item : FrontReader α) (closing : String) : FrontReader (List α) :=
  fun text => do
    let (as, rest) ← labelled? opening (separated? item) text
    some (as, ← after? closing rest)

/-- The values are read back if none begins with the closing mark. -/
theorem reads_bracketed? {item : FrontReader α} {write : α → String} {as : List α}
    (opening closing : String) (mark : Marked closing.toList)
    (reads : ∀ a ∈ as, Reads item (write a).toList a)
    (stop : ∀ rest, item (closing.toList ++ rest) = none)
    (comma : ∀ rest, after? "," (closing.toList ++ rest) = none) :
    Reads (bracketed? opening item closing) (opening.toList ++
      ((String.join ((as.map write).intersperse ",")).toList ++ closing.toList)) as := by
  intro rest _
  have all := separated?_join reads (mark.append rest).apart (stop rest) (comma rest)
  rw [bracketed?, labelled?, List.append_assoc, after?_append, List.append_assoc]
  dsimp only [Option.bind_eq_bind, Option.bind_some]
  rw [all]
  dsimp only [Option.bind_some]
  rw [after?_append]
  rfl

theorem bracketed?_eq_none {item : FrontReader α} (other : after? opening text = none) :
    bracketed? opening item closing text = none := by
  rw [bracketed?, labelled?_eq_none other]
  rfl

end SchedLatency.Text
