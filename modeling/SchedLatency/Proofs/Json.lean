import SchedLatency.Proofs.Reading

/-! The part of JSON that whole numbers, arrays and objects make, with names that need no escapes.
Main statement: `Within.reads`, the text of a value is read back by any reader that goes deep enough. -/
namespace SchedLatency

open Text

inductive Json where
  | number (n : Nat)
  | array (items : List Json)
  | object (members : List (String × Json))

namespace Json

mutual

/-- Without white space. -/
def text : Json → String
  | number n => toString n
  | array items => "[" ++ String.join ((texts items).intersperse ",") ++ "]"
  | object members => "\x7b" ++ String.join ((memberTexts members).intersperse ",") ++ "\x7d"

def texts : List Json → List String
  | [] => []
  | item :: items => item.text :: texts items

def memberTexts : List (String × Json) → List String
  | [] => []
  | (name, value) :: members => ("\"" ++ name ++ "\":" ++ value.text) :: memberTexts members

end

theorem texts_eq_map (items : List Json) : texts items = items.map text := by
  induction items with
  | nil => rfl
  | cons item items ih => rw [texts, ih, List.map_cons]

def memberText (member : String × Json) : String := "\"" ++ member.1 ++ "\":" ++ member.2.text

theorem memberTexts_eq_map (members : List (String × Json)) :
    memberTexts members = members.map memberText := by
  induction members with
  | nil => rfl
  | cons member members ih => rw [memberTexts, ih, List.map_cons, memberText]

theorem toList_text_array (items : List Json) : (array items).text.toList = "[".toList ++
    ((String.join ((items.map text).intersperse ",")).toList ++ "]".toList) := by
  simp [text, texts_eq_map]

theorem toList_text_object (members : List (String × Json)) : (object members).text.toList =
    "\x7b".toList ++
      ((String.join ((members.map memberText).intersperse ",")).toList ++ "\x7d".toList) := by
  simp [text, memberTexts_eq_map]

/-! Reading -/

def isPlain (c : Char) : Bool := c ≠ '"' && c ≠ '\\' && ' ' ≤ c

def member? (value : FrontReader Json) : FrontReader (String × Json) := fun text => do
  let text ← Lscpu.after? "\"" text
  let (value, rest) ← labelled? "\":" value (text.dropWhile isPlain)
  some ((String.ofList (text.takeWhile isPlain), value), rest)

def value? : Nat → FrontReader Json
  | 0, _ => none
  | depth + 1, text =>
    number?.mapped number text <|> (bracketed? "[" (value? depth) "]").mapped array text <|>
      (bracketed? "\x7b" (member? (value? depth)) "\x7d").mapped object text

/-- Numbers, arrays and objects that are nested no deeper than this, with plain names. -/
inductive Within : Nat → Json → Prop where
  | number (n : Nat) : Within (depth + 1) (number n)
  | array (each : ∀ item ∈ items, Within depth item) : Within (depth + 1) (array items)
  | object (names : ∀ member ∈ members, member.1.toList.all isPlain = true)
      (values : ∀ member ∈ members, Within depth member.2) : Within (depth + 1) (object members)

theorem not_number (other : c.isDigit = false) (rest : List Char) :
    Text.number?.mapped number (c :: rest) = none :=
  FrontReader.mapped_eq_none (number?_eq_none (marked_cons other))

theorem value?_bracket (depth : Nat) (rest : List Char) :
    value? (depth + 1) ('[' :: rest) = (bracketed? "[" (value? depth) "]").mapped array ('[' :: rest) := by
  have object : (bracketed? "\x7b" (member? (value? depth)) "\x7d").mapped object ('[' :: rest) = none :=
    FrontReader.mapped_eq_none (bracketed?_eq_none rfl)
  rw [value?, not_number (by decide), object]
  simp

theorem value?_brace (depth : Nat) (rest : List Char) : value? (depth + 1) ('\x7b' :: rest) =
    (bracketed? "\x7b" (member? (value? depth)) "\x7d").mapped object ('\x7b' :: rest) := by
  have array : (bracketed? "[" (value? depth) "]").mapped array ('\x7b' :: rest) = none :=
    FrontReader.mapped_eq_none (bracketed?_eq_none rfl)
  rw [value?, not_number (by decide), array]
  simp

theorem value?_closing (depth : Nat) (rest : List Char) : value? depth (']' :: rest) = none := by
  cases depth with
  | zero => rfl
  | succ depth =>
    rw [value?, not_number (by decide)]
    rfl

theorem Reads.member? {value : FrontReader Json} {member : String × Json}
    (plain : member.1.toList.all isPlain = true)
    (reads : Reads value member.2.text.toList member.2) :
    Reads (member? value) (memberText member).toList member := by
  obtain ⟨name, j⟩ := member
  intro rest apart
  have cut : (memberText (name, j)).toList ++ rest =
      "\"".toList ++ (name.toList ++ '"' :: ':' :: (j.text.toList ++ rest)) := by
    simp [memberText]
  have ends : ('"' :: ':' :: (j.text.toList ++ rest)).takeWhile isPlain = [] ∧
      ('"' :: ':' :: (j.text.toList ++ rest)).dropWhile isPlain =
        "\":".toList ++ j.text.toList ++ rest := ⟨rfl, rfl⟩
  rw [cut, Json.member?, after?_append]
  have each := List.all_eq_true.mp plain
  simp only [Option.bind_eq_bind, Option.bind_some, List.takeWhile_append_of_pos each,
    List.dropWhile_append_of_pos each, ends]
  rw [reads.labelled? "\":" rest apart]
  simp

/-- By induction on the nesting: the items and members of a value are read back one level down. -/
theorem Within.reads (within : Within depth j) : Reads (value? depth) j.text.toList j := by
  induction within with
  | number n =>
    intro rest apart
    rw [text, value?, (reads_number? n).mapped Json.number rest apart]
    rfl
  | array _ reads =>
    intro rest apart
    have items := reads_bracketed? "[" "]" (marked_cons (c := ']') rfl) reads (value?_closing _)
      fun _ => rfl
    rw [toList_text_array]
    exact (value?_bracket _ _).trans (items.mapped Json.array rest apart)
  | object names _ reads =>
    intro rest apart
    have each := fun member mem => Reads.member? (names member mem) (reads member mem)
    have members := reads_bracketed? "\x7b" "\x7d" (marked_cons (c := '\x7d') rfl) each
      (fun _ => rfl) fun _ => rfl
    rw [toList_text_object]
    exact (value?_brace _ _).trans (members.mapped Json.object rest apart)

/-! Documents -/

def isSpace (c : Char) : Bool := c = ' ' || c = '\t' || c = '\n' || c = '\r'

/-- The value of a text that is one value, with white space after it. -/
def document? (depth : Nat) (text : String) : Option Json :=
  match value? depth text.toList with
  | some (j, rest) => if rest.all isSpace then some j else none
  | none => none

theorem Within.document?_text (within : Within depth j) (space : after.toList.all isSpace = true) :
    document? depth (j.text ++ after) = some j := by
  have apart : Apart after.toList := by
    intro c first
    have blank := List.all_eq_true.mp space c (List.mem_of_mem_head? first)
    simp only [isSpace, Bool.or_eq_true, decide_eq_true_eq] at blank
    rcases blank with ((rfl | rfl) | rfl) | rfl <;> rfl
  rw [document?, String.toList_append, within.reads _ apart]
  exact if_pos space

def member (name : String) : Json → Option Json
  | object members => members.lookup name
  | _ => none

def items? : Json → Option (List Json)
  | array items => some items
  | _ => none

def number? : Json → Option Nat
  | number n => some n
  | _ => none

end Json
end SchedLatency
