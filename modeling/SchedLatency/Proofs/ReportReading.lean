import SchedLatency.Proofs.Delivery
import SchedLatency.Proofs.Encoding
import SchedLatency.Proofs.Json
import SchedLatency.Proofs.Phases

/-! Reports are read back, of any length and with numbers of any size. Main statement:
`Report.reports_readBack`. -/
namespace SchedLatency

open Text
open Text.Utf8 (encode decode? decode?_encode)

namespace ThreadStats

def json (s : ThreadStats) : Json :=
  .object [("thread_id", .number s.thread), ("min", .number s.min), ("median", .number s.median),
    ("p99", .number s.p99), ("max", .number s.max)]

/-- The numbers are found by their names. -/
def ofJson? (j : Json) : Option ThreadStats := do
  let number name := j.member name >>= Json.number?
  return ⟨← number "thread_id", ← number "min", ← number "median", ← number "p99", ← number "max"⟩

theorem ofJson?_json (s : ThreadStats) : ofJson? s.json = some s := by
  simp [ofJson?, json, Json.member, List.lookup_cons, Json.number?]

theorem text_json (s : ThreadStats) : s.json.text = Report.object s := by
  apply String.toList_inj.mp
  unfold Report.object
  simp [json, Json.text, Json.memberTexts]

theorem within_json (s : ThreadStats) (depth : Nat) : s.json.Within (depth + 2) := by
  refine .object ?_ ?_
  · simp only [List.forall_mem_cons, List.not_mem_nil, false_implies, implies_true, and_true]
    exact ⟨rfl, rfl, rfl, rfl, rfl⟩
  · simp only [List.forall_mem_cons, List.not_mem_nil, false_implies, implies_true, and_true]
    exact ⟨.number _, .number _, .number _, .number _, .number _⟩

end ThreadStats

namespace Report

/-! The text format -/

def block? : FrontReader ThreadStats := fun text => do
  let (thread, text) ← labelled? "Thread #" number? text
  let (min, text) ← labelled? ":\nmin: " number? text
  let (median, text) ← labelled? "\nmedian: " number? text
  let (p99, text) ← labelled? "\np99: " number? text
  let (max, text) ← labelled? "\nmax: " number? text
  some (⟨thread, min, median, p99, max⟩, ← Lscpu.after? "\n" text)

theorem labelled?_number? (label : String) {next : String} (marked : Marked next.toList) (n : Nat)
    (rest : List Char) :
    labelled? label number? (label.toList ++ ((toString n).toList ++ (next.toList ++ rest))) =
      some (n, next.toList ++ rest) := by
  rw [← List.append_assoc]
  exact (reads_number? n).labelled? label _ (marked.append rest).apart

theorem reads_block? (s : ThreadStats) : Reads block? (String.join (block s)).toList s := by
  intro rest _
  have cut : (String.join (block s)).toList ++ rest =
      "Thread #".toList ++ ((toString s.thread).toList ++ (":\nmin: ".toList ++
        ((toString s.min).toList ++ ("\nmedian: ".toList ++ ((toString s.median).toList ++
          ("\np99: ".toList ++ ((toString s.p99).toList ++ ("\nmax: ".toList ++
            ((toString s.max).toList ++ ("\n".toList ++ rest)))))))))) := by
    simp [block]
  have colon : Marked ":\nmin: ".toList := marked_cons (c := ':') rfl
  have median : Marked "\nmedian: ".toList := marked_cons (c := '\n') rfl
  have p99 : Marked "\np99: ".toList := marked_cons (c := '\n') rfl
  have max : Marked "\nmax: ".toList := marked_cons (c := '\n') rfl
  have ending : Marked "\n".toList := marked_cons (c := '\n') rfl
  rw [cut, block?]
  simp only [labelled?_number? _ colon, labelled?_number? _ median, labelled?_number? _ p99,
    labelled?_number? _ max, labelled?_number? _ ending, after?_append, Option.bind_eq_bind,
    Option.bind_some]

theorem block?_nil : block? [] = none := rfl

theorem marked_block (s : ThreadStats) : Marked (String.join (block s)).toList := by
  have begins : (String.join (block s)).toList =
      'T' :: (String.join (block s)).toList.tail := by
    simp [block]
  rw [begins]
  exact marked_cons rfl

def readText? (text : String) : Option (List ThreadStats) :=
  match many block? text.toList with
  | (stats, []) => some stats
  | _ => none

theorem readText?_render (stats : List ThreadStats) :
    readText? (render .text stats) = some stats := by
  have blocks : (render .text stats).toList =
      (stats.flatMap fun s => (String.join (block s)).toList) ++ [] := by
    simp [render, pieces, List.flatMap_assoc]
  rw [readText?, blocks, many_flatMap (fun s _ => reads_block? s) marked_block apart_nil block?_nil]

/-! The JSON format -/

def document (stats : List ThreadStats) : Json :=
  .object [("stats", .array (stats.map ThreadStats.json))]

def ofDocument? (j : Json) : Option (List ThreadStats) := do
  (← (← j.member "stats").items?).mapM ThreadStats.ofJson?

theorem ofDocument?_document (stats : List ThreadStats) : ofDocument? (document stats) = some stats := by
  have each : (stats.map ThreadStats.json).mapM ThreadStats.ofJson? = some stats := by
    induction stats with
    | nil => rfl
    | cons s stats ih => simp [ThreadStats.ofJson?_json, ih]
  simpa [ofDocument?, document, Json.member, Json.items?] using each

theorem within_document (stats : List ThreadStats) (depth : Nat) :
    (document stats).Within (depth + 4) := by
  have array : (Json.array (stats.map ThreadStats.json)).Within (depth + 3) := by
    refine .array fun item member => ?_
    obtain ⟨s, -, rfl⟩ := List.mem_map.mp member
    exact s.within_json depth
  have name : "stats".toList.all Json.isPlain = true := rfl
  exact .object (List.forall_mem_singleton.mpr name) (List.forall_mem_singleton.mpr array)

theorem render_json (stats : List ThreadStats) :
    render .json stats = (document stats).text ++ "\n" := by
  have objects : (stats.map ThreadStats.json).map Json.text = stats.map object := by
    simp [ThreadStats.text_json]
  apply String.toList_inj.mp
  simp [render, pieces, document, Json.text, Json.memberTexts, Json.texts_eq_map, ← objects]

theorem document?_render (stats : List ThreadStats) (depth : Nat) :
    Json.document? (depth + 4) (render .json stats) = some (document stats) := by
  rw [render_json]
  exact (within_document stats depth).document?_text rfl

/-! Both formats -/

def read? (format : Format) (bytes : Bytes) : Option (List ThreadStats) := do
  let text ← decode? bytes
  match format with
  | .text => readText? text
  | .json => ofDocument? (← Json.document? 4 text)

theorem read?_encode_render (format : Format) (stats : List ThreadStats) :
    read? format (encode (render format stats)) = some stats := by
  rw [read?, decode?_encode]
  cases format with
  | text => exact readText?_render stats
  | json =>
    have document := document?_render stats 0
    simp [document, ofDocument?_document]

/-- The reports of a format can be read in this way. -/
structure Format.ReadBy (format : Format) (read : Bytes → Option (List ThreadStats)) : Prop where
  rendered : ∀ stats, read (encode (render format stats)) = some stats
  /-- What reaches a medium that has room for the report is the report. -/
  written : ∀ (stats : List ThreadStats) (medium : Medium),
    medium.Takes (encode (render format stats)) →
    ∃ sink, write format stats medium.fresh = (.ok (), sink) ∧
      read sink.taken.toList = some stats
  distinct : Function.Injective fun stats => encode (render format stats)

/-- Each format has a reader, which gets back every list of statistics from its report. The JSON report
is the text of one object with one member, and a line feed. -/
theorem reports_readBack : (∀ format : Format, format.ReadBy (read? format)) ∧
    ∀ stats, render .json stats = (document stats).text ++ "\n" ∧
      ∀ depth, Json.document? (depth + 4) (render .json stats) = some (document stats) := by
  refine ⟨fun format => ⟨read?_encode_render format, ?_, ?_⟩, fun stats =>
    ⟨render_json stats, document?_render stats⟩⟩
  · intro stats medium takes
    obtain ⟨sink, done, taken⟩ := write_taken takes
    exact ⟨sink, done, by rw [taken, read?_encode_render]⟩
  · intro stats stats' same
    have read := congrArg (read? format) same
    dsimp only at read
    rw [read?_encode_render, read?_encode_render] at read
    exact Option.some.inj read

end Report
end SchedLatency
