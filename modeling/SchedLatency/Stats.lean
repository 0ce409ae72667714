import SchedLatency.Log

/-! Order statistics of one thread's latencies. The value of rank `p` percent among `n` ascending
values stands at place `n * p / 100`, so that the median of an even number of values is the upper
of the two in the middle and never an average. -/
namespace SchedLatency

structure ThreadStats where
  thread : Nat
  min : Nat
  median : Nat
  p99 : Nat
  max : Nat
  deriving DecidableEq, Repr

/-- How the program is built. Where the result of an operation on words is no word, a checked build
panics and a release build wraps around. -/
inductive Build where
  | checked
  | release
  deriving DecidableEq, Repr

/-- What ends the program at once. -/
inductive Panic where
  | multiply
  | subtract
  | index (length place : Nat)
  deriving DecidableEq, Repr

def Panic.text : Panic → String
  | .multiply => "attempt to multiply with overflow"
  | .subtract => "attempt to subtract with overflow"
  | .index length place => s!"index out of bounds: the len is {length} but the index is {place}"

def Build.multiply (build : Build) (a b : Nat) : Except Panic Nat :=
  match build with
  | .checked => if a * b < Text.wordLimit then .ok (a * b) else .error .multiply
  | .release => .ok (a * b % Text.wordLimit)

def Build.pred (build : Build) : Nat → Except Panic Nat
  | 0 =>
    match build with
    | .checked => .error .subtract
    | .release => .ok (Text.wordLimit - 1)
  | n + 1 => .ok n

def valueAt (values : List Nat) (place : Nat) : Except Panic Nat :=
  match values[place]? with
  | some v => .ok v
  | none => .error (.index values.length place)

/-- The value of rank `p` percent. -/
def percentile (build : Build) (sorted : List Nat) (p : Nat) : Except Panic Nat := do
  let product ← build.multiply sorted.length p
  let last ← build.pred sorted.length
  valueAt sorted (min (product / 100) last)

/-- The value of a rank in a release build. The other builds have the same wherever the product of
the rank and the number of values is a word (`percentile_of_fits`). -/
def percentile? (sorted : List Nat) (p : Nat) : Option Nat := (percentile .release sorted p).toOption

/-- A thread without samples has no statistics. -/
def ThreadStats.ofSamples? (thread : Nat) (samples : List Nat) : Option ThreadStats := do
  let sorted := samples.mergeSort
  return ⟨thread, ← sorted.head?, ← percentile? sorted 50, ← percentile? sorted 99,
    ← sorted.getLast?⟩

def summarize (latencies : List (List Nat)) : List ThreadStats :=
  latencies.zipIdx.filterMap fun (samples, thread) => ThreadStats.ofSamples? thread samples

def Log.stats (log : Log) : List ThreadStats := summarize log.latencies

theorem valueAt_eq_ok_iff {values : List Nat} {place v : Nat} :
    valueAt values place = .ok v ↔ values[place]? = some v := by
  unfold valueAt
  cases values[place]? <;> simp

theorem Build.pred_of_pos {n : Nat} (positive : 0 < n) (build : Build) :
    build.pred n = .ok (n - 1) := by
  cases n with
  | zero => contradiction
  | succ n => rfl

theorem Build.multiply_of_fits {a b : Nat} (fits : a * b < Text.wordLimit) (build : Build) :
    build.multiply a b = .ok (a * b) := by
  cases build with
  | checked => exact if_pos fits
  | release => rw [multiply, Nat.mod_eq_of_lt fits]

theorem percentile?_eq_some_iff_release {sorted : List Nat} {p v : Nat} :
    percentile? sorted p = some v ↔ percentile .release sorted p = .ok v := by
  unfold percentile?
  cases percentile .release sorted p <;> simp [Except.toOption]

theorem percentile?_eq (sorted : List Nat) (p : Nat) : percentile? sorted p =
    sorted[min (sorted.length * p % Text.wordLimit / 100) (sorted.length - 1)]? := by
  apply Option.ext
  intro v
  rw [percentile?_eq_some_iff_release]
  cases sorted with
  | nil => simp [percentile, Build.multiply, Build.pred, valueAt, Bind.bind, Except.bind]
  | cons x xs => exact valueAt_eq_ok_iff

/-- Where the product is a word, it does not matter how the program is built. -/
theorem percentile_of_fits {sorted : List Nat} {p : Nat} (nonempty : sorted ≠ [])
    (fits : sorted.length * p < Text.wordLimit) (build : Build) : percentile build sorted p =
      valueAt sorted (min (sorted.length * p / 100) (sorted.length - 1)) := by
  rw [percentile, build.multiply_of_fits fits, build.pred_of_pos (List.length_pos_iff.mpr nonempty)]
  rfl

@[simp] theorem percentile?_nil (p : Nat) : percentile? [] p = none := by simp [percentile?_eq]

theorem percentile?_isSome {sorted : List Nat} (h : sorted ≠ []) (p : Nat) :
    (percentile? sorted p).isSome = true := by
  have := List.length_pos_iff.2 h
  rw [percentile?_eq, List.getElem?_eq_getElem (by omega)]
  rfl

@[simp] theorem ThreadStats.ofSamples?_nil (thread : Nat) : ofSamples? thread [] = none := by
  simp [ofSamples?]

@[simp] theorem summarize_nil : summarize [] = [] := rfl

end SchedLatency
