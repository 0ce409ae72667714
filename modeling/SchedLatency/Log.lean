import SchedLatency.Journal
import SchedLatency.Sample
import SchedLatency.Text.Lines

/-! The probe's log: the latencies of each thread in order of arrival, and the data lines that
were refused. Every data line adds to exactly one of the two. -/
namespace SchedLatency

/-- A data line that yields no sample, or one of a thread that does not exist. -/
structure Reject where
  line : String
  fault : LineFault
  deriving DecidableEq, Repr

def Reject.error (r : Reject) : Error := .logLine r.line r.fault.reason

def readLine (line : String) : Except Reject (Option Sample) :=
  (Sample.readLine line.toList).mapError (⟨line, ·⟩)

structure Log where
  buckets : Array (Array Nat)
  rejects : Array Reject
  deriving Repr

namespace Log

/-- Memory is taken as unlimited: there is a bucket for each of any number of threads. -/
def empty (threads : Nat) : Log := ⟨Array.replicate threads #[], #[]⟩

def reject (log : Log) (r : Reject) : Log := { log with rejects := log.rejects.push r }

def record (log : Log) (line : String) : Log :=
  match readLine line with
  | .ok none => log
  | .ok (some s) =>
    if s.thread < log.buckets.size then
      { log with buckets := log.buckets.modify s.thread (·.push s.latency) }
    else log.reject ⟨line, .noSuchThread s.thread log.buckets.size⟩
  | .error r => log.reject r

def parse (text : String) (threads : Nat) : Log :=
  ((Text.lines text.toList).map String.ofList).foldl record (empty threads)

def threads (log : Log) : Nat := log.buckets.size

/-- The latencies of one thread; a thread that does not exist has none. -/
def thread (log : Log) (id : Nat) : List Nat := (log.buckets[id]?.getD #[]).toList

def latencies (log : Log) : List (List Nat) := log.buckets.toList.map Array.toList

def total (log : Log) : Nat := log.latencies.flatten.length

def rejected (log : Log) : Nat := log.rejects.size

def messages (log : Log) : List Message :=
  log.rejects.toList.map fun r => ⟨.error, .log, r.error.message⟩

/-- A log together with the messages that its reading leaves in the journal. -/
def read (text : String) (threads : Nat) : Traced Log :=
  let log := parse text threads
  ⟨log.messages.map .logged, log⟩

@[simp] theorem threads_empty (n : Nat) : (empty n).threads = n := by simp [threads, empty]

@[simp] theorem thread_empty (n id : Nat) : (empty n).thread id = [] := by
  simp only [thread, empty, Array.getElem?_replicate]
  split <;> rfl

@[simp] theorem threads_record (log : Log) (line : String) :
    (log.record line).threads = log.threads := by
  unfold record
  split
  · rfl
  · split <;> simp [threads, reject]
  · rfl

theorem threads_foldl_record (log : Log) (ls : List String) :
    (ls.foldl record log).threads = log.threads := by
  induction ls generalizing log with
  | nil => rfl
  | cons line ls ih => rw [List.foldl_cons, ih, threads_record]

@[simp] theorem threads_parse (text : String) (n : Nat) : (parse text n).threads = n := by
  rw [parse, threads_foldl_record, threads_empty]

end Log
end SchedLatency
