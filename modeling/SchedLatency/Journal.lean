import SchedLatency.Error

/-! The journal of a computation: what it asked, started, awaited and logged, in order. A value
that comes with its journal is `Traced`; sequencing appends journals. -/
namespace SchedLatency

inductive Level where
  | error
  | warn
  | info
  | debug
  deriving DecidableEq, Repr

def Level.rank : Level → Nat
  | .error => 1
  | .warn => 2
  | .info => 3
  | .debug => 4

def Level.label : Level → String
  | .error => "ERROR"
  | .warn => "WARN"
  | .info => "INFO"
  | .debug => "DEBUG"

/-- The part of the program that a message comes from. Log filters select by it. -/
inductive Source where
  | log
  | topology
  | runner
  | runCommand
  | parseCommand
  deriving DecidableEq, Repr

def Source.path : Source → String
  | .log => "cyclicbench::parser"
  | .topology => "cyclicbench::topology"
  | .runner => "cyclicbench::orchestrator"
  | .runCommand => "cyclicbench::cli::run"
  | .parseCommand => "cyclicbench::cli::parse"

structure Message where
  level : Level
  source : Source
  text : String
  deriving DecidableEq, Repr

inductive Query where
  | cpuCount
  | coreRanges
  deriving DecidableEq, Repr

inductive Phase where
  | idle
  | loadStarted
  | probeRunning
  | probeComplete
  | loadVerified
  | done
  | failed
  deriving DecidableEq, Repr

def Phase.label : Phase → String
  | .idle => "IDLE"
  | .loadStarted => "LOAD_STARTED"
  | .probeRunning => "PROBE_RUNNING"
  | .probeComplete => "PROBE_COMPLETE"
  | .loadVerified => "LOAD_VERIFIED"
  | .done => "DONE"
  | .failed => "FAILED"

/-- Launches are recorded whether or not the program could be started. -/
inductive Event where
  | asked (query : Query)
  | launchedLoad (dir : String) (argv : List String)
  | launchedProbe (argv : List String)
  | probeEnded (exit : Exit)
  | awaitedLoad
  | entered (phase : Phase)
  | logged (message : Message)
  deriving DecidableEq, Repr

def phaseAfter (start : Phase) : List Event → Phase
  | [] => start
  | .entered next :: rest => phaseAfter next rest
  | _ :: rest => phaseAfter start rest

/-- The messages of a journal. Each change of phase is reported with the phase that it leaves. -/
def messages (start : Phase) : List Event → List Message
  | [] => []
  | .entered next :: rest =>
    ⟨.debug, .runner, s!"RUN PHASE: {start.label} -> {next.label}"⟩ :: messages next rest
  | .logged m :: rest => m :: messages start rest
  | _ :: rest => messages start rest

def queries (events : List Event) : List Query :=
  events.filterMap fun
    | .asked query => some query
    | _ => none

theorem phaseAfter_append (start : Phase) (xs ys : List Event) :
    phaseAfter start (xs ++ ys) = phaseAfter (phaseAfter start xs) ys := by
  induction xs generalizing start with
  | nil => rfl
  | cons x xs ih => cases x <;> simp [phaseAfter, ih]

theorem messages_append (start : Phase) (xs ys : List Event) :
    messages start (xs ++ ys) = messages start xs ++ messages (phaseAfter start xs) ys := by
  induction xs generalizing start with
  | nil => rfl
  | cons x xs ih => cases x <;> simp [messages, phaseAfter, ih]

@[simp] theorem queries_append (xs ys : List Event) :
    queries (xs ++ ys) = queries xs ++ queries ys := by
  simp [queries]

@[ext]
structure Traced (α : Type) where
  events : List Event
  value : α

namespace Traced

instance : Monad Traced where
  pure a := ⟨[], a⟩
  bind x f := ⟨x.events ++ (f x.value).events, (f x.value).value⟩

@[simp] theorem events_pure (a : α) : (pure a : Traced α).events = [] := rfl
@[simp] theorem value_pure (a : α) : (pure a : Traced α).value = a := rfl

@[simp] theorem events_bind (x : Traced α) (f : α → Traced β) :
    (x >>= f).events = x.events ++ (f x.value).events := rfl
@[simp] theorem value_bind (x : Traced α) (f : α → Traced β) :
    (x >>= f).value = (f x.value).value := rfl

instance : LawfulMonad Traced :=
  LawfulMonad.mk' Traced (fun x => by simp [Functor.map])
    (fun a f => by simp [pure, bind]) (fun x f g => by simp [bind])

@[simp] theorem events_map (f : α → β) (x : Traced α) : (f <$> x).events = x.events := by
  simp [Functor.map]
@[simp] theorem value_map (f : α → β) (x : Traced α) : (f <$> x).value = f x.value := rfl

def emit (event : Event) : Traced Unit := ⟨[event], ()⟩

def log (level : Level) (source : Source) (text : String) : Traced Unit :=
  emit (.logged ⟨level, source, text⟩)

def say (messages : List Message) : Traced Unit := ⟨messages.map .logged, ()⟩

@[simp] theorem events_emit (event : Event) : (emit event).events = [event] := rfl

@[simp] theorem events_log (level : Level) (source : Source) (text : String) :
    (log level source text).events = [.logged ⟨level, source, text⟩] := rfl

@[simp] theorem events_say (messages : List Message) :
    (say messages).events = messages.map .logged := rfl

end Traced
end SchedLatency
