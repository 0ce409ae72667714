import SchedLatency.Pattern.Meaning
import SchedLatency.Pattern.Size

/-! Finding a pattern in a text. A matcher is a list of steps, each with the steps behind it. The
text is read once, and all steps that some match may stand at are kept side by side. -/
namespace SchedLatency.Pattern

inductive Step where
  | take (set : CharIndex) (next : Nat)
  | check (a : Anchor) (next : Nat)
  | fork (first second : Nat)
  | done
  deriving DecidableEq, Repr

structure Matcher where
  steps : Array Step
  start : Nat
  deriving DecidableEq, Repr

namespace Matcher

/-! A pattern becomes steps from its end, so that the steps behind it are known. -/

abbrev Building := StateM (Array Step)

def emit (s : Step) : Building Nat := modifyGet fun steps => (steps.size, steps.push s)

/-- Puts a part a number of times in front of a step. -/
def times : Nat → (Nat → Building Nat) → Nat → Building Nat
  | 0, _, next => return next
  | n + 1, part, next => do times n part (← part next)

/-- Puts a part in front of itself, to be taken or left each time. -/
def loop (part : Nat → Building Nat) (next : Nat) : Building Nat := do
  let fork ← emit .done
  let first ← part fork
  modify (·.setIfInBounds fork (.fork first next))
  return fork

mutual

/-- The first step of a pattern in front of a step. -/
def build : Pattern → Nat → Building Nat
  | .empty, next => return next
  | .literal cs, next => cs.foldrM (fun c next => emit (.take (.ofSet (.single c)) next)) next
  | .one set, next => emit (.take (.ofSet set) next)
  | .anchor a, next => emit (.check a next)
  | .group _ p, next => build p next
  | .repeated p least most _, next => do
    let part := build p
    let next ← match most with
      | none => loop part next
      | some most => times (most - least) (fun behind => do emit (.fork (← part behind) next)) next
    times least part next
  | .sequence ps, next => (partsOf [] ps).foldlM (fun next part => part next) next
  | .choice ps, next =>
    match partsOf [] ps with
    | [] => return next
    | last :: before => do
      let last ← last next
      before.foldlM (fun other part => do emit (.fork (← part next) other)) last

/-- What puts each of several parts in front of a step, the last one first. -/
def partsOf (before : List (Nat → Building Nat)) : List Pattern → List (Nat → Building Nat)
  | [] => before
  | p :: ps => partsOf (build p :: before) ps

end

def ofPattern (p : Pattern) : Matcher :=
  let (start, steps) := (do build p (← emit .done) : Building Nat).run #[]
  { steps, start }

def read (text : List Char) : Except Fault Matcher := do
  let tree ← readTree text
  tree.checkDepth
  let (p, _) ← tree.pattern {}
  checkSize p
  return ofPattern p

structure Reached where
  /-- For each step the number of the last place where it was reached. -/
  seen : Array Nat
  /-- The steps that take a character. -/
  live : List Nat := []
  finished : Bool := false

/-- Adds steps and those behind them, as far as no character has to be taken. Each step is followed
at most once at a place, so twice the number of steps is enough beside those to begin with. -/
def follow (m : Matcher) (before after : Option Char) (place : Nat) :
    Nat → List Nat → Array Nat → List Nat → Reached
  | 0, _, seen, live => { seen, live }
  | _, [], seen, live => { seen, live }
  | fuel + 1, n :: todo, seen, live =>
    if seen.getD n place = place then follow m before after place fuel todo seen live
    else
      let seen := seen.setIfInBounds n place
      match m.steps.getD n .done with
      | .take _ _ => follow m before after place fuel todo seen (n :: live)
      | .check a next =>
        let todo := if a.holds before after then next :: todo else todo
        follow m before after place fuel todo seen live
      | .fork first second =>
        follow m before after place fuel (first :: second :: todo) seen live
      | .done => { seen, live, finished := true }

def after? (m : Matcher) (c : Char) (n : Nat) : Option Nat :=
  match m.steps.getD n .done with
  | .take set next => if set.contains c then some next else none
  | _ => none

/-- Whether a match ends in what remains of a text. Places count from one; a match may begin at each
of them. -/
def search (m : Matcher) (before : Option Char) (place : Nat) (todo : List Nat) (seen : Array Nat)
    (text : List Char) : Bool :=
  let todo := m.start :: todo
  let reached := m.follow before text.head? place (todo.length + 2 * m.steps.size) todo seen []
  match text with
  | [] => reached.finished
  | c :: rest => reached.finished ||
    m.search (some c) (place + 1) (reached.live.filterMap (m.after? c)) reached.seen rest

def occursIn (m : Matcher) (text : List Char) : Bool :=
  m.search none 1 [] (Array.replicate m.steps.size 0) text

end Matcher
end SchedLatency.Pattern
