import SchedLatency.Pattern.Anchor
import SchedLatency.Pattern.Fault

/-! Patterns as they are written: parts within parts, each with its place in the text. What a part
means depends on flags and is told elsewhere. -/
namespace SchedLatency.Pattern

inductive LetterClass where
  | digit
  | space
  | word
  deriving DecidableEq, Repr

inductive Atom where
  /-- A character; `byte` says that it is written as two hexadecimal digits. -/
  | literal (c : Char) (byte : Bool)
  | dot
  /-- The start of the text, or of a line if the flags ask for lines. -/
  | start
  | stop
  | anchor (a : Anchor)
  | edge (side : WordEdge)
  | letter (kind : LetterClass) (negated : Bool)
  /-- A property by its name, as it is written. -/
  | property (name : List Char) (negated : Bool)
  deriving DecidableEq, Repr

structure Member where
  char : Char
  byte : Bool
  span : Span
  deriving DecidableEq, Repr

inductive SetOperator where
  | common
  | without
  | differing
  deriving DecidableEq, Repr

inductive SetTree where
  | nothing (span : Span)
  | member (m : Member)
  | range (first last : Member)
  | letter (kind : LetterClass) (negated : Bool) (span : Span)
  | property (name : List Char) (negated : Bool) (span : Span)
  /-- A class of ASCII characters. -/
  | named (set : CharSet) (negated : Bool) (span : Span)
  | bracket (negated : Bool) (inside : SetTree) (span : Span)
  | union (items : List SetTree) (span : Span)
  | operation (op : SetOperator) (left right : SetTree) (span : Span)

namespace SetTree

def span : SetTree → Span
  | nothing span => span
  | member m => m.span
  | range first last => ⟨first.span.start, last.span.stop⟩
  | letter _ _ span => span
  | property _ _ span => span
  | named _ _ span => span
  | bracket _ _ span => span
  | union _ span => span
  | operation _ _ _ span => span

/-- Items side by side, which are a part of their own only if there are several. Without items there
is nothing, at some place. -/
def ofItems (items : List SetTree) (place : Nat) : SetTree :=
  match items with
  | [] => nothing ⟨place, place⟩
  | [item] => item
  | first :: more => union items ⟨first.span.start, (more.getLast?.getD first).span.stop⟩

end SetTree

/-- How often a part repeats. Without `most` there is no limit. -/
structure Count where
  least : Nat
  most : Option Nat
  deriving DecidableEq, Repr

inductive GroupKind where
  | numbered (index : Nat)
  | plain (letters : List Char)
  deriving DecidableEq, Repr

inductive Tree where
  | empty
  | setting (letters : List Char)
  | atom (a : Atom) (span : Span)
  | bracket (set : SetTree)
  | repeated (part : Tree) (count : Count) (marked : Bool) (span : Span)
  | group (kind : GroupKind) (inside : Tree) (span : Span)
  | sequence (parts : List Tree) (span : Span)
  | choice (branches : List Tree) (span : Span)

namespace Tree

/-- Parts one after the other, which are a part of their own only if there are several. -/
def ofParts (parts : List Tree) (span : Span) : Tree :=
  match parts with
  | [] => empty
  | [part] => part
  | parts => sequence parts span

def ofBranches (branches : List Tree) (span : Span) : Tree :=
  match branches with
  | [branch] => branch
  | branches => choice branches span

end Tree

/-! How deep parts lie in each other. Brackets, repetitions, groups, sequences and choices count,
and in brackets what is joined by an operator or stands side by side. -/

mutual

/-- The first part with more than a number of others around it. -/
def SetTree.tooDeep? (room : Nat) : SetTree → Option Span
  | .bracket _ inside span =>
    match room with
    | 0 => some span
    | room + 1 => inside.tooDeep? room
  | .union items span =>
    match room with
    | 0 => some span
    | room + 1 => anySetTooDeep? room items
  | .operation _ left right span =>
    match room with
    | 0 => some span
    | room + 1 => left.tooDeep? room <|> right.tooDeep? room
  | _ => none

def anySetTooDeep? (room : Nat) : List SetTree → Option Span
  | [] => none
  | item :: items =>
    match item.tooDeep? room with
    | some span => some span
    | none => anySetTooDeep? room items

end

mutual

def Tree.tooDeep? (room : Nat) : Tree → Option Span
  | .bracket set => set.tooDeep? room
  | .repeated part _ _ span =>
    match room with
    | 0 => some span
    | room + 1 => part.tooDeep? room
  | .group _ inside span =>
    match room with
    | 0 => some span
    | room + 1 => inside.tooDeep? room
  | .sequence parts span =>
    match room with
    | 0 => some span
    | room + 1 => anyTooDeep? room parts
  | .choice branches span =>
    match room with
    | 0 => some span
    | room + 1 => anyTooDeep? room branches
  | _ => none

def anyTooDeep? (room : Nat) : List Tree → Option Span
  | [] => none
  | part :: parts =>
    match part.tooDeep? room with
    | some span => some span
    | none => anyTooDeep? room parts

end

def Tree.checkDepth (t : Tree) : Except Fault Unit :=
  match t.tooDeep? depthLimit with
  | some span => .error (.malformed .tooDeep span none)
  | none => .ok ()

end SchedLatency.Pattern
