import SchedLatency.Pattern
import SchedLatency.Pattern.Property
import SchedLatency.Pattern.Reading

/-! What the parts of a pattern mean under flags. A part that is well formed may still mean nothing;
the first such part is reported. -/
namespace SchedLatency.Pattern

namespace CharSet

def caseVariants (s : CharSet) : List Nat :=
  let index := CharIndex.ofSet s
  Text.caseRuns.flatMap fun run => (List.range run.count).flatMap fun i =>
    let one := run.one + i * run.stride
    let other := run.other + i * run.stride
    (if index.has one then [other] else []) ++ (if index.has other then [one] else [])

def anyCase (s : CharSet) : CharSet := .unionAll (s :: s.caseVariants.map fun n => points n n)

end CharSet

/-- A set of characters, with their variants in case if the flags ask for them. Without Unicode only
ASCII letters have variants. -/
def folded (f : Flags) (set : CharSet) : CharSet :=
  if !f.anyCase then set
  else if f.unicode then set.anyCase
  else set.union ((set.common .ascii).anyCase.common .ascii)

def resolved (f : Flags) (set : CharSet) (negated : Bool) : CharSet :=
  let set := folded f set
  if negated then set.others else set

def refuse (cause : Cause) (span : Span) : Except Fault α := .error (.malformed cause span none)

/-- Without Unicode a set must not hold what is no ASCII. It holds either all of that or nothing. -/
def inAscii (f : Flags) (set : CharSet) (span : Span) : Except Fault CharSet :=
  if !f.unicode && set.has 0x80 then refuse .invalidUtf8 span else .ok set

/-- Without Unicode a byte beyond ASCII is no character. -/
def checkByte (f : Flags) (c : Char) (byte : Bool) (span : Span) : Except Fault Unit :=
  if !f.unicode && byte && 0x80 ≤ c.toNat then refuse .invalidUtf8 span else .ok ()

/-! Sets. -/

def LetterClass.set (unicode : Bool) : LetterClass → CharSet
  | digit => if unicode then Unicode.digit else .digits
  | space => if unicode then Unicode.whiteSpace else .spaces
  | word => if unicode then Unicode.word else .wordChars

def letterSet (f : Flags) (kind : LetterClass) (negated : Bool) (span : Span) :
    Except Fault CharSet :=
  let set := kind.set f.unicode
  inAscii f (if negated then set.others else set) span

/-- What stands before and behind the first of a sign; `before` is passed over, the latest first. -/
def cutAt (sign before : List Char) : List Char → Option (List Char × List Char)
  | [] => none
  | c :: rest =>
    if sign.isPrefixOf (c :: rest) then some (before.reverse, (c :: rest).drop sign.length)
    else cutAt sign (c :: before) rest

/-- The name and the value of a property, which one of three signs may separate. The first of them
says that a character has any other value. -/
def splitProperty (name : List Char) : List Char × Option (List Char × Bool) :=
  let cut (sign : List Char) := cutAt sign [] name
  match cut ['!', '='], cut [':'] <|> cut ['='] with
  | some (name, value), _ => (name, some (value, true))
  | none, some (name, value) => (name, some (value, false))
  | none, none => (name, none)

def propertySet (f : Flags) (name : List Char) (negated : Bool) (span : Span) :
    Except Fault CharSet := do
  if !f.unicode then refuse .unicodeNotAllowed span
  let (name, value) := splitProperty name
  let name := Property.plainName name
  let found := match value with
    | none => Property.ofName name
    | some (value, _) => Property.ofValue name (Property.plainName value)
  match found with
  | .error cause => refuse cause span
  | .ok set => return resolved f set (negated ^^ value.any Prod.snd)

/-- Without Unicode a set holds no character beyond ASCII. -/
def Member.check (f : Flags) (m : Member) : Except Fault Unit := do
  if !m.byte && !f.unicode && 0x80 ≤ m.char.toNat then refuse .unicodeNotAllowed m.span
  checkByte f m.char m.byte m.span

def SetOperator.apply : SetOperator → CharSet → CharSet → CharSet
  | common => .common
  | without => .without
  | differing => .differing

mutual

def SetTree.set (f : Flags) : SetTree → Except Fault CharSet
  | .nothing _ => .ok .empty
  | .member m => do
    m.check f
    return .single m.char
  | .range first last => do
    first.check f
    last.check f
    return .range first.char last.char
  | .letter kind negated span => letterSet f kind negated span
  | .property name negated span => propertySet f name negated span
  | .named set negated span => inAscii f (resolved f set negated) span
  | .bracket negated inside span => do inAscii f (resolved f (← inside.set f) negated) span
  | .union items _ => unionOf f [] items
  | .operation op left right _ => do
    let left ← left.set f
    let right ← right.set f
    return op.apply (folded f left) (folded f right)

def unionOf (f : Flags) (before : List CharSet) : List SetTree → Except Fault CharSet
  | [] => .ok (.unionAll before)
  | item :: items =>
    match item.set f with
    | .ok set => unionOf f (set :: before) items
    | .error fault => .error fault

end

/-! Patterns. -/

def charPattern (f : Flags) (c : Char) : Pattern :=
  if f.anyCase && (f.unicode || c.toNat < 0x80) then
    .ofSet (.ofList ((Text.caseVariants c).filter fun d => f.unicode || d.toNat < 0x80))
  else .literal [c]

def dotSet (f : Flags) : CharSet :=
  if f.dotAll then .all else (CharSet.ofList (if f.crlf then ['\r', '\n'] else ['\n'])).others

def Atom.pattern (f : Flags) (span : Span) : Atom → Except Fault Pattern
  | literal c byte => do
    checkByte f c byte span
    return charPattern f c
  | dot => do return .ofSet (← inAscii f (dotSet f) span)
  | start => .ok (.anchor (if f.byLine then .lineStart f.crlf else .textStart))
  | stop => .ok (.anchor (if f.byLine then .lineEnd f.crlf else .textEnd))
  | anchor a => .ok (.anchor a)
  | edge side => .ok (.anchor (.word side f.unicode))
  | letter kind negated => do return .ofSet (← letterSet f kind negated span)
  | property name negated => do return .ofSet (← propertySet f name negated span)

mutual

/-- What a part means, and the flags behind it. -/
def Tree.pattern (f : Flags) : Tree → Except Fault (Pattern × Flags)
  | .empty => .ok (.empty, f)
  | .setting letters => .ok (.empty, f.update letters)
  | .atom a span => do return (← a.pattern f span, f)
  | .bracket set => do return (.ofSet (← set.set f), f)
  | .repeated part count marked _ => do
    let (p, f) ← part.pattern f
    return (p.repeating count.least count.most (f.short ^^ marked), f)
  | .group (.numbered index) inside _ => do return (.group index (← inside.pattern f).1, f)
  | .group (.plain letters) inside _ => do return ((← inside.pattern (f.update letters)).1, f)
  | .sequence parts _ => do
    let (ps, f) ← patternsOf f [] parts
    return (.concat ps, f)
  | .choice branches _ => do
    let (ps, f) ← patternsOf f [] branches
    return (.either ps, f)

def patternsOf (f : Flags) (before : List Pattern) : List Tree → Except Fault (List Pattern × Flags)
  | [] => .ok (before.reverse, f)
  | part :: parts =>
    match part.pattern f with
    | .ok (p, f) => patternsOf f (p :: before) parts
    | .error fault => .error fault

end

end SchedLatency.Pattern
