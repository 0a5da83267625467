import ZLang.Pattern.Reader
import ZLang.Pattern.Set

/-!
Patterns as they are written. `parse` gives the pattern a text stands for, or says why it is
refused: the text has a fault, or the pattern cannot be built.
-/
set_option autoImplicit false

namespace ZLang.Pattern

/-- Why a written pattern is refused. -/
inductive Refusal where
  | fault (f : Fault)
  /-- The edges of words are known for ASCII only. -/
  | unknownEdge
  /-- There is too much to match. -/
  | tooLarge
  deriving DecidableEq, Repr

/-- What is said about a refused pattern. -/
def Refusal.message (written : Text) : Refusal → Text
  | fault f => f.message written
  | unknownEdge => "error building NFA".toList
  | tooLarge => "Compiled regex exceeds size limit of 10485760 bytes.".toList

/-- A pattern with what decides whether it can be built. -/
structure Draft where
  pattern : Pattern
  /-- How much there is to match, with the repetitions written out. -/
  size : Nat
  /-- It asks for the edges of words of all scripts. -/
  unknownEdge : Bool

namespace Draft

def ofSet (size : Nat) (set : Char → Bool) : Draft := ⟨.one set, size, false⟩

def ofEdge (holds : Place → Bool) : Draft := ⟨.edge holds, 1, false⟩

def empty : Draft := ⟨.empty, 0, false⟩

def repeated (d : Draft) (least : Nat) (more : Option Nat) : Draft :=
  if least == 0 && more == some 0 then empty
  else ⟨.repeated d.pattern least more, d.size * least + (d.size + 1) * more.getD 1, d.unknownEdge⟩

/-- Drafts side by side, joined by `join`. -/
def joined (join : List Pattern → Pattern) (ds : List Draft) : Draft where
  pattern := join (ds.map pattern)
  size := ds.foldr (fun d n => d.size + n) 0
  unknownEdge := ds.any unknownEdge

end Draft

/-! ## Single parts -/

/-- What a set of characters of all scripts adds to the size. -/
def wideSize : Nat := 10

/-- A character, in both cases if the flags ask for them. -/
def Symbol.draft (fs : Flags) (s : Symbol) : Except Fault Draft := do
  s.checkByte fs
  return Draft.ofSet s.char.utf8Size (← foldCase fs s.span (· == s.char))

/-- The dot matches what does not end a line. -/
def dotSet (fs : Flags) (c : Char) : Bool :=
  fs.anyDot || (c != '\n' && !(fs.returns && c == '\r'))

def dotDraft (fs : Flags) (span : Span) : Except Fault Draft :=
  if fs.unicode then .ok (Draft.ofSet wideSize (dotSet fs)) else refuse .invalidUtf8 span

/-- Where an edge of a word is, in ASCII. -/
def wordEdge (holds : Bool → Bool → Bool) (fs : Flags) : Draft :=
  { Draft.ofEdge (fun x => holds (afterWord x) (beforeWord x)) with unknownEdge := fs.unicode }

def Edge.draft (fs : Flags) : Edge → Draft
  | lineStart =>
    if !fs.lines then .ofEdge atStart
    else if fs.returns then .ofEdge atReturnStart
    else .ofEdge atLineStart
  | lineEnd =>
    if !fs.lines then .ofEdge atEnd
    else if fs.returns then .ofEdge atReturnEnd
    else .ofEdge atLineEnd
  | textStart => .ofEdge atStart
  | textEnd => .ofEdge atEnd
  | wordBoundary => wordEdge (fun a b => a != b) fs
  | notWordBoundary => wordEdge (fun a b => a == b) fs
  | wordStart => wordEdge (fun a b => !a && b) fs
  | wordEnd => wordEdge (fun a b => a && !b) fs
  | wordStartHalf => wordEdge (fun a _ => !a) fs
  | wordEndHalf => wordEdge (fun _ b => !b) fs

/-! ## Trees -/

mutual

/-- The draft of a tree. Flags that are set inside a group hold up to its end, in its later branches
too. -/
def Tree.draft : Tree → StateT Flags (Except Fault) Draft
  | empty _ => return .empty
  | flags _ changes => do
    modify fun fs => fs.change changes
    return .empty
  | symbol s => do s.draft (← get)
  | dot span => do dotDraft (← get) span
  | edge _ e => return e.draft (← get)
  | letter span c negated => return .ofSet 1 (← letterSet (← get) span c negated)
  | property span => return .ofSet wideSize (← propertySet (← get) span)
  | brackets c => return .ofSet 1 (← c.set (← get))
  | repeated _ t least more => return (← draft t).repeated least more
  | group _ changes t => do
    let outer ← get
    modify fun fs => fs.change changes
    let d ← draft t
    set outer
    return d
  | either _ ts => return .joined choice (← drafts ts)
  | both _ ts => return .joined sequence (← drafts ts)

def Tree.drafts : List Tree → StateT Flags (Except Fault) (List Draft)
  | [] => return []
  | t :: ts => do
    let d ← draft t
    return d :: (← drafts ts)

end

/-- How large a pattern may be. -/
def largestSize : Nat := 327680

/-- The pattern that a text stands for. -/
def parse (written : Text) : Except Refusal Pattern := do
  let tree ← (readTree written).mapError .fault
  let d ← (tree.draft.run' Flags.standard).mapError .fault
  if largestSize < d.size then throw .tooLarge
  else if d.unknownEdge then throw .unknownEdge
  else return d.pattern

end ZLang.Pattern
