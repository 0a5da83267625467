import ZLang.Text.Basic

/-!
Patterns of texts. A pattern leads from marked places of a text to the places behind what it
matches; `occurs` says whether it matches anywhere.
-/
set_option autoImplicit false

namespace ZLang

/-- A place in a text: what is before it, backwards, and what is after it. -/
structure Pattern.Place where
  before : Text
  after : Text

inductive Pattern where
  /-- The empty text. -/
  | empty
  /-- One character of a set. -/
  | one (set : Char → Bool)
  /-- The empty text at places of some kind. -/
  | edge (holds : Pattern.Place → Bool)
  | both (p q : Pattern)
  | either (p q : Pattern)
  /-- So many times at least, and at most so many times more. -/
  | repeated (p : Pattern) (least : Nat) (more : Option Nat)

namespace Pattern

/-! ## Marks -/

/-- Marks on the places of a text: one before each character, and one behind the last. -/
abbrev Marks := List Bool

namespace Marks

def everywhere (t : Text) : Marks := List.replicate (t.length + 1) true

def union (a b : Marks) : Marks := List.zipWith or a b

def isSet (a : Marks) : Bool := a.any id

end Marks

/-- The places of a text, behind what is before it. -/
def placesFrom (before : Text) : Text → List Place
  | [] => [⟨before, []⟩]
  | c :: r => ⟨before, c :: r⟩ :: placesFrom (c :: before) r

/-- The places of a text. -/
def places (t : Text) : List Place := placesFrom [] t

/-! ## Matching -/

/-- The places after exactly `n` steps. -/
def exactly (step : Marks → Marks) : Nat → Marks → Marks
  | 0, a => a
  | n + 1, a => if a.isSet then exactly step n (step a) else a

/-- The places after at most `n` steps. -/
def upTo (step : Marks → Marks) : Nat → Marks → Marks
  | 0, a => a
  | n + 1, a => if a.union (step a) == a then a else upTo step n (a.union (step a))

/-- The places behind what the pattern matches from marked places on. A repetition never needs more
further steps than the text has characters, since a step of no length leads nowhere new. -/
def reach (t : Text) : Pattern → Marks → Marks
  | empty, a => a
  | one set, a => false :: List.zipWith (fun marked c => marked && set c) a t
  | edge holds, a => List.zipWith (fun marked x => marked && holds x) a (places t)
  | both p q, a => reach t q (reach t p a)
  | either p q, a => (reach t p a).union (reach t q a)
  | repeated p least more, a =>
    upTo (reach t p) (min (more.getD t.length) t.length) (exactly (reach t p) least a)

/-- The pattern matches a part of the text. -/
def occurs (p : Pattern) (t : Text) : Bool := (reach t p (Marks.everywhere t)).isSet

/-! ## Patterns made of lists -/

/-- Patterns one after the other. -/
def sequence (ps : List Pattern) : Pattern := ps.foldr both empty

/-- One of several patterns. -/
def choice (ps : List Pattern) : Pattern := ps.foldr either (one fun _ => false)

/-! ## Edges -/

def atStart (x : Place) : Bool := x.before.isEmpty

def atEnd (x : Place) : Bool := x.after.isEmpty

def atLineStart (x : Place) : Bool := x.before.head?.all (· == '\n')

def atLineEnd (x : Place) : Bool := x.after.head?.all (· == '\n')

/-- The start of a line, where a carriage return ends lines too, alone or before a line feed. -/
def atReturnStart (x : Place) : Bool :=
  match x.before.head? with
  | none => true
  | some c => c == '\n' || (c == '\r' && x.after.head? != some '\n')

/-- The end of a line, where a carriage return ends lines too, alone or before a line feed. -/
def atReturnEnd (x : Place) : Bool :=
  match x.after.head? with
  | none => true
  | some c => c == '\r' || (c == '\n' && x.before.head? != some '\r')

def isWordChar (c : Char) : Bool := c.isAlphanum || c == '_'

def afterWord (x : Place) : Bool := x.before.head?.any isWordChar

def beforeWord (x : Place) : Bool := x.after.head?.any isWordChar

end Pattern

end ZLang
