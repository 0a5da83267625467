import ZLang.Pattern.Fault

/-!
Written patterns as trees. What a part of a pattern means hangs on the flags that are set where it
stands, so a tree keeps its flags and the spans of the parts that may be refused.
-/
set_option autoImplicit false

namespace ZLang.Pattern

inductive Flag where
  /-- Letters match in both cases. -/
  | caseless
  /-- Lines have edges, and not only the text. -/
  | lines
  /-- The dot matches a line feed too. -/
  | anyDot
  /-- Repetitions are as short as they can be, unless they say otherwise. -/
  | lazily
  /-- Classes hold the characters of all scripts. -/
  | unicode
  /-- A carriage return ends a line. -/
  | returns
  /-- Blanks and comments in the pattern mean nothing. -/
  | spaced
  deriving DecidableEq, Repr

def Flag.ofChar? : Char → Option Flag
  | 'i' => some caseless
  | 'm' => some lines
  | 's' => some anyDot
  | 'U' => some lazily
  | 'u' => some unicode
  | 'R' => some returns
  | 'x' => some spaced
  | _ => none

/-- Flags that are set or unset. -/
abbrev FlagChanges := List (Flag × Bool)

def FlagChanges.get? (fs : FlagChanges) (f : Flag) : Option Bool :=
  (fs.find? fun e => e.1 == f).map Prod.snd

/-- A character of a pattern. A code of two digits may stand for a byte. -/
structure Symbol where
  span : Span
  char : Char
  isByte : Bool
  deriving DecidableEq, Repr

/-- The classes with a letter. -/
inductive LetterClass where
  | digit
  | space
  | word
  deriving DecidableEq, Repr

/-- The classes of ASCII, which have names. -/
inductive NamedClass where
  | alnum
  | alpha
  | ascii
  | blank
  | cntrl
  | digit
  | graph
  | lower
  | print
  | punct
  | space
  | upper
  | word
  | xdigit
  deriving DecidableEq, Repr

def NamedClass.names : List (String × NamedClass) :=
  [("alnum", alnum), ("alpha", alpha), ("ascii", ascii), ("blank", blank), ("cntrl", cntrl),
    ("digit", digit), ("graph", graph), ("lower", lower), ("print", print), ("punct", punct),
    ("space", space), ("upper", upper), ("word", word), ("xdigit", xdigit)]

inductive SetOperator where
  | intersection
  | difference
  | symmetricDifference
  deriving DecidableEq, Repr

/-- What stands in brackets. -/
inductive ClassTree where
  | symbol (s : Symbol)
  | range (first last : Symbol)
  | letter (span : Span) (c : LetterClass) (negated : Bool)
  | named (span : Span) (c : NamedClass) (negated : Bool)
  | property (span : Span)
  | brackets (span : Span) (negated : Bool) (inner : ClassTree)
  /-- No items, where an operator has none on a side. -/
  | empty (span : Span)
  /-- Several items. -/
  | union (span : Span) (items : List ClassTree)
  | operation (o : SetOperator) (a b : ClassTree)

def ClassTree.span : ClassTree → Span
  | symbol s => s.span
  | range first last => ⟨first.span.start, last.span.stop⟩
  | letter span _ _ => span
  | named span _ _ => span
  | property span => span
  | brackets span _ _ => span
  | empty span => span
  | union span _ => span
  | operation _ a b => ⟨a.span.start, b.span.stop⟩

/-- The edges a pattern can name. -/
inductive Edge where
  | lineStart
  | lineEnd
  | textStart
  | textEnd
  | wordBoundary
  | notWordBoundary
  | wordStart
  | wordEnd
  | wordStartHalf
  | wordEndHalf
  deriving DecidableEq, Repr

inductive Tree where
  | empty (span : Span)
  | flags (span : Span) (changes : FlagChanges)
  | symbol (s : Symbol)
  | dot (span : Span)
  | edge (span : Span) (e : Edge)
  | letter (span : Span) (c : LetterClass) (negated : Bool)
  | property (span : Span)
  | brackets (c : ClassTree)
  /-- So many times at least, and at most so many times more. -/
  | repeated (span : Span) (t : Tree) (least : Nat) (more : Option Nat)
  | group (span : Span) (changes : FlagChanges) (t : Tree)
  /-- Several branches. -/
  | either (span : Span) (ts : List Tree)
  /-- Several items, one after the other. -/
  | both (span : Span) (ts : List Tree)

def Tree.span : Tree → Span
  | empty span => span
  | flags span _ => span
  | symbol s => s.span
  | dot span => span
  | edge span _ => span
  | letter span _ _ => span
  | property span => span
  | brackets c => c.span
  | repeated span _ _ _ => span
  | group span _ _ => span
  | either span _ => span
  | both span _ => span

/-! ## Depth -/

mutual

/-- The first part of a class that is deeper than there is room for. -/
def ClassTree.beyond? : Nat → ClassTree → Option Span
  | 0, brackets span _ _ => some span
  | room + 1, brackets _ _ inner => beyond? room inner
  | 0, union span _ => some span
  | room + 1, union _ items => anyBeyond? room items
  | 0, operation _ a b => some ⟨a.span.start, b.span.stop⟩
  | room + 1, operation _ a b => (beyond? room a).or (beyond? room b)
  | _, _ => none

def ClassTree.anyBeyond? : Nat → List ClassTree → Option Span
  | _, [] => none
  | room, c :: cs => (beyond? room c).or (anyBeyond? room cs)

end

mutual

/-- The first part of a pattern that is deeper than there is room for. -/
def Tree.beyond? : Nat → Tree → Option Span
  | room, brackets c => c.beyond? room
  | 0, repeated span _ _ _ => some span
  | room + 1, repeated _ t _ _ => beyond? room t
  | 0, group span _ _ => some span
  | room + 1, group _ _ t => beyond? room t
  | 0, either span _ => some span
  | room + 1, either _ ts => anyBeyond? room ts
  | 0, both span _ => some span
  | room + 1, both _ ts => anyBeyond? room ts
  | _, _ => none

def Tree.anyBeyond? : Nat → List Tree → Option Span
  | _, [] => none
  | room, t :: ts => (beyond? room t).or (anyBeyond? room ts)

end

/-- How deep the parts of a pattern may stand in one another. -/
def deepest : Nat := 250

end ZLang.Pattern
