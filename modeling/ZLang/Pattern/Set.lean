import ZLang.Pattern.Basic
import ZLang.Pattern.Tree

/-!
The flags in force at a part of a written pattern, and the sets of characters its classes stand for
under them. No tables of characters are at hand: with the Unicode flag set, the classes with a
letter, the properties and the other case of a letter are not known. Without it classes are sets of
ASCII, and a class that would hold more is refused.
-/
set_option autoImplicit false

namespace ZLang.Pattern

structure Flags where
  caseless : Bool
  lines : Bool
  anyDot : Bool
  unicode : Bool
  returns : Bool
  deriving DecidableEq, Repr

namespace Flags

def standard : Flags := ⟨false, false, false, true, false⟩

/-- The flags after some are set or unset. -/
def change (fs : Flags) (changes : FlagChanges) : Flags where
  caseless := (changes.get? .caseless).getD fs.caseless
  lines := (changes.get? .lines).getD fs.lines
  anyDot := (changes.get? .anyDot).getD fs.anyDot
  unicode := (changes.get? .unicode).getD fs.unicode
  returns := (changes.get? .returns).getD fs.returns

end Flags

/-! ## Sets -/

def between (first last c : Char) : Bool := first.toNat ≤ c.toNat && c.toNat ≤ last.toNat

def isAscii (c : Char) : Bool := c.toNat < 0x80

/-- A character that is seen when printed. -/
def isGraphic (c : Char) : Bool := between '!' '~' c

def isSpace (c : Char) : Bool := between '\t' '\r' c || c == ' '

def NamedClass.holds (c : Char) : NamedClass → Bool
  | alnum => c.isAlphanum
  | alpha => c.isAlpha
  | ascii => isAscii c
  | blank => c == '\t' || c == ' '
  | cntrl => between '\x00' '\x1f' c || c == '\x7f'
  | digit => c.isDigit
  | graph => isGraphic c
  | lower => c.isLower
  | print => c == ' ' || isGraphic c
  | punct => isGraphic c && !c.isAlphanum
  | space => isSpace c
  | upper => c.isUpper
  | word => isWordChar c
  | xdigit => c.isDigit || between 'a' 'f' c || between 'A' 'F' c

def LetterClass.holds (c : Char) : LetterClass → Bool
  | digit => c.isDigit
  | space => isSpace c
  | word => isWordChar c

def otherCase (c : Char) : Char := if c.isLower then c.toUpper else c.toLower

/-- A set with the other case of its letters. -/
def withCases (set : Char → Bool) (c : Char) : Bool := set c || set (otherCase c)

def SetOperator.apply : SetOperator → Bool → Bool → Bool
  | intersection, a, b => a && b
  | difference, a, b => a && !b
  | symmetricDifference, a, b => a != b

/-! ## Classes -/

def refuse {α : Type} (complaint : Complaint) (span : Span) : Except Fault α :=
  .error ⟨complaint, span, none⟩

/-- A code of two digits is a byte without the Unicode flag; a byte that is no character is refused.
-/
def Symbol.checkByte (fs : Flags) (s : Symbol) : Except Fault Unit :=
  if !fs.unicode && s.isByte && !isAscii s.char then refuse .invalidUtf8 s.span else .ok ()

/-- A character as a member of a class. -/
def Symbol.member (fs : Flags) (s : Symbol) : Except Fault Char := do
  s.checkByte fs
  if !fs.unicode && !isAscii s.char then refuse .unicodeNotAllowed s.span else .ok s.char

/-- A set with both cases of its letters, if the flags ask for them. -/
def foldCase (fs : Flags) (span : Span) (set : Char → Bool) : Except Fault (Char → Bool) :=
  if !fs.caseless then .ok set
  else if fs.unicode then refuse .caseUnknown span
  else .ok (withCases set)

/-- What is not in a set, if it is negated. -/
def negate (fs : Flags) (span : Span) (negated : Bool) (set : Char → Bool) :
    Except Fault (Char → Bool) :=
  if !negated then .ok set
  else if !fs.unicode then refuse .invalidUtf8 span
  else .ok fun c => !set c

/-- The set of a class with a letter. -/
def letterSet (fs : Flags) (span : Span) (c : LetterClass) (negated : Bool) :
    Except Fault (Char → Bool) :=
  if fs.unicode then refuse .classUnknown span
  else negate fs span negated fun x => c.holds x

/-- No property of characters is known. -/
def propertySet (fs : Flags) (span : Span) : Except Fault (Char → Bool) :=
  if fs.unicode then refuse .propertyUnknown span else refuse .unicodeNotAllowed span

namespace ClassTree

/-- The class has no items at all. -/
def isVacant : ClassTree → Bool
  | empty _ => true
  | brackets _ _ inner => inner.isVacant
  | operation _ a b => a.isVacant && b.isVacant
  | _ => false

/-- Both cases of the letters of a part of a class. -/
def folded (fs : Flags) (part : ClassTree) (span : Span) (set : Char → Bool) :
    Except Fault (Char → Bool) :=
  if part.isVacant then .ok set else foldCase fs span set

mutual

/-- The characters of a class. -/
def set (fs : Flags) : ClassTree → Except Fault (Char → Bool)
  | symbol s => do
    let x ← s.member fs
    return (· == x)
  | range first last => do
    let a ← first.member fs
    let b ← last.member fs
    return between a b
  | letter span c negated => letterSet fs span c negated
  | named span c negated => do
    negate fs span negated (← foldCase fs span fun x => c.holds x)
  | property span => propertySet fs span
  | brackets span negated inner => do
    let s ← set fs inner
    negate fs span negated (← inner.folded fs span s)
  | empty _ => return fun _ => false
  | union _ items => unionSet fs items
  | operation o a b => do
    let s ← set fs a
    let t ← set fs b
    let t ← b.folded fs b.span t
    let s ← a.folded fs a.span s
    return fun c => o.apply (s c) (t c)

/-- The characters of several items. -/
def unionSet (fs : Flags) : List ClassTree → Except Fault (Char → Bool)
  | [] => return fun _ => false
  | c :: cs => do
    let s ← set fs c
    let t ← unionSet fs cs
    return fun x => s x || t x

end

end ClassTree

end ZLang.Pattern
