import ZLang.Toml.Basic

/-!
Literals of TOML: numbers, truth values, dates and times. A number that is too large for any use is
a literal nevertheless.
-/
set_option autoImplicit false

namespace ZLang.Toml

/-! ## Moments

A moment is a date, a time of day, or a date and a time with a letter or a space between them; only
the last may say how far its clock is from universal time.
-/

/-- A number of so many digits, from `low` to `high`. -/
def isNumberIn (digits low high : Nat) (t : Text) : Bool :=
  let n := Nat.ofDigitChars 10 t 0
  t.length == digits && t.all Char.isDigit && low ≤ n && n ≤ high

def isLeapYear (year : Nat) : Bool := year % 4 == 0 && (year % 100 != 0 || year % 400 == 0)

def daysInMonth (year month : Nat) : Nat :=
  if month == 2 then (if isLeapYear year then 29 else 28)
  else if [4, 6, 9, 11].contains month then 30
  else 31

/-- A day of the calendar. -/
def isDate (t : Text) : Bool :=
  match t.splitOn '-' with
  | [year, month, day] =>
    isNumberIn 4 0 9999 year && isNumberIn 2 1 12 month &&
      isNumberIn 2 1 (daysInMonth (Nat.ofDigitChars 10 year 0) (Nat.ofDigitChars 10 month 0)) day
  | _ => false

/-- A second, which may be a leap second and may have a fraction. -/
def isSecond (t : Text) : Bool :=
  isNumberIn 2 0 60 (t.takeWhile Char.isDigit) &&
    match t.dropWhile Char.isDigit with
    | [] => true
    | '.' :: ds => !ds.isEmpty && ds.all Char.isDigit
    | _ => false

/-- A time of day, with or without seconds. -/
def isTime (t : Text) : Bool :=
  match t.splitOn ':' with
  | [hour, minute] => isNumberIn 2 0 23 hour && isNumberIn 2 0 59 minute
  | [hour, minute, second] =>
    isNumberIn 2 0 23 hour && isNumberIn 2 0 59 minute && isSecond second
  | _ => false

/-- The distance from universal time: none given, zero, or hours and minutes. -/
def isOffset : Text → Bool
  | [] => true
  | [c] => c == 'Z' || c == 'z'
  | c :: r =>
    (c == '+' || c == '-') &&
      match r.splitOn ':' with
      | [hour, minute] => isNumberIn 2 0 23 hour && isNumberIn 2 0 59 minute
      | _ => false

def isTimeChar (c : Char) : Bool := c.isDigit || c == ':' || c == '.'

def dateLength : Nat := 10

def isMoment (t : Text) : Bool :=
  isTime t || isDate t ||
    match t.drop dateLength with
    | c :: r =>
      (c == 'T' || c == 't' || c == ' ') && isDate (t.take dateLength) &&
        isTime (r.takeWhile isTimeChar) && isOffset (r.dropWhile isTimeChar)
    | [] => false

/-! ## Numbers and words -/

/-- The digits of a literal without their underscores, each of which stands between two digits. -/
def ungroup (isDigit : Char → Bool) (t : Text) : Option Text :=
  let groups := t.splitOn '_'
  if groups.all fun g => !g.isEmpty && g.all isDigit then some groups.flatten else none

/-- A decimal whole number: no zero stands in front of another digit. -/
def decimal? (t : Text) : Option Text := do
  let ds ← ungroup Char.isDigit t
  guard (ds.head? != some '0' || ds.length == 1)
  return ds

/-- The digits of a literal in a base up to sixteen; without digits it has no value. -/
def based? (base : Nat) (t : Text) : Option (Option Int) :=
  if t.isEmpty then some none
  else do
    let ds ← ungroup (fun c => (Text.hexDigit? c).any (· < base)) t
    let values ← ds.mapM Text.hexDigit?
    return some (values.foldl (fun n d => n * base + d) 0 : Nat)

/-- The sign in front of a literal. -/
def sign : Text → Bool × Text
  | '-' :: r => (true, r)
  | '+' :: r => (false, r)
  | t => (false, t)

def signed (negative : Bool) (n : Nat) : Int := if negative then -(n : Int) else n

def integer? (t : Text) : Option (Option Int) :=
  match t with
  | '0' :: 'x' :: r => based? 16 r
  | '0' :: 'o' :: r => based? 8 r
  | '0' :: 'b' :: r => based? 2 r
  | _ =>
    let (negative, r) := sign t
    (decimal? r).map fun ds => some (signed negative (Nat.ofDigitChars 10 ds 0))

/-- The power of ten of a literal; an empty text stands for none. -/
def exponent? (t : Text) : Option Int :=
  match t with
  | [] => some 0
  | _ :: r =>
    let (negative, r') := sign r
    (ungroup Char.isDigit r').map fun ds => signed negative (Nat.ofDigitChars 10 ds 0)

/-- The digits behind the point; an empty text stands for none. -/
def fraction? (t : Text) : Option Text :=
  match t with
  | [] => some []
  | _ :: r => ungroup Char.isDigit r

/-- A number with a point or a power of ten. -/
def finite? (t : Text) : Option FloatLiteral := do
  let (negative, r) := sign t
  let isMark := fun c => c == 'e' || c == 'E'
  let mantissa := r.takeWhile fun c => !isMark c
  let power := r.dropWhile fun c => !isMark c
  let whole ← decimal? (mantissa.takeWhile (· != '.'))
  let fraction ← fraction? (mantissa.dropWhile (· != '.'))
  let e ← exponent? power
  guard (!fraction.isEmpty || !power.isEmpty)
  return .finite negative (Nat.ofDigitChars 10 (whole ++ fraction) 0) (e - fraction.length)

def named? (t : Text) : Option FloatLiteral :=
  let (negative, r) := sign t
  if r == "inf".toList then some (.infinite negative)
  else if r == "nan".toList then some .notANumber
  else none

/-- The value of a literal. -/
def literal? (t : Text) : Option Value :=
  if t == "true".toList then some (.boolean true)
  else if t == "false".toList then some (.boolean false)
  else if isMoment t then some (.moment t)
  else
    match integer? t with
    | some i => some (.integer i)
    | none => ((named? t).orElse fun _ => finite? t).map .float

def isLiteralChar (c : Char) : Bool :=
  c.isAlphanum || c == '_' || c == '+' || c == '-' || c == '.' || c == ':'

/-- A literal as it is written. It ends where its characters do, except that one space may stand
between a date and a time. -/
def literalText (t : Text) : Text :=
  let word := t.takeWhile isLiteralChar
  match t.drop word.length with
  | ' ' :: c :: r =>
    if isDate word && isLiteralChar c then word ++ ' ' :: (c :: r).takeWhile isLiteralChar
    else word
  | _ => word

end ZLang.Toml
