/-!
Texts: blanks, trimming and words, lengths in two encodings, and slices. A blank is a character with
the White_Space property, or the byte order mark. `trim` cuts the blanks at both ends of a text, and
`words` lists its maximal runs of other characters.
-/
set_option autoImplicit false

namespace ZLang

/-- A text is its list of characters. -/
abbrev Text := List Char

namespace Text

/-- The code points of White_Space, as closed ranges. -/
def whiteSpace : List (Nat × Nat) :=
  [(0x0009, 0x000D), (0x0020, 0x0020), (0x0085, 0x0085), (0x00A0, 0x00A0), (0x1680, 0x1680),
    (0x2000, 0x200A), (0x2028, 0x2029), (0x202F, 0x202F), (0x205F, 0x205F), (0x3000, 0x3000)]

/-- A character lies in one of the closed ranges of code points. -/
def inRanges (ranges : List (Nat × Nat)) (c : Char) : Bool :=
  ranges.any fun r => r.1 ≤ c.toNat && c.toNat ≤ r.2

def isWhiteSpace (c : Char) : Bool := inRanges whiteSpace c

/-- White space, or the byte order mark wherever it stands. -/
def isBlank (c : Char) : Bool := isWhiteSpace c || c == '\ufeff'

def trimStart (t : Text) : Text := t.dropWhile isBlank

def trimEnd (t : Text) : Text := (t.reverse.dropWhile isBlank).reverse

def trim (t : Text) : Text := trimEnd (trimStart t)

/-- The maximal runs of characters that are not blank, in order. -/
def words (t : Text) : List Text := (t.splitOnP isBlank).filter fun w => !w.isEmpty

/-! ## Columns

Editors count a column in units of UTF-16, where a character outside the basic plane has two;
`takeUnits` is the part of a line before a column. A column between the two units of a character
counts that character in.
-/

/-- The units of UTF-16 that a character takes. -/
def charUnits (c : Char) : Nat := if c.toNat < 0x10000 then 1 else 2

/-- The length of a text in units of UTF-16. -/
def units (t : Text) : Nat := t.foldr (fun c n => charUnits c + n) 0

/-- The length of a text in bytes of UTF-8. -/
def bytes (t : Text) : Nat := t.foldr (fun c n => c.utf8Size + n) 0

/-- The shortest beginning of a line with `column` units, or the whole line when it is shorter. -/
def takeUnits : Nat → Text → Text
  | 0, _ => []
  | _ + 1, [] => []
  | column + 1, c :: r => c :: takeUnits (column + 1 - charUnits c) r

/-- What `takeUnits` leaves. -/
def dropUnits : Nat → Text → Text
  | 0, t => t
  | _ + 1, [] => []
  | column + 1, c :: r => dropUnits (column + 1 - charUnits c) r

/-- The byte at which a column of a line lies. -/
def byteOffset (line : Text) (column : Nat) : Nat := bytes (takeUnits column line)

/-! ### Lengths and cuts -/

@[simp, grind =] theorem units_nil : units [] = 0 := rfl

@[simp, grind =] theorem units_cons (c : Char) (t : Text) :
    units (c :: t) = charUnits c + units t := rfl

@[simp, grind =] theorem units_append (a b : Text) : units (a ++ b) = units a + units b := by
  induction a with
  | nil => simp
  | cons c a ih => simp [ih, Nat.add_assoc]

@[simp, grind =] theorem bytes_nil : bytes [] = 0 := rfl

@[simp, grind =] theorem bytes_cons (c : Char) (t : Text) :
    bytes (c :: t) = c.utf8Size + bytes t := rfl

@[simp, grind =] theorem bytes_append (a b : Text) : bytes (a ++ b) = bytes a + bytes b := by
  induction a with
  | nil => simp
  | cons c a ih => simp [ih, Nat.add_assoc]

@[simp] theorem takeUnits_zero (t : Text) : takeUnits 0 t = [] := by
  cases t <;> rfl

@[simp] theorem takeUnits_nil (column : Nat) : takeUnits column [] = [] := by
  cases column <;> rfl

@[simp] theorem byteOffset_zero (line : Text) : byteOffset line 0 = 0 := by
  simp [byteOffset]

/-- A column cuts a line in two and loses nothing. -/
@[simp] theorem takeUnits_append_dropUnits (column : Nat) (t : Text) :
    takeUnits column t ++ dropUnits column t = t := by
  induction t generalizing column with
  | nil => cases column <;> rfl
  | cons c r ih =>
    cases column with
    | zero => rfl
    | succ n => simp [takeUnits, dropUnits, ih]

/-- The byte of a column and the bytes behind it. -/
theorem byteOffset_add_bytes_dropUnits (line : Text) (column : Nat) :
    byteOffset line column + bytes (dropUnits column line) = bytes line := by
  rw [byteOffset, ← bytes_append, takeUnits_append_dropUnits]

/-! ## Slices -/

/-- Cut a text behind `n` bytes; a character is not cut. -/
def splitBytes? : Nat → Text → Option (Text × Text)
  | 0, t => some ([], t)
  | _ + 1, [] => none
  | n + 1, c :: t =>
    if c.utf8Size ≤ n + 1 then
      (splitBytes? (n + 1 - c.utf8Size) t).map fun parts => (c :: parts.1, parts.2)
    else none

/-- The part of a text between two bytes. There is none when one of them lies inside a character or
behind the text, or when they come in the wrong order. -/
def slice? (t : Text) (start stop : Nat) : Option Text :=
  if start ≤ stop then
    (splitBytes? start t).bind fun parts => (splitBytes? (stop - start) parts.2).map Prod.fst
  else none

/-! ## Digits and lines -/

/-- The value of a hexadecimal digit in either case. -/
def hexDigit? (c : Char) : Option Nat :=
  if '0' ≤ c && c ≤ '9' then some (c.toNat - 48)
  else if 'a' ≤ c && c ≤ 'f' then some (c.toNat - 87)
  else if 'A' ≤ c && c ≤ 'F' then some (c.toNat - 55)
  else none

/-- Lines, each with the line feed that ends it. -/
def ended (lines : List Text) : Text := lines.flatMap (· ++ ['\n'])

/-! ## Texts as bytes of UTF-8 -/

/-- The text of a byte sequence; `none` when it is not UTF-8. -/
def ofBytes? (content : ByteArray) : Option Text := (String.fromUTF8? content).map String.toList

theorem ofBytes?_eq_some_iff (content : ByteArray) (t : Text) :
    ofBytes? content = some t ↔ content = (String.ofList t).toUTF8 := by
  rw [ofBytes?, Option.map_eq_some_iff]
  constructor
  · rintro ⟨s, hs, rfl⟩
    rw [String.fromUTF8?] at hs
    split at hs
    · cases hs
      rw [String.ofList_toList]
      rfl
    · cases hs
  · rintro rfl
    refine ⟨String.ofList t, ?_, String.toList_ofList⟩
    rw [String.fromUTF8?, String.toUTF8_eq_toByteArray, dif_pos (String.ofList t).isValidUTF8]
    rfl

end Text

end ZLang
