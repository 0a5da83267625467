import ZLang.Json.Reader

/-!
The grammar of JSON, as a relation between texts and the values they mean, and the reader against
it on the smallest parts: blanks, strings and numbers. A part is read together with any rest that
cannot be taken for more of it.
-/
set_option autoImplicit false

namespace ZLang.Json

/-! ## Grammar -/

def Spaces (t : Text) : Prop := ∀ c ∈ t, c = ' ' ∨ c = '\n' ∨ c = '\r' ∨ c = '\t'

/-- Four hexadecimal digits. -/
inductive Hex4 : Nat → Text → Prop where
  | mk {a b c d : Char} {x y z w : Nat} (ha : Text.hexDigit? a = some x)
      (hb : Text.hexDigit? b = some y) (hc : Text.hexDigit? c = some z)
      (hd : Text.hexDigit? d = some w) : Hex4 (((x * 16 + y) * 16 + z) * 16 + w) [a, b, c, d]

/-- The letters behind a backslash, with what they mean. -/
def escapes : List (Char × Char) :=
  [('"', '"'), ('\\', '\\'), ('/', '/'), ('b', '\x08'), ('f', '\x0c'), ('n', '\n'), ('r', '\r'),
    ('t', '\t')]

/-- The spellings of a character inside a string. -/
inductive Spelled : Char → Text → Prop where
  | plain {c : Char} (h : 0x20 ≤ c.toNat) (hquote : c ≠ '"') (hslash : c ≠ '\\') : Spelled c [c]
  | short {letter c : Char} (h : (letter, c) ∈ escapes) : Spelled c ['\\', letter]
  | unit {c : Char} {t : Text} (h : Hex4 c.toNat t) : Spelled c ('\\' :: 'u' :: t)
  | pair {c : Char} {high low : Nat} {t s : Text} (ht : Hex4 high t) (hs : Hex4 low s)
      (hhigh : 0xD800 ≤ high ∧ high < 0xDC00) (hlow : 0xDC00 ≤ low ∧ low < 0xE000)
      (hc : c.toNat = 0x10000 + (high - 0xD800) * 0x400 + (low - 0xDC00)) :
      Spelled c ('\\' :: 'u' :: (t ++ '\\' :: 'u' :: s))

/-- The inside of a string. -/
inductive Inside : Text → Text → Prop where
  | nil : Inside [] []
  | cons {c : Char} {s t r : Text} (hc : Spelled c t) (hs : Inside s r) : Inside (c :: s) (t ++ r)

def Digits (t : Text) : Prop := t ≠ [] ∧ ∀ c ∈ t, c.isDigit = true

/-- A whole number; no zero stands in front of another digit. -/
structure Whole (n : Nat) (t : Text) : Prop where
  digits : Digits t
  leading : t.head? = some '0' → t.length = 1
  value : Nat.ofDigitChars 10 t 0 = n

inductive Fraction : List Digit → Text → Prop where
  | absent : Fraction [] []
  | present {t : Text} (h : Digits t) : Fraction (t.map Digit.ofChar) ('.' :: t)

inductive Sign : Bool → Text → Prop where
  | absent : Sign false []
  | plus : Sign false ['+']
  | minus : Sign true ['-']

inductive Exponent : Option Int → Text → Prop where
  | absent : Exponent none []
  | present {mark : Char} {negative : Bool} {sign t : Text} (hmark : mark = 'e' ∨ mark = 'E')
      (hsign : Sign negative sign) (ht : Digits t) :
      Exponent (some (if negative then -(Nat.ofDigitChars 10 t 0 : Int)
        else (Nat.ofDigitChars 10 t 0 : Int))) (mark :: (sign ++ t))

inductive Numeral : Number → Text → Prop where
  | mk {negative : Bool} {whole : Nat} {fraction : List Digit} {exponent : Option Int}
      {w f e : Text} (hw : Whole whole w) (hf : Fraction fraction f) (he : Exponent exponent e) :
      Numeral ⟨negative, whole, fraction, exponent⟩
        ((if negative then ['-'] else []) ++ (w ++ (f ++ e)))

mutual

/-- A text, without blanks around it, that means a value. -/
inductive Written : Value → Text → Prop where
  | null : Written .null "null".toList
  | isTrue : Written (.bool true) "true".toList
  | isFalse : Written (.bool false) "false".toList
  | number {n : Number} {t : Text} (h : Numeral n t) : Written (.number n) t
  | string {s t : Text} (h : Inside s t) : Written (.string s) ('"' :: (t ++ ['"']))
  | emptyArray {a : Text} (ha : Spaces a) : Written (.array []) ('[' :: (a ++ [']']))
  | array {vs : List Value} {t : Text} (h : WrittenItems vs t) :
      Written (.array vs) ('[' :: (t ++ [']']))
  | emptyObject {a : Text} (ha : Spaces a) : Written (.object []) ('{' :: (a ++ ['}']))
  | object {ms : List (Text × Value)} {t : Text} (h : WrittenMembers ms t) :
      Written (.object ms) ('{' :: (t ++ ['}']))

/-- One item or more, with commas between them. -/
inductive WrittenItems : List Value → Text → Prop where
  | last {v : Value} {a t b : Text} (ha : Spaces a) (hv : Written v t) (hb : Spaces b) :
      WrittenItems [v] (a ++ (t ++ b))
  | more {v : Value} {vs : List Value} {a t b r : Text} (ha : Spaces a) (hv : Written v t)
      (hb : Spaces b) (hr : WrittenItems vs r) :
      WrittenItems (v :: vs) (a ++ (t ++ (b ++ ',' :: r)))

/-- One member or more, with commas between them. -/
inductive WrittenMembers : List (Text × Value) → Text → Prop where
  | last {k : Text} {v : Value} {a s b c t d : Text} (ha : Spaces a) (hk : Inside k s)
      (hb : Spaces b) (hc : Spaces c) (hv : Written v t) (hd : Spaces d) :
      WrittenMembers [(k, v)] (a ++ '"' :: (s ++ '"' :: (b ++ ':' :: (c ++ (t ++ d)))))
  | more {k : Text} {v : Value} {ms : List (Text × Value)} {a s b c t d r : Text} (ha : Spaces a)
      (hk : Inside k s) (hb : Spaces b) (hc : Spaces c) (hv : Written v t) (hd : Spaces d)
      (hr : WrittenMembers ms r) :
      WrittenMembers ((k, v) :: ms)
        (a ++ '"' :: (s ++ '"' :: (b ++ ':' :: (c ++ (t ++ (d ++ ',' :: r))))))

end

/-- A JSON text: one value with blanks around it. -/
def Wellformed (v : Value) (t : Text) : Prop :=
  ∃ a s b, t = a ++ (s ++ b) ∧ Spaces a ∧ Written v s ∧ Spaces b

/-! ## Blanks -/

theorem isSpace_iff (c : Char) :
    isSpace c = true ↔ c = ' ' ∨ c = '\n' ∨ c = '\r' ∨ c = '\t' := by
  simp [isSpace, or_assoc]

theorem skipSpace_append {a : Text} (ha : Spaces a) (t : Text) :
    skipSpace (a ++ t) = skipSpace t := by
  have h : ∀ c ∈ a, isSpace c = true := fun c hc => (isSpace_iff c).mpr (ha c hc)
  unfold skipSpace
  exact List.dropWhile_append_of_pos h

theorem skipSpace_append_cons {a : Text} (ha : Spaces a) {c : Char} (hc : isSpace c = false)
    (t : Text) : skipSpace (a ++ c :: t) = c :: t := by
  rw [skipSpace_append ha]
  simp [skipSpace, hc]

/-! ## Strings -/

theorem readHex4_append {n : Nat} {t : Text} (h : Hex4 n t) (r : Text) :
    readHex4 (t ++ r) = some (n, r) := by
  obtain ⟨ha, hb, hc, hd⟩ := h
  simp [readHex4, ha, hb, hc, hd]

theorem unescape?_of_mem {letter c : Char} (h : (letter, c) ∈ escapes) :
    letter ≠ 'u' ∧ unescape? letter = some c := by
  simp only [escapes, List.mem_cons, Prod.mk.injEq, List.not_mem_nil, or_false] at h
  rcases h with ⟨rfl, rfl⟩ | ⟨rfl, rfl⟩ | ⟨rfl, rfl⟩ | ⟨rfl, rfl⟩ | ⟨rfl, rfl⟩ | ⟨rfl, rfl⟩ |
    ⟨rfl, rfl⟩ | ⟨rfl, rfl⟩ <;> decide

theorem isHighSurrogate_iff (n : Nat) : isHighSurrogate n = true ↔ 0xD800 ≤ n ∧ n < 0xDC00 := by
  simp only [isHighSurrogate, Bool.and_eq_true, decide_eq_true_eq]

theorem isLowSurrogate_iff (n : Nat) : isLowSurrogate n = true ↔ 0xDC00 ≤ n ∧ n < 0xE000 := by
  simp only [isLowSurrogate, Bool.and_eq_true, decide_eq_true_eq]

theorem toNat_valid (c : Char) :
    c.toNat < 0xD800 ∨ 0xDFFF < c.toNat ∧ c.toNat < 0x110000 := c.valid

theorem not_isSurrogate (c : Char) :
    isHighSurrogate c.toNat = false ∧ isLowSurrogate c.toNat = false := by
  have h := toNat_valid c
  simp only [isHighSurrogate, isLowSurrogate, Bool.and_eq_false_iff, decide_eq_false_iff_not]
  omega

theorem readUnicode_unit {c : Char} {t : Text} (h : Hex4 c.toNat t) (r : Text) :
    readUnicode (t ++ r) = some (c, r) := by
  obtain ⟨hhigh, hlow⟩ := not_isSurrogate c
  simp [readUnicode, readHex4_append h, hhigh, hlow]

theorem readUnicode_pair {c : Char} {high low : Nat} {t s : Text} (ht : Hex4 high t)
    (hs : Hex4 low s) (hhigh : 0xD800 ≤ high ∧ high < 0xDC00) (hlow : 0xDC00 ≤ low ∧ low < 0xE000)
    (hc : c.toNat = 0x10000 + (high - 0xD800) * 0x400 + (low - 0xDC00)) (r : Text) :
    readUnicode (t ++ '\\' :: 'u' :: (s ++ r)) = some (c, r) := by
  have h1 : isHighSurrogate high = true := (isHighSurrogate_iff high).mpr hhigh
  have h2 : isLowSurrogate low = true := (isLowSurrogate_iff low).mpr hlow
  have h3 : readLowSurrogate ('\\' :: 'u' :: (s ++ r)) = some (low, r) := by
    simp [readLowSurrogate, readHex4_append hs, h2]
  simp [readUnicode, readHex4_append ht, h1, h3, ← hc]

/-- A spelling does not start with the closing quote, and it is read as its character. -/
theorem readChar_spelled {c : Char} {t : Text} (h : Spelled c t) :
    ∃ x s, t = x :: s ∧ x ≠ '"' ∧ ∀ r, readChar x (s ++ r) = some (c, r) := by
  cases h with
  | plain h hquote hslash =>
    refine ⟨c, [], rfl, hquote, fun r => ?_⟩
    have hlow : ¬ c.toNat < 0x20 := by omega
    simp [readChar, hslash, hlow]
  | @short letter _ h =>
    obtain ⟨hu, hunescape⟩ := unescape?_of_mem h
    refine ⟨'\\', [letter], rfl, by decide, fun r => ?_⟩
    simp [readChar, readEscape, hu, hunescape]
  | @unit _ t h =>
    refine ⟨'\\', 'u' :: t, rfl, by decide, fun r => ?_⟩
    simp [readChar, readEscape, readUnicode_unit h]
  | @pair _ high low t s ht hs hhigh hlow hc =>
    refine ⟨'\\', 'u' :: (t ++ '\\' :: 'u' :: s), rfl, by decide, fun r => ?_⟩
    simp [readChar, readEscape, readUnicode_pair ht hs hhigh hlow hc]

theorem readString_inside {s t : Text} (h : Inside s t) (r : Text) (fuel : Nat)
    (hfuel : t.length < fuel) : readString fuel (t ++ '"' :: r) = some (s, r) := by
  induction h generalizing fuel with
  | nil =>
    obtain ⟨n, rfl⟩ : ∃ n, fuel = n + 1 := ⟨fuel - 1, by omega⟩
    simp [readString]
  | @cons c s t u hc hs ih =>
    obtain ⟨x, t', rfl, hquote, hread⟩ := readChar_spelled hc
    rw [List.length_append, List.length_cons] at hfuel
    obtain ⟨n, rfl⟩ : ∃ n, fuel = n + 1 := ⟨fuel - 1, by omega⟩
    have hrest := ih n (by omega)
    simp [readString, hquote, hread, hrest]

/-! ## Numbers -/

/-- A text that no number goes on with. -/
def EndsNumber (t : Text) : Prop :=
  ∀ c ∈ t.head?, c.isDigit = false ∧ c ≠ '.' ∧ c ≠ 'e' ∧ c ≠ 'E'

theorem Digits.head {ds : Text} (h : Digits ds) :
    ∃ c ds', ds = c :: ds' ∧ c.isDigit = true := by
  obtain ⟨c, ds', rfl⟩ := List.exists_cons_of_ne_nil h.1
  exact ⟨c, ds', rfl, h.2 c List.mem_cons_self⟩

theorem readDigits_append {ds t : Text} (h : Digits ds) (ht : ∀ c ∈ t.head?, c.isDigit = false) :
    readDigits (ds ++ t) = some (ds, t) := by
  have htake : t.takeWhile Char.isDigit = [] := by
    cases t with
    | nil => rfl
    | cons c t => simp [ht c rfl]
  have hdrop : t.dropWhile Char.isDigit = t := by
    cases t with
    | nil => rfl
    | cons c t => simp [ht c rfl]
  unfold readDigits
  rw [List.takeWhile_append_of_pos h.2, List.dropWhile_append_of_pos h.2, htake, hdrop]
  simp [h.1]

theorem readWhole_append {n : Nat} {ds t : Text} (h : Whole n ds)
    (ht : ∀ c ∈ t.head?, c.isDigit = false) : readWhole (ds ++ t) = some (n, t) := by
  have hzero : (ds.head? == some '0' && ds.length != 1) = false := by
    by_cases h0 : ds.head? = some '0'
    · simp [h.leading h0]
    · simp [h0]
  unfold readWhole
  rw [readDigits_append h.digits ht]
  simp only [Option.bind_eq_bind, Option.bind_some, hzero, h.value]
  rfl

theorem readFraction_append {f : List Digit} {s t : Text} (h : Fraction f s)
    (ht : ∀ c ∈ t.head?, c.isDigit = false ∧ c ≠ '.') : readFraction (s ++ t) = some (f, t) := by
  cases h with
  | absent =>
    cases t with
    | nil => rfl
    | cons c t =>
      have hc := (ht c rfl).2
      unfold readFraction
      split
      · next heq => cases heq; exact absurd rfl hc
      · rfl
  | @present ds h =>
    have hread := readDigits_append h (t := t) fun c hc => (ht c hc).1
    simp [readFraction, hread]

theorem readSign_append {negative : Bool} {s ds : Text} (h : Sign negative s) (hd : Digits ds)
    (t : Text) : readSign (s ++ (ds ++ t)) = (negative, ds ++ t) := by
  cases h with
  | absent =>
    obtain ⟨c, ds', rfl, hc⟩ := hd.head
    unfold readSign
    split
    · next heq => cases heq; exact absurd hc (by decide)
    · next heq => cases heq; exact absurd hc (by decide)
    · rfl
  | plus => rfl
  | minus => rfl

theorem readExponent_append {e : Option Int} {s t : Text} (h : Exponent e s) (ht : EndsNumber t) :
    readExponent (s ++ t) = some (e, t) := by
  cases h with
  | absent =>
    cases t with
    | nil => rfl
    | cons c t =>
      obtain ⟨-, -, he, hE⟩ := ht c rfl
      simp [readExponent, he, hE]
  | @present mark negative sign ds hmark hsign hd =>
    have hm : (mark == 'e' || mark == 'E') = true := by
      rcases hmark with rfl | rfl <;> decide
    have hsignread := readSign_append hsign hd t
    have hdigits := readDigits_append hd (t := t) fun c hc => (ht c hc).1
    simp [readExponent, hm, hsignread, hdigits]

theorem Exponent.head {e : Option Int} {s t : Text} (h : Exponent e s) (ht : EndsNumber t) :
    ∀ c ∈ (s ++ t).head?, c.isDigit = false ∧ c ≠ '.' := by
  cases h with
  | absent => exact fun c hc => ⟨(ht c hc).1, (ht c hc).2.1⟩
  | present hmark hsign hd =>
    intro c hc
    cases hc
    rcases hmark with rfl | rfl <;> decide

theorem Fraction.head {f : List Digit} {s t : Text} (h : Fraction f s)
    (ht : ∀ c ∈ t.head?, c.isDigit = false ∧ c ≠ '.') :
    ∀ c ∈ (s ++ t).head?, c.isDigit = false := by
  cases h with
  | absent => exact fun c hc => (ht c hc).1
  | present hd =>
    intro c hc
    cases hc
    decide

theorem readUnsigned_append {whole : Nat} {fraction : List Digit} {exponent : Option Int}
    {w f e t : Text} (hw : Whole whole w) (hf : Fraction fraction f) (he : Exponent exponent e)
    (ht : EndsNumber t) (negative : Bool) :
    readUnsigned negative (w ++ (f ++ (e ++ t))) =
      some (⟨negative, whole, fraction, exponent⟩, t) := by
  have h1 := readFraction_append hf (he.head ht)
  have h2 := readExponent_append he ht
  unfold readUnsigned
  rw [readWhole_append hw (hf.head (he.head ht))]
  simp only [Option.bind_eq_bind, Option.bind_some, h1, h2]
  rfl

theorem readNumber_append {n : Number} {s t : Text} (h : Numeral n s) (ht : EndsNumber t) :
    readNumber (s ++ t) = some (n, t) := by
  cases h with
  | @mk negative whole fraction exponent w f e hw hf he =>
    have hunsigned := readUnsigned_append hw hf he ht negative
    cases negative with
    | true =>
      simp only [if_true, List.cons_append, List.append_assoc]
      exact hunsigned
    | false =>
      obtain ⟨c, w', rfl, hc⟩ := hw.digits.head
      simp only [Bool.false_eq_true, if_false, List.nil_append, List.append_assoc]
      unfold readNumber
      split
      · next heq => cases heq; exact absurd hc (by decide)
      · exact hunsigned

end ZLang.Json
