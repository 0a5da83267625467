import Mathlib.Order.Bounds.Basic
import ZLang.Proofs.Document.Offsets
import ZLang.Proofs.Json.Grammar

/-!
Columns and the boundaries of a line. A column counts along the UTF-16 encoding of a line, a slice
along its bytes; both encodings are of variable width. Each column has a byte, and this byte is the
first boundary with as many units before it. Where the column is the end of an encoded character the
prefix up to there has just these units; inside a surrogate pair it has one more, and nowhere else.
-/
set_option autoImplicit false

namespace ZLang.Text

open Json (isHighSurrogate isLowSurrogate isHighSurrogate_iff isLowSurrogate_iff not_isSurrogate
  toNat_valid)

/-! ## The encoding that columns count in -/

/-- The code of a character in UTF-16. Outside the basic plane it is a high and a low surrogate. -/
def charCode (c : Char) : List Nat :=
  if c.toNat < 0x10000 then [c.toNat]
  else [0xD800 + (c.toNat - 0x10000) / 0x400, 0xDC00 + (c.toNat - 0x10000) % 0x400]

def utf16 (t : Text) : List Nat := t.flatMap charCode

@[simp] theorem utf16_nil : utf16 [] = [] := rfl

@[simp] theorem utf16_cons (c : Char) (t : Text) : utf16 (c :: t) = charCode c ++ utf16 t := rfl

@[simp] theorem length_charCode (c : Char) : (charCode c).length = charUnits c := by
  unfold charCode charUnits
  split <;> rfl

@[simp] theorem length_utf16 (t : Text) : (utf16 t).length = units t := by
  induction t with
  | nil => rfl
  | cons c t ih => simp [ih]

/-- The place of a code between the two units of a surrogate pair. -/
def SplitsPair (code : List Nat) (i : Nat) : Prop :=
  0 < i ∧ code[i - 1]?.any isHighSurrogate = true ∧ code[i]?.any isLowSurrogate = true

instance (code : List Nat) (i : Nat) : Decidable (SplitsPair code i) :=
  inferInstanceAs (Decidable (_ ∧ _ ∧ _))

@[simp] theorem not_splitsPair_zero (code : List Nat) : ¬ SplitsPair code 0 :=
  fun h => Nat.lt_irrefl 0 h.1

/-- A pair lies on one side of a place where no high surrogate ends. -/
theorem splitsPair_append (front code : List Nat) (i : Nat)
    (h : front.getLast?.any isHighSurrogate = false) :
    SplitsPair (front ++ code) (front.length + i) ↔ SplitsPair code i := by
  cases i with
  | zero =>
    have hseam : ¬ SplitsPair (front ++ code) (front.length + 0) := by
      rintro ⟨hpos, hhigh, -⟩
      rw [Nat.add_zero] at hpos hhigh
      rw [List.getElem?_append_left (by omega), ← List.getLast?_eq_getElem?, h] at hhigh
      cases hhigh
    exact iff_of_false hseam (not_splitsPair_zero code)
  | succ i =>
    have hhigh : front.length + (i + 1) - 1 = front.length + i := by omega
    unfold SplitsPair
    rw [hhigh, List.getElem?_append_right (by omega), List.getElem?_append_right (by omega),
      Nat.add_sub_cancel_left, Nat.add_sub_cancel_left, Nat.add_sub_cancel]
    exact and_congr_left fun _ => iff_of_true (by omega) (by omega)

theorem getLast?_charCode (c : Char) : (charCode c).getLast?.any isHighSurrogate = false := by
  unfold charCode
  split
  · exact (not_isSurrogate c).1
  · -- a low surrogate ends the code
    have hlow : isHighSurrogate (0xDC00 + (c.toNat - 0x10000) % 0x400) = false := by
      rw [Bool.eq_false_iff, ne_eq, isHighSurrogate_iff]
      omega
    rw [List.getLast?_cons_cons, List.getLast?_singleton, Option.any_some, hlow]

theorem splitsPair_behind (c : Char) (t : Text) (i : Nat) :
    SplitsPair (utf16 (c :: t)) (charUnits c + i) ↔ SplitsPair (utf16 t) i := by
  rw [utf16_cons, ← length_charCode]
  exact splitsPair_append (charCode c) (utf16 t) i (getLast?_charCode c)

theorem splitsPair_inside {c : Char} (t : Text) (h : charUnits c = 2) :
    SplitsPair (utf16 (c :: t)) 1 := by
  have hplane : ¬ c.toNat < 0x10000 := by
    intro hlt
    rw [charUnits, if_pos hlt] at h
    cases h
  have hvalid := toNat_valid c
  rw [utf16_cons, charCode, if_neg hplane]
  refine ⟨Nat.one_pos, ?_, ?_⟩
  · rw [List.cons_append, Nat.sub_self, List.getElem?_cons_zero, Option.any_some,
      isHighSurrogate_iff]
    omega
  · rw [List.cons_append, List.getElem?_cons_succ, List.cons_append, List.getElem?_cons_zero,
      Option.any_some, isLowSurrogate_iff]
    omega

/-- A column inside a pair has the whole character before it. -/
theorem units_takeUnits {t : Text} {column : Nat} (h : column ≤ units t) :
    units (takeUnits column t) = if SplitsPair (utf16 t) column then column + 1 else column := by
  induction t generalizing column with
  | nil =>
    have hzero : column = 0 := by simpa using h
    simp [hzero]
  | cons c t ih =>
    rw [units_cons] at h
    by_cases hfits : charUnits c ≤ column
    · -- the column lies behind the first character, and what is left of it counts in the rest
      obtain ⟨n, rfl⟩ : ∃ n, column = charUnits c + n := ⟨column - charUnits c, by omega⟩
      have hrest : n ≤ units t := by omega
      simp only [splitsPair_behind, takeUnits_cons_add, units_cons, ih hrest]
      split <;> omega
    · have htwo := charUnits_le_two c
      rcases Nat.eq_zero_or_pos column with rfl | hpos
      · simp
      · -- only a column between the two units of the first character is left
        have hpair : charUnits c = 2 := by omega
        obtain rfl : column = 1 := by omega
        have hcut : takeUnits 1 (c :: t) = [c] := by simp [takeUnits, hpair]
        simp only [hcut, splitsPair_inside t hpair, if_true, units_cons, units_nil, hpair]

/-! ## Boundaries -/

/-- The boundaries of a line with at least `column` units before them. -/
def reaching (line : Text) (column : Nat) : Set Nat :=
  {b | ∃ p, slice? line 0 b = some p ∧ column ≤ (utf16 p).length}

section Line

variable {line : Text} {column : Nat}

theorem isLeast_byteOffset (h : column ≤ units line) :
    IsLeast (reaching line column) (byteOffset line column) := by
  constructor
  · refine ⟨takeUnits column line, slice?_byteOffset line column, ?_⟩
    simpa using le_units_takeUnits h
  · rintro b ⟨p, hslice, hunits⟩
    rw [length_utf16] at hunits
    obtain ⟨hp, rfl⟩ := (slice?_zero_eq_some_iff _ _ _).mp hslice
    exact bytes_le_of_isPrefix (takeUnits_isPrefix_of_le hp hunits)

theorem reaching_eq_empty (h : units line < column) : reaching line column = ∅ := by
  refine Set.eq_empty_iff_forall_notMem.mpr ?_
  rintro b ⟨p, hslice, hunits⟩
  obtain ⟨⟨r, rfl⟩, -⟩ := (slice?_zero_eq_some_iff _ _ _).mp hslice
  grind [length_utf16]

theorem byteOffset_utf16 {p : Text} {b : Nat} (h : slice? line 0 b = some p) :
    byteOffset line (utf16 p).length = b := by
  obtain ⟨⟨r, rfl⟩, rfl⟩ := (slice?_zero_eq_some_iff _ _ _).mp h
  simp [byteOffset]

end Line

theorem byteOffset_monotone (line : Text) : Monotone (byteOffset line) :=
  fun _ _ h => bytes_le_of_isPrefix (takeUnits_mono h)

/-- The byte of a column is the first boundary with as many units before it, or the end of the line.
It grows with the column, and from the units before a boundary it leads back to the boundary. The
units before it are the column itself, or one more inside a surrogate pair. -/
theorem column_boundary (line : Text) :
    (∀ column, columnByte column 0 0 line = byteOffset line column ∧
      Boundary line (byteOffset line column) ∧
      (IsLeast (reaching line column) (byteOffset line column) ∨
        reaching line column = ∅ ∧ byteOffset line column = bytes line)) ∧
    Monotone (byteOffset line) ∧
    (∀ b, Boundary line b →
      ∃ p, slice? line 0 b = some p ∧ byteOffset line (utf16 p).length = b) ∧
    ∀ column, column ≤ (utf16 line).length →
      ∃ p, slice? line 0 (byteOffset line column) = some p ∧
        ((utf16 p).length = column ∨ (utf16 p).length = column + 1) ∧
        ((utf16 p).length = column + 1 ↔ SplitsPair (utf16 line) column) := by
  refine ⟨fun column => ⟨columnByte_zero column line, ?_, ?_⟩, byteOffset_monotone line, ?_, ?_⟩
  · exact ⟨takeUnits column line, takeUnits_isPrefix column line, rfl⟩
  · rcases Nat.lt_or_ge (units line) column with hlt | hge
    · refine .inr ⟨reaching_eq_empty hlt, ?_⟩
      rw [byteOffset, takeUnits_eq_self (Nat.le_of_lt hlt)]
    · exact .inl (isLeast_byteOffset hge)
  · rintro b ⟨p, hp, hb⟩
    have hslice := (slice?_zero_eq_some_iff line p b).mpr ⟨hp, hb⟩
    exact ⟨p, hslice, byteOffset_utf16 hslice⟩
  · intro column hcolumn
    rw [length_utf16] at hcolumn
    refine ⟨takeUnits column line, slice?_byteOffset line column, ?_⟩
    rw [length_utf16, units_takeUnits hcolumn]
    split
    · next hpair => exact ⟨.inr rfl, iff_of_true rfl hpair⟩
    · next hpair => exact ⟨.inl rfl, iff_of_false (by omega) hpair⟩

/-- A column inside the pair at the end of a line, and the boundary in front of that pair. -/
theorem column_boundary_pair :
    let line : Text := "é🎉".toList
    (2 ≤ (utf16 line).length ∧ SplitsPair (utf16 line) 2 ∧
      ∃ p, slice? line 0 (byteOffset line 2) = some p ∧ (utf16 p).length = 3) ∧
    (Boundary line 2 ∧ ∃ p, slice? line 0 2 = some p ∧ byteOffset line (utf16 p).length = 2) := by
  intro line
  have hcolumn : 2 ≤ (utf16 line).length := by decide
  have hpair : SplitsPair (utf16 line) 2 := by decide
  have hb : Boundary line 2 := ⟨"é".toList, by decide, by decide⟩
  obtain ⟨-, -, hboundary, hunits⟩ := column_boundary line
  obtain ⟨p, hslice, -, hinside⟩ := hunits 2 hcolumn
  exact ⟨⟨hcolumn, hpair, p, hslice, hinside.mpr hpair⟩, hb, hboundary 2 hb⟩

end ZLang.Text
