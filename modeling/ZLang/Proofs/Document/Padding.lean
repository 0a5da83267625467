import ZLang.Proofs.Document.Lines
import ZLang.Proofs.Text.Spacing

/-!
The lines of a text and those of its trimmed part. Trimming cuts whole blank lines off at both ends,
and it may cut the first and the last line that it leaves; these two may be the same line. So line
`i` of the trimmed part is line `leadingLines + i` of the text, up to blanks at its ends, and the
first line of the trimmed part is the first line of the text that is not blank.
-/
set_option autoImplicit false

namespace ZLang

open Text

namespace Text

/-! ## Lines of a padded text -/

theorem exists_line {t : Text} {i : Nat} (h : i ≤ t.count '\n') : ∃ p, t.line? i = some p := by
  have hlen : i < (t.splitOn '\n').length := by
    rw [length_splitOn]
    omega
  exact ⟨_, List.getElem?_eq_getElem hlen⟩

/-- The last line of the blanks grows together with the first line of the text. -/
theorem line?_blanks_append (a t : Text) (ha : Blanks a) : ∃ x, Blanks x ∧
    (∀ i p, i < a.count '\n' → (a ++ t).line? i = some p → Blanks p) ∧
    ∀ i, (a ++ t).line? (a.count '\n' + i) =
      (t.line? i).map fun p => (if i = 0 then x else []) ++ p := by
  obtain ⟨front, last, first, back, hsa, hst, hsat⟩ := splitOn_append '\n' a t
  have hfront := length_front_of_splitOn hsa
  have hpieces : ∀ p ∈ front ++ [last], Blanks p :=
    fun p hp => blanks_of_mem_splitOn ha (by rw [hsa]; exact hp)
  refine ⟨last, hpieces last (by simp), ?_, ?_⟩
  · intro i p hi hp
    rw [line?, hsat, List.getElem?_append_left (by omega)] at hp
    exact hpieces p (List.mem_append_left _ (List.mem_of_getElem? hp))
  · intro i
    rw [line?, line?, hsat, hst, ← hfront, List.getElem?_append_right (by omega),
      Nat.add_sub_cancel_left]
    cases i with
    | zero => rfl
    | succ i => simp

/-- The first line of the blanks grows together with the last line of the text. -/
theorem line?_append_blanks (t b : Text) (hb : Blanks b) : ∃ y, Blanks y ∧
    (∀ i p, t.count '\n' < i → (t ++ b).line? i = some p → Blanks p) ∧
    ∀ i, i ≤ t.count '\n' → (t ++ b).line? i =
      (t.line? i).map fun p => p ++ if i = t.count '\n' then y else [] := by
  obtain ⟨front, last, first, back, hst, hsb, hstb⟩ := splitOn_append '\n' t b
  have hfront := length_front_of_splitOn hst
  have hpieces : ∀ p ∈ first :: back, Blanks p :=
    fun p hp => blanks_of_mem_splitOn hb (by rw [hsb]; exact hp)
  refine ⟨first, hpieces first List.mem_cons_self, ?_, ?_⟩
  · intro i p hi hp
    obtain ⟨j, rfl⟩ : ∃ j, i = front.length + (j + 1) := ⟨i - front.length - 1, by omega⟩
    rw [line?, hstb, List.getElem?_append_right (by omega), Nat.add_sub_cancel_left,
      List.getElem?_cons_succ] at hp
    exact hpieces p (List.mem_cons_of_mem first (List.mem_of_getElem? hp))
  · intro i hi
    rw [line?, line?, hstb, hst]
    rcases Nat.lt_or_eq_of_le hi with hlt | rfl
    · rw [List.getElem?_append_left (by omega), List.getElem?_append_left (by omega),
        if_neg (by omega)]
      simp
    · rw [← hfront, List.getElem?_append_right (Nat.le_refl _),
        List.getElem?_append_right (Nat.le_refl _), Nat.sub_self]
      simp

/-- Line `i` of a text, with `x` in front of the first line and `y` behind the line `last`. -/
def padLine (x y : Text) (last i : Nat) (p : Text) : Text :=
  (if i = 0 then x else []) ++ p ++ if i = last then y else []

theorem trim_padLine {x y : Text} (hx : Blanks x) (hy : Blanks y) (last i : Nat) (p : Text) :
    trim (padLine x y last i p) = trim p := by
  have hnothing : Blanks [] := fun c hc => nomatch hc
  apply trim_padded
  · split
    · exact hx
    · exact hnothing
  · split
    · exact hy
    · exact hnothing

theorem padLine_inner {x y p : Text} {last i : Nat} (hfirst : i ≠ 0) (hlast : i ≠ last) :
    padLine x y last i p = p := by
  rw [padLine, if_neg hfirst, if_neg hlast, List.nil_append, List.append_nil]

theorem line?_padded (a t b : Text) (ha : Blanks a) (hb : Blanks b) :
    ∃ x y, Blanks x ∧ Blanks y ∧
      (∀ i p, i < a.count '\n' ∨ a.count '\n' + t.count '\n' < i →
        (a ++ t ++ b).line? i = some p → Blanks p) ∧
      ∀ i, i ≤ t.count '\n' → (a ++ t ++ b).line? (a.count '\n' + i) =
        (t.line? i).map (padLine x y (t.count '\n') i) := by
  obtain ⟨x, hx, hbefore, hfront⟩ := line?_blanks_append a (t ++ b) ha
  obtain ⟨y, hy, hbehind, hback⟩ := line?_append_blanks t b hb
  rw [List.append_assoc]
  refine ⟨x, y, hx, hy, ?_, ?_⟩
  · rintro i p (hi | hi) hp
    · exact hbefore i p hi hp
    · -- a line behind the text is not its first, so the blanks in front do not reach it
      obtain ⟨j, rfl⟩ : ∃ j, i = a.count '\n' + (j + 1) := ⟨i - a.count '\n' - 1, by omega⟩
      rw [hfront] at hp
      exact hbehind (j + 1) p (by omega) (by simpa using hp)
  · intro i hi
    rw [hfront, hback i hi, Option.map_map]
    refine Option.map_congr fun p _ => ?_
    rw [padLine, List.append_assoc]
    rfl

/-- The first line of a text that does not start with a blank. -/
theorem not_blanks_first_line {t p : Text} (ht : Tight t) (hne : t ≠ [])
    (hp : t.line? 0 = some p) : ¬ Blanks p := by
  obtain ⟨c, r, rfl⟩ := List.exists_cons_of_ne_nil hne
  have hc : isBlank c = false := ht.head c rfl
  have hbreak : ¬ (c == '\n') = true := by
    intro h
    rw [eq_of_beq h] at hc
    exact absurd hc (by decide)
  obtain ⟨first, back, hs⟩ := List.exists_cons_of_ne_nil (List.splitOn_ne_nil '\n' r)
  rw [line?, List.splitOn_cons_eq_if_modifyHead, if_neg hbreak, hs, List.modifyHead_cons,
    List.getElem?_cons_zero, Option.some.injEq] at hp
  intro hblanks
  have hfirst := hblanks c (by rw [← hp]; exact List.mem_cons_self)
  rw [hc] at hfirst
  cases hfirst

end Text

namespace Line

theorem kind_eq_blank_iff (l : Line) : l.kind = .blank ↔ Blanks l.content := by
  rw [kind_eq, ← words_eq_nil_iff]
  cases words l.content with
  | nil => simp
  | cons w ws => cases h : commentMark.isPrefixOf w <;> simp [h]

theorem kind_eq_of_trimmed_eq {l l' : Line} (h : l.trimmed = l'.trimmed) : l.kind = l'.kind := by
  rw [kind, kind, h]

theorem exists_row {t : Text} {l : Line} (h : l ∈ ofText t) :
    ∃ i, l.number = i + 1 ∧ t.line? i = some l.content := by
  have hnumber : l.number ∈ (ofText t).map number := List.mem_map_of_mem h
  rw [map_number_ofText, List.mem_range'_1] at hnumber
  obtain ⟨n, content⟩ := l
  obtain ⟨i, rfl⟩ : ∃ i, n = i + 1 := ⟨n - 1, by simp only at hnumber; omega⟩
  exact ⟨i, rfl, (mem_ofText_iff t content i).mp h⟩

theorem exists_mem_ofText {t : Text} {i : Nat} (h : i ≤ t.count '\n') :
    ∃ l ∈ ofText t, l.number = i + 1 := by
  obtain ⟨p, hp⟩ := exists_line h
  exact ⟨⟨i + 1, p⟩, (mem_ofText_iff t p i).mpr hp, rfl⟩

end Line

namespace Submission

open Line

/-! ## The lines of a submission -/

theorem line?_trim (t : Text) : ∃ x y, Blanks x ∧ Blanks y ∧
    (∀ i p, i < leadingLines t ∨ leadingLines t + (trim t).count '\n' < i →
      t.line? i = some p → Blanks p) ∧
    ∀ i, i ≤ (trim t).count '\n' → t.line? (leadingLines t + i) =
      ((trim t).line? i).map (padLine x y ((trim t).count '\n') i) := by
  have h := line?_padded _ (trim t) _ (blanks_takeWhile t) (blanks_trailing t)
  rw [trim_eq, ← leadingLines_eq] at h
  exact h

/-- The lines of a text against those of a part of it that starts `offset` lines down: outside the
part all lines are blank, and the lines of the part are in the text up to blanks at their ends. -/
structure Aligned (text part : Text) (offset : Nat) : Prop where
  outside : ∀ l ∈ ofText text, l.number ≤ offset ∨ offset + (ofText part).length < l.number →
    l.kind = .blank
  present : ∀ i, 1 ≤ i → i ≤ (ofText part).length →
    (∃ l ∈ ofText part, l.number = i) ∧ ∃ l ∈ ofText text, l.number = offset + i
  same : ∀ l ∈ ofText part, ∀ l' ∈ ofText text, l'.number = offset + l.number →
    l.trimmed = l'.trimmed ∧ l.kind = l'.kind ∧
      (1 < l.number → l.number < (ofText part).length → l.content = l'.content)

theorem aligned_trim (t : Text) : Aligned t (trim t) (leadingLines t) := by
  obtain ⟨x, y, hx, hy, houtside, hlines⟩ := line?_trim t
  have hlen := length_ofText_eq (trim t)
  refine ⟨?_, ?_, ?_⟩
  · intro l hl hnumber
    obtain ⟨i, hi, hline⟩ := exists_row hl
    exact (kind_eq_blank_iff l).mpr (houtside i _ (by omega) hline)
  · intro i hpos hle
    obtain ⟨j, rfl⟩ : ∃ j, i = j + 1 := ⟨i - 1, by omega⟩
    have hj : j ≤ (trim t).count '\n' := by omega
    obtain ⟨p, hp⟩ := exists_line hj
    have hline : t.line? (leadingLines t + j) = some (padLine x y ((trim t).count '\n') j p) := by
      rw [hlines j hj, hp]
      rfl
    exact ⟨exists_mem_ofText hj, ⟨_, _⟩, (mem_ofText_iff t _ _).mpr hline, rfl⟩
  · intro l hl l' hl' hnumber
    obtain ⟨i, hi, hline⟩ := exists_row hl
    obtain ⟨j, hj, hline'⟩ := exists_row hl'
    -- numbers count from 1 and rows from 0, so the offset is the same for both
    obtain rfl : j = leadingLines t + i := by omega
    have hle : i ≤ (trim t).count '\n' := by
      obtain ⟨hlt, -⟩ := List.getElem?_eq_some_iff.mp hline
      rw [length_splitOn] at hlt
      omega
    rw [hlines i hle, hline, Option.map_some, Option.some.injEq] at hline'
    have htrimmed : l.trimmed = l'.trimmed := by
      rw [trimmed, trimmed, ← hline', trim_padLine hx hy]
    refine ⟨htrimmed, kind_eq_of_trimmed_eq htrimmed, ?_⟩
    intro hfirst hlast
    rw [← hline', padLine_inner (by omega) (by omega)]

theorem first_line_of_code {t : Text} (h : ¬ Blanks t) :
    (∃ l ∈ ofText t, l.number = leadingLines t + 1 ∧ l.kind ≠ .blank) ∧
      ∀ l ∈ ofText t, l.kind ≠ .blank → leadingLines t + 1 ≤ l.number := by
  have haligned := aligned_trim t
  constructor
  · obtain ⟨⟨l, hl, hnumber⟩, l', hl', hnumber'⟩ :=
      haligned.present 1 (Nat.le_refl 1) (by rw [length_ofText_eq]; omega)
    obtain ⟨i, hi, hline⟩ := exists_row hl
    obtain rfl : i = 0 := by omega
    have hkind := (haligned.same l hl l' hl' (by omega)).2.1
    refine ⟨l', hl', hnumber', ?_⟩
    rw [← hkind, ne_eq, kind_eq_blank_iff]
    exact not_blanks_first_line (tight_trim t) (fun hnil => h ((trim_eq_nil_iff t).mp hnil)) hline
  · intro l hl hkind
    by_contra hlt
    exact hkind (haligned.outside l hl (.inl (by omega)))

theorem leadingLines_of_blanks {t : Text} (h : Blanks t) :
    leadingLines t = (ofText t).length - 1 := by
  have hall : t.takeWhile isBlank = t := List.takeWhile_eq_self_iff.mpr h
  rw [leadingLines_eq, hall, length_ofText_eq, Nat.add_sub_cancel]

/-- What is accepted has the lines of the whole text, but for blank lines at its ends and blanks
around its first and its last line; it starts on the first line of the text that is not blank. -/
theorem lines_of_accept :
    (∀ text code : Text, accept text = .ok code →
      Aligned text code (leadingLines text) ∧
      (∃ l ∈ ofText text, l.number = leadingLines text + 1 ∧ l.kind ≠ .blank) ∧
      ∀ l ∈ ofText text, l.kind ≠ .blank → leadingLines text + 1 ≤ l.number) ∧
    ∀ text : Text, Blanks text → leadingLines text = (ofText text).length - 1 := by
  refine ⟨?_, fun text h => leadingLines_of_blanks h⟩
  intro text code h
  obtain ⟨hblanks, rfl⟩ := (accept_eq_ok_iff text code).mp h
  exact ⟨aligned_trim text, first_line_of_code hblanks⟩

/-- Three lines of code between blank ones, with blanks before the first and behind the last. -/
theorem lines_of_accept_three :
    let text : Text := "\ufeff\n \n \tLETT x = 5;\r\n\tOUT x\n // end \u0085\n ".toList
    let code : Text := "LETT x = 5;\r\n\tOUT x\n // end".toList
    let first : Line := ⟨1, "LETT x = 5;\r".toList⟩
    let first' : Line := ⟨3, " \tLETT x = 5;\r".toList⟩
    let blank : Text := "\ufeff\r\n \n".toList
    (accept text = .ok code ∧ Aligned text code 2 ∧
      (first ∈ ofText code ∧ first' ∈ ofText text ∧ first.trimmed = first'.trimmed) ∧
      ∃ l ∈ ofText text, l.number = 3 ∧ l.kind ≠ .blank) ∧
    Blanks blank ∧ leadingLines blank = (ofText blank).length - 1 := by
  intro text code first first' blank
  have haccept : accept text = .ok code := by decide +kernel
  have hoffset : leadingLines text = 2 := by decide +kernel
  have hfirst : first ∈ ofText code := by decide
  have hfirst' : first' ∈ ofText text := by decide +kernel
  have hblank : Blanks blank := by decide
  obtain ⟨haligned, hcode, -⟩ := lines_of_accept.1 text code haccept
  rw [hoffset] at haligned hcode
  have hsame := haligned.same first hfirst first' hfirst' rfl
  exact ⟨⟨haccept, haligned, ⟨hfirst, hfirst', hsame.1⟩, hcode⟩, hblank,
    lines_of_accept.2 blank hblank⟩

end Submission

end ZLang
