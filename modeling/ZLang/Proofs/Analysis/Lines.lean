import ZLang.Proofs.Analysis.Trimming
import ZLang.Proofs.Text.Spacing

/-!
The analysis goes line by line. The lines of two texts joined by a line feed are those of the first
and, numbered on from there, those of the second; so are the eligible lines, and the diagnostics
with them. And of each line only the words count: gaps of any width and kind may be exchanged for
one another, and no diagnostic changes.
-/
set_option autoImplicit false

namespace ZLang

open Text

/-! ## Joined texts -/

namespace Line

theorem length_ofText (t : Text) : (ofText t).length = (t.splitOn '\n').length := by
  rw [ofText, numbered, List.length_map, List.length_zipIdx]

theorem numbered_append (front back : List Text) :
    numbered (front ++ back) = numbered front ++ (numbered back).map (shift front.length) := by
  have hback : back.zipIdx (1 + front.length) =
      (back.zipIdx 1).map fun p => (p.1, p.2 + front.length) := by
    rw [List.zipIdx_eq_map_add (i := 1 + front.length), List.zipIdx_eq_map_add (i := 1),
      List.map_map]
    refine List.map_congr_left fun p _ => ?_
    have hnumber : 1 + front.length + p.2 = 1 + p.2 + front.length := by omega
    simp only [Function.comp_apply, hnumber]
  rw [numbered, List.zipIdx_append, List.map_append, hback, numbered, numbered, List.map_map,
    List.map_map]
  rfl

theorem ofText_join (a b : Text) :
    ofText (a ++ '\n' :: b) = ofText a ++ (ofText b).map (shift (ofText a).length) := by
  rw [length_ofText, ofText, List.splitOn_append_cons_self, numbered_append]
  rfl

theorem eligible_join (a b : Text) :
    eligible (a ++ '\n' :: b) = eligible a ++ (eligible b).map (shift (ofText a).length) := by
  have hkind : isEligible ∘ shift (ofText a).length = isEligible := rfl
  rw [eligible, ofText_join, List.filter_append, List.filter_map, hkind]
  rfl

end Line

theorem analyze_join (a b : Text) :
    analyze (a ++ '\n' :: b) =
      analyze a ++ (analyze b).map (Diagnostic.shift (Line.ofText a).length) := by
  rw [analyze, Line.ofText_join, List.flatMap_append, List.flatMap_map, analyze, analyze,
    List.map_flatMap]
  simp only [Line.diagnostics_shift]

/-- No line is judged by another: joining two texts joins what is found in them. -/
theorem analysis_joins_texts (a b : Text) :
    analyze (a ++ '\n' :: b) =
      analyze a ++ (analyze b).map (Diagnostic.shift (Line.ofText a).length) ∧
    Line.eligible (a ++ '\n' :: b) =
      Line.eligible a ++ (Line.eligible b).map (Line.shift (Line.ofText a).length) :=
  ⟨analyze_join a b, Line.eligible_join a b⟩

/-! ## Lines with the same words -/

theorem analyze_congr {x y : Text} (h : lineWords x = lineWords y) : analyze x = analyze y := by
  rw [analyze_eq_diagnosticsFrom, analyze_eq_diagnosticsFrom]
  exact diagnosticsFrom_congr 1 _ _ h

theorem lineWords_eq_iff (x y : Text) : lineWords x = lineWords y ↔
    (x.splitOn '\n').length = (y.splitOn '\n').length ∧
      ∀ (i : Nat) (line line' : Text), (x.splitOn '\n')[i]? = some line →
        (y.splitOn '\n')[i]? = some line' → words line = words line' := by
  constructor
  · intro h
    refine ⟨by simpa [lineWords] using congrArg List.length h, ?_⟩
    intro i line line' hx hy
    have hi : (lineWords x)[i]? = (lineWords y)[i]? := by rw [h]
    rw [lineWords, lineWords, List.getElem?_map, List.getElem?_map, hx, hy] at hi
    exact Option.some.inj hi
  · rintro ⟨hlen, h⟩
    refine List.ext_getElem (by simpa [lineWords] using hlen) ?_
    intro i hx hy
    rw [lineWords, List.length_map] at hx hy
    simp only [lineWords, List.getElem_map]
    exact h i _ _ (List.getElem?_eq_getElem hx) (List.getElem?_eq_getElem hy)

/-- Texts whose lines have the same words have the same diagnostics; in particular, those that
differ in one gap only. -/
theorem analyze_eq_of_words_eq :
    (∀ x y : Text, (x.splitOn '\n').length = (y.splitOn '\n').length →
      (∀ (i : Nat) (line line' : Text), (x.splitOn '\n')[i]? = some line →
        (y.splitOn '\n')[i]? = some line' → words line = words line') → analyze x = analyze y) ∧
    (∀ before a b after : Text, Gap before a after → Gap before b after →
      analyze (before ++ a ++ after) = analyze (before ++ b ++ after)) := by
  constructor
  · intro x y hlen h
    exact analyze_congr ((lineWords_eq_iff x y).mpr ⟨hlen, h⟩)
  · intro before a b after ha hb
    exact analyze_congr (ha.lineWords_eq hb)

/-- A byte order mark, indentation, wide gaps and carriage returns; and a carriage return alone. -/
theorem analyze_eq_of_words_eq_carriage_returns :
    let x := "\ufeff\tLETT  x = 5;\r\nOUT\u00a0x \r\n".toList
    let y := "LETT x\u2003= 5;\nOUT x\n  ".toList
    let before := "OUT x".toList
    let after := '\n' :: "OUT y;".toList
    ((x.splitOn '\n').length = (y.splitOn '\n').length ∧
      (∀ (i : Nat) (line line' : Text), (x.splitOn '\n')[i]? = some line →
        (y.splitOn '\n')[i]? = some line' → words line = words line') ∧
      analyze x = analyze y ∧ analyze x ≠ []) ∧
    Gap before ['\r'] after ∧ Gap before [] after ∧
      analyze (before ++ ['\r'] ++ after) = analyze (before ++ [] ++ after) := by
  intro x y before after
  have hlines : lineWords x = lineWords y := by decide +kernel
  obtain ⟨hlen, hwords⟩ := (lineWords_eq_iff x y).mp hlines
  have hafter : Apart after := apart_cons _ (by decide)
  have hreturn : Gap before ['\r'] after := ⟨by decide, by decide, .inl (by decide)⟩
  have hnothing : Gap before [] after := ⟨by decide, by decide, .inr (.inr hafter)⟩
  exact ⟨⟨hlen, hwords, analyze_eq_of_words_eq.1 x y hlen hwords, by decide +kernel⟩, hreturn,
    hnothing, analyze_eq_of_words_eq.2 before ['\r'] [] after hreturn hnothing⟩

end ZLang
