import ZLang.Proofs.Text.Pieces
import ZLang.Proofs.Text.Words

/-!
Words as maximal runs, and the blanks between them. `Runs t ws` says of a text, without splitting
it, that `ws` are its maximal runs of characters that are not blank; `words` lists exactly these. A
`Gap` is a run of blanks inside a line that keeps the words on its two sides apart. One gap put in
the place of another changes no line's words. The trimmed part of a text is the only part that has
nothing but blanks around it and no blank at either end.
-/
set_option autoImplicit false

namespace ZLang.Text

/-! ## Maximal runs -/

/-- The maximal runs of characters that are not blank. A run is followed by a blank or by nothing,
and preceded by a blank or by nothing. -/
inductive Runs : Text → List Text → Prop
  | nil : Runs [] []
  | blank (c : Char) (t : Text) (ws : List Text) (hc : isBlank c = true) (ht : Runs t ws) :
      Runs (c :: t) ws
  | word (w t : Text) (ws : List Text) (hne : w ≠ []) (hw : Solid w) (hapart : Apart t)
      (ht : Runs t ws) : Runs (w ++ t) (w :: ws)

theorem runs_words (t : Text) : Runs t (words t) := by
  induction t using wordInduction with
  | nil => exact Runs.nil
  | blank c t hc ih => simpa [hc] using Runs.blank c t _ hc ih
  | word w t hne hw ht ih =>
    rw [words_solid_append w t hne hw ht]
    exact Runs.word w t _ hne hw ht ih

theorem words_of_runs {t : Text} {ws : List Text} (h : Runs t ws) : words t = ws := by
  induction h with
  | nil => rfl
  | blank c t ws hc _ ih => simp [hc, ih]
  | word w t ws hne hw hapart _ ih => rw [words_solid_append w t hne hw hapart, ih]

theorem runs_iff (t : Text) (ws : List Text) : Runs t ws ↔ words t = ws :=
  ⟨words_of_runs, fun h => h ▸ runs_words t⟩

theorem Runs.ne_nil_and_solid {t : Text} {ws : List Text} (h : Runs t ws) :
    ∀ w ∈ ws, w ≠ [] ∧ Solid w := by
  induction h with
  | nil => simp
  | blank c t ws _ _ ih => exact ih
  | word w t ws hne hw _ _ ih =>
    intro v hv
    rcases List.mem_cons.mp hv with rfl | hv
    · exact ⟨hne, hw⟩
    · exact ih v hv

/-! ## Words around a gap -/

/-- A text whose last word cannot go on. -/
def Closed (t : Text) : Prop := ∀ c ∈ t.getLast?, isBlank c = true

theorem apart_cons {c : Char} (t : Text) (hc : isBlank c = true) : Apart (c :: t) := by
  intro d hd
  have hcd : c = d := by simpa using hd
  exact hcd ▸ hc

theorem apart_append_of_ne_nil {a : Text} (t : Text) (ha : Blanks a) (hne : a ≠ []) :
    Apart (a ++ t) := by
  obtain ⟨c, a, rfl⟩ := List.exists_cons_of_ne_nil hne
  exact apart_cons (a ++ t) (ha c List.mem_cons_self)

theorem words_append_apart (x y : Text) (hy : Apart y) : words (x ++ y) = words x ++ words y := by
  cases y with
  | nil => simp
  | cons c y =>
    have hc : isBlank c = true := hy c rfl
    simp [words_append_cons_blank x y c hc, hc]

/-! ## The words of each line -/

def lineWords (t : Text) : List (List Text) := (t.splitOn '\n').map words

theorem lineWords_cons_break (t : Text) : lineWords ('\n' :: t) = [] :: lineWords t := by
  rw [lineWords, List.splitOn_cons_eq_if_modifyHead, if_pos (by decide)]
  rfl

theorem lineWords_blanks_append (a t : Text) (ha : Blanks a) (hbreak : '\n' ∉ a) :
    lineWords (a ++ t) = lineWords t := by
  obtain ⟨front, last, first, back, hsa, hst, hsat⟩ := splitOn_append '\n' a t
  have hone : front ++ [last] = [] ++ [a] := by
    rw [← hsa, List.splitOn_eq_singleton hbreak]
    rfl
  obtain ⟨rfl, hlast⟩ := List.append_inj' hone rfl
  have hla : last = a := (List.cons.inj hlast).1
  rw [lineWords, lineWords, hsat, hst, hla, List.nil_append, List.map_cons, List.map_cons,
    words_blanks_append a first ha]

theorem apart_of_splitOn {t first : Text} {back : List Text} (ht : Apart t)
    (h : t.splitOn '\n' = first :: back) : Apart first := by
  cases t with
  | nil =>
    have hf : first = [] := by simpa [eq_comm] using congrArg List.head? h
    rw [hf]
    exact fun c hc => nomatch hc
  | cons c t =>
    rw [List.splitOn_cons_eq_if_modifyHead] at h
    split at h
    · cases h
      exact fun c hc => nomatch hc
    · obtain ⟨p, ps, hp⟩ := List.exists_cons_of_ne_nil (List.splitOn_ne_nil '\n' t)
      rw [hp, List.modifyHead_cons] at h
      cases h
      exact ht

theorem lineWords_append_apart (t : Text) {x y : Text} (hx : Apart x) (hy : Apart y)
    (h : lineWords x = lineWords y) : lineWords (t ++ x) = lineWords (t ++ y) := by
  obtain ⟨front, last, first, back, hst, hsx, hstx⟩ := splitOn_append '\n' t x
  obtain ⟨front', last', first', back', hst', hsy, hsty⟩ := splitOn_append '\n' t y
  obtain ⟨rfl, hlast⟩ := List.append_inj' (hst.symm.trans hst') rfl
  obtain rfl : last = last' := (List.cons.inj hlast).1
  rw [lineWords, lineWords, hsx, hsy, List.map_cons, List.map_cons, List.cons.injEq] at h
  rw [lineWords, lineWords, hstx, hsty, List.map_append, List.map_append, List.map_cons,
    List.map_cons, words_append_apart last first (apart_of_splitOn hx hsx),
    words_append_apart last first' (apart_of_splitOn hy hsy), h.1, h.2]

/-! ## Gaps -/

/-- A run of blanks within a line that keeps the words before it and after it apart. It may be empty
only where they are apart already. -/
structure Gap (before gap after : Text) : Prop where
  blanks : Blanks gap
  inLine : '\n' ∉ gap
  parts : gap ≠ [] ∨ Closed before ∨ Apart after

theorem lineWords_cons_blank_congr {c : Char} {x y : Text} (hc : isBlank c = true)
    (h : lineWords x = lineWords y) : lineWords (c :: x) = lineWords (c :: y) := by
  by_cases hbreak : c = '\n'
  · rw [hbreak, lineWords_cons_break, lineWords_cons_break, h]
  · have hblanks : Blanks [c] := by simpa [Blanks] using hc
    have hmem : '\n' ∉ [c] := by simpa [eq_comm] using hbreak
    have hx : lineWords (c :: x) = lineWords x := lineWords_blanks_append [c] x hblanks hmem
    have hy : lineWords (c :: y) = lineWords y := lineWords_blanks_append [c] y hblanks hmem
    rw [hx, hy, h]

/-- One gap in the place of another. -/
theorem Gap.lineWords_eq {before a b after : Text} (ha : Gap before a after)
    (hb : Gap before b after) :
    lineWords (before ++ a ++ after) = lineWords (before ++ b ++ after) := by
  have hab : lineWords (a ++ after) = lineWords (b ++ after) := by
    rw [lineWords_blanks_append a after ha.blanks ha.inLine,
      lineWords_blanks_append b after hb.blanks hb.inLine]
  rw [List.append_assoc, List.append_assoc]
  by_cases hclosed : Closed before
  · -- the last blank before the gap goes with what follows, which is then apart in both texts
    rcases List.eq_nil_or_concat before with rfl | ⟨t, c, hconcat⟩
    · exact hab
    · rw [List.concat_eq_append] at hconcat
      subst hconcat
      have hc : isBlank c = true := hclosed c (by simp)
      rw [List.append_assoc, List.append_assoc, List.singleton_append, List.singleton_append]
      exact lineWords_append_apart t (apart_cons _ hc) (apart_cons _ hc)
        (lineWords_cons_blank_congr hc hab)
  · have hapart : ∀ {g : Text}, Gap before g after → Apart (g ++ after) := by
      intro g hg
      by_cases hne : g = []
      · rw [hne]
        exact (hg.parts.resolve_left (not_not.mpr hne)).resolve_left hclosed
      · exact apart_append_of_ne_nil after hg.blanks hne
    exact lineWords_append_apart before (hapart ha) (hapart hb) hab

/-! ## The trimmed part -/

/-- No blank at either end. -/
structure Tight (t : Text) : Prop where
  head : ∀ c ∈ t.head?, isBlank c = false
  last : ∀ c ∈ t.getLast?, isBlank c = false

theorem tight_trim (t : Text) : Tight (trim t) := by
  refine ⟨head?_trim t, ?_⟩
  intro c hc
  rw [getLast?_trim, flatten_words] at hc
  have hmem := List.mem_of_getLast? hc
  simpa using (List.mem_filter.mp hmem).2

theorem Tight.trim_eq {t : Text} (h : Tight t) : trim t = t := by
  have hback : trimStart t.reverse = t.reverse := by
    apply trimStart_eq_self
    rw [List.head?_reverse]
    exact h.last
  rw [trim, trimStart_eq_self t h.head]
  calc trimEnd t = (trimStart t.reverse).reverse := rfl
    _ = t := by rw [hback, List.reverse_reverse]

theorem Tight.eq_trim {a u b : Text} (hu : Tight u) (ha : Blanks a) (hb : Blanks b) :
    u = trim (a ++ u ++ b) := by
  rw [trim_padded a u b ha hb, hu.trim_eq]

/-! ## Words on both sides of a run of blanks -/

theorem words_append_blanks_append (x y : Text) {s : Text} (hne : s ≠ []) (hs : Blanks s) :
    words (x ++ s ++ y) = words x ++ words y := by
  rw [List.append_assoc, words_append_apart x (s ++ y) (apart_append_of_ne_nil y hs hne),
    words_blanks_append s y hs]

/-- Trimming and words, by their laws: the trimmed part is the one part with blanks around it and
none at its ends, and the words are the maximal runs of other characters. -/
theorem trimmed_part_and_words (t : Text) :
    (∃ a b, t = a ++ trim t ++ b ∧ Blanks a ∧ Blanks b) ∧
    Tight (trim t) ∧
    (∀ a u b, t = a ++ u ++ b → Blanks a → Blanks b → Tight u → u = trim t) ∧
    (∀ w ∈ words t, w ≠ [] ∧ Solid w) ∧
    (words t).flatten = (t.filter fun c => !isBlank c) ∧
    (∀ ws, Runs t ws ↔ words t = ws) ∧
    words (trim t) = words t ∧
    ∀ x s y, s ≠ [] → Blanks s → words (x ++ s ++ y) = words x ++ words y := by
  refine ⟨?_, tight_trim t, ?_, (runs_words t).ne_nil_and_solid, flatten_words t, runs_iff t,
    words_trim t, ?_⟩
  · exact ⟨t.takeWhile isBlank, trailing t, (trim_eq t).symm, blanks_takeWhile t, blanks_trailing t⟩
  · rintro a u b rfl ha hb hu
    exact hu.eq_trim ha hb
  · intro x s y hne hs
    exact words_append_blanks_append x y hne hs

/-- A byte order mark and line breaks at the ends, and a wide gap of three kinds of blanks. -/
theorem trimmed_part_and_words_marks :
    let a : Text := "\ufeff\n ".toList
    let u : Text := "a\ufeffb \u3000\tc".toList
    let b : Text := "\r\n\u0085".toList
    (Blanks a ∧ Blanks b ∧ Tight u ∧ u = trim (a ++ u ++ b)) ∧
    ("b".toList ∈ words (a ++ u ++ b) ∧ "b".toList ≠ []) ∧
    (" \u3000\t".toList ≠ [] ∧ Blanks " \u3000\t".toList ∧
      words ("a\ufeffb".toList ++ " \u3000\t".toList ++ "c".toList) =
        words "a\ufeffb".toList ++ words "c".toList) := by
  intro a u b
  have ha : Blanks a := by decide
  have hb : Blanks b := by decide
  have hself : trim u = u := by decide +kernel
  have hu : Tight u := hself ▸ tight_trim u
  have hword : "b".toList ∈ words (a ++ u ++ b) := by decide +kernel
  have hgap : Blanks " \u3000\t".toList := by decide
  obtain ⟨-, -, hpart, hwords, -, -, -, hcut⟩ := trimmed_part_and_words (a ++ u ++ b)
  exact ⟨⟨ha, hb, hu, hpart a u b rfl ha hb hu⟩, ⟨hword, (hwords _ hword).1⟩, by decide, hgap,
    hcut _ _ _ (by decide) hgap⟩

end ZLang.Text
