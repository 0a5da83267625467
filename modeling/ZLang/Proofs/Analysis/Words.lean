import ZLang.Analysis
import ZLang.Proofs.Text.Words

/-!
A line is judged by its words. Each of the five checks looks at the trimmed or at the whole line,
but all that it sees is a matter of the words: how the first one starts, how the last one ends, how
often a bracket occurs in them, whether one of them compares, and which of them stand left of the
first equals sign. Lines with the same words are therefore of one kind and break the same rules.
-/
set_option autoImplicit false

namespace ZLang

open Text

namespace Check

/-! ## Equals signs among words -/

theorem isBlank_equals : isBlank '=' = false := by decide

theorem ne_equals_of_isBlank {c : Char} (hc : isBlank c = true) : c ≠ '=' := by
  rintro rfl
  rw [isBlank_equals] at hc
  exact absurd hc (by decide)

/-- Two equals signs do not stand on either side of a blank. -/
theorem hasComparison_append (w t : Text) (ht : Apart t) :
    hasComparison (w ++ t) = (hasComparison w || hasComparison t) := by
  induction w with
  | nil => rfl
  | cons c w ih =>
    have hhead : ((w ++ t).head? == some '=') = (w.head? == some '=') := by
      cases w with
      | cons d w => rfl
      | nil =>
        cases t with
        | nil => rfl
        | cons d t => simpa using ne_equals_of_isBlank (ht d rfl)
    rw [List.cons_append, hasComparison, hasComparison, ih, hhead, Bool.or_assoc]

theorem any_hasComparison_words (t : Text) : (words t).any hasComparison = hasComparison t := by
  induction t using wordInduction with
  | nil => rfl
  | blank c t hc ih =>
    simp [hasComparison, hc, ih, ne_equals_of_isBlank hc]
  | word w t hne hw ht ih =>
    simp [words_solid_append w t hne hw ht, ih, hasComparison_append w t ht]

/-- Of the words of a line, those left of the first equals sign. A word that has the sign in it is
cut there, and falls away when the sign comes first. -/
def targetWords : List Text → List Text
  | [] => []
  | w :: ws => if '=' ∈ w then words (assignmentTarget w) else w :: targetWords ws

theorem words_assignmentTarget (t : Text) : words (assignmentTarget t) = targetWords (words t) := by
  induction t using wordInduction with
  | nil => rfl
  | blank c t hc ih =>
    have hcut : assignmentTarget (c :: t) = c :: assignmentTarget t :=
      List.takeWhile_cons_of_pos (by simpa using ne_equals_of_isBlank hc)
    simp [hcut, hc, ih]
  | word w t hne hw ht ih =>
    rw [words_solid_append w t hne hw ht, targetWords]
    by_cases hmem : '=' ∈ w
    · have hlen : (w.takeWhile (· != '=')).length ≠ w.length := by
        intro h
        have hall := List.takeWhile_eq_self_iff.mp
          ((List.takeWhile_prefix (· != '=')).eq_of_length h)
        simpa using hall '=' hmem
      rw [if_pos hmem, assignmentTarget, List.takeWhile_append, if_neg hlen, ← assignmentTarget]
    · have hpass : ∀ c ∈ w, (c != '=') = true := by
        intro c hc
        exact bne_iff_ne.mpr fun h => hmem (h ▸ hc)
      have hapart : Apart (assignmentTarget t) := by
        intro c hc
        rw [assignmentTarget, List.head?_takeWhile] at hc
        exact ht c (Option.mem_filter_iff.mp hc).1
      rw [if_neg hmem, ← ih, assignmentTarget, List.takeWhile_append_of_pos hpass]
      exact words_solid_append w _ hne hw hapart

/-! ## The checks -/

section Congruence

variable {x y : Text}

theorem terminator_congr (h : words x = words y) (rx ry : Text) :
    terminator (trim x) rx = terminator (trim y) ry := by
  rw [terminator, terminator, getLast?_trim, getLast?_trim, h]

theorem looksLikeDeclaration_trim (t : Text) :
    looksLikeDeclaration (trim t) = (words t).head?.any looksLikeDeclaration := by
  simp only [looksLikeDeclaration, declarationSpellings, List.any_cons, List.any_nil]
  rw [isPrefixOf_trim "LETT".toList t (by decide) (by decide),
    isPrefixOf_trim "Lett".toList t (by decide) (by decide)]
  cases (words t).head? with
  | none => rfl
  | some w => rfl

theorem declaration_congr (h : words x = words y) (rx ry : Text) :
    declaration (trim x) rx = declaration (trim y) ry := by
  simp only [declaration, looksLikeDeclaration_trim, words_trim, h]

theorem isBalanced_congr (opening closing : Char) (ho : isBlank opening = false)
    (hc : isBlank closing = false) (h : words x = words y) :
    isBalanced opening closing x = isBalanced opening closing y := by
  rw [isBalanced, isBalanced,
    ← count_flatten_words opening x ho, ← count_flatten_words closing x hc,
    ← count_flatten_words opening y ho, ← count_flatten_words closing y hc, h]

theorem contains_equals_congr (h : words x = words y) : x.contains '=' = y.contains '=' := by
  rw [Bool.eq_iff_iff, List.contains_iff_mem, List.contains_iff_mem, ← List.count_pos_iff,
    ← List.count_pos_iff, ← count_flatten_words '=' x isBlank_equals,
    ← count_flatten_words '=' y isBlank_equals, h]

theorem assignment_congr (h : words x = words y) (tx ty : Text) :
    assignment tx x = assignment ty y := by
  rw [assignment, assignment, ← any_hasComparison_words x, ← any_hasComparison_words y,
    contains_equals_congr h]
  simp only [isEmpty_trim, words_trim, words_assignmentTarget, h]

/-- All five checks see the words only. -/
theorem run_congr (h : words x = words y) : run (trim x) x = run (trim y) y := by
  have hp : parentheses (trim x) x = parentheses (trim y) y := by
    rw [parentheses, parentheses, isBalanced_congr '(' ')' (by decide) (by decide) h]
  have hb : braces (trim x) x = braces (trim y) y := by
    rw [braces, braces, isBalanced_congr '{' '}' (by decide) (by decide) h]
  simp only [run, all, List.flatMap_cons, List.flatMap_nil]
  rw [terminator_congr h x y, declaration_congr h x y, hp, hb, assignment_congr h (trim x) (trim y)]

end Congruence

end Check

/-! ## Lines -/

namespace Line

theorem kind_eq (l : Line) : l.kind =
    if (words l.content).isEmpty then .blank
    else if (words l.content).head?.any commentMark.isPrefixOf then .comment
    else .statement := by
  rw [kind, trimmed, isEmpty_trim, isPrefixOf_trim commentMark _ (by decide) (by decide)]

theorem kind_congr {l l' : Line} (h : words l.content = words l'.content) : l.kind = l'.kind := by
  rw [kind_eq, kind_eq, h]

theorem brokenRules_congr {l l' : Line} (h : words l.content = words l'.content) :
    l.brokenRules = l'.brokenRules := by
  rw [brokenRules, brokenRules, isEligible, isEligible, kind_congr h, trimmed, trimmed,
    Check.run_congr h]

theorem brokenRules_of_words_eq_nil {l : Line} (h : words l.content = []) : l.brokenRules = [] := by
  have hl : l.brokenRules = brokenRules ⟨l.number, []⟩ := brokenRules_congr h
  rw [hl]
  rfl

/-- The same line, `n` lines further down. -/
def shift (n : Nat) (l : Line) : Line := { l with number := l.number + n }

theorem diagnostics_shift (n : Nat) (l : Line) :
    (l.shift n).diagnostics = l.diagnostics.map (Diagnostic.shift n) := by
  have hrules : (l.shift n).brokenRules = l.brokenRules := brokenRules_congr rfl
  rw [diagnostics, diagnostics, hrules, List.map_map]
  rfl

end Line

end ZLang
