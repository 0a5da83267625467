import Mathlib.Data.List.Sort
import ZLang.Proofs.Analysis.Trimming
import ZLang.Proofs.Analysis.Verdict

/-!
The order in which diagnostics come: line after line and, within a line, in the order in which the
rules are declared. It is strict, so no diagnostic comes twice, and it is all that is needed to say
in which order the rules of one line are reported. Only eligible lines have diagnostics.
-/
set_option autoImplicit false

namespace ZLang

/-- The lexicographic order by line and by the place of the rule among the rules. -/
def Diagnostic.Before (d e : Diagnostic) : Prop :=
  Prod.Lex (· < ·) (· < ·) (d.line, d.rule.ctorIdx) (e.line, e.rule.ctorIdx)

/-! ## One line -/

theorem Rule.all_pairwise : all.Pairwise fun r s => r.ctorIdx < s.ctorIdx := by decide

theorem Rule.mem_all (r : Rule) : r ∈ all := by cases r <;> decide

namespace Line

theorem diagnostics_pairwise (l : Line) : l.diagnostics.Pairwise Diagnostic.Before := by
  have hrules := Rule.all_pairwise.sublist l.brokenRules_sublist
  rw [diagnostics, List.pairwise_map]
  refine hrules.imp ?_
  intro r s hlt
  exact Prod.Lex.right l.number hlt

theorem line_of_mem_diagnostics {l : Line} {d : Diagnostic} (h : d ∈ l.diagnostics) :
    d.line = l.number := by
  obtain ⟨r, -, rfl⟩ := List.mem_map.mp h
  rfl

theorem description_of_mem_diagnostics {l : Line} {d : Diagnostic} (h : d ∈ l.diagnostics) :
    d.description = d.rule.description := by
  obtain ⟨r, -, rfl⟩ := List.mem_map.mp h
  rfl

theorem isEligible_of_mem_diagnostics {l : Line} {d : Diagnostic} (h : d ∈ l.diagnostics) :
    l.isEligible = true := by
  obtain ⟨r, hr, -⟩ := List.mem_map.mp h
  rw [brokenRules] at hr
  split at hr
  · assumption
  · cases hr

end Line

/-! ## All lines -/

theorem diagnosticsFrom_pairwise (n : Nat) (pieces : List Text) :
    (diagnosticsFrom n pieces).Pairwise Diagnostic.Before := by
  induction pieces generalizing n with
  | nil => exact List.Pairwise.nil
  | cons piece pieces ih =>
    rw [diagnosticsFrom_cons, List.pairwise_append]
    refine ⟨Line.diagnostics_pairwise _, ih (n + 1), ?_⟩
    -- what is found further down has a number greater than that of this line
    intro d hd e he
    have hthis : d.line = n := Line.line_of_mem_diagnostics hd
    have hdown : n + 1 ≤ e.line := le_line_of_mem_diagnosticsFrom (n + 1) pieces e he
    exact Prod.Lex.left _ _ (by omega)

theorem analyze_pairwise (t : Text) : (analyze t).Pairwise Diagnostic.Before := by
  rw [analyze_eq_diagnosticsFrom]
  exact diagnosticsFrom_pairwise 1 _

theorem eligible_of_mem_analyze {t : Text} {d : Diagnostic} (h : d ∈ analyze t) :
    (∃ l ∈ Line.eligible t, l.number = d.line) ∧ d.description = d.rule.description := by
  obtain ⟨l, hl, hd⟩ := List.mem_flatMap.mp h
  have helig : l ∈ Line.eligible t :=
    List.mem_filter.mpr ⟨hl, Line.isEligible_of_mem_diagnostics hd⟩
  exact ⟨⟨l, helig, (Line.line_of_mem_diagnostics hd).symm⟩, Line.description_of_mem_diagnostics hd⟩

/-! ## What the order gives -/

namespace Diagnostic

theorem Before.ne {d e : Diagnostic} (h : Before d e) : d ≠ e := by
  rintro rfl
  rcases Prod.lex_def.mp h with hline | ⟨-, hrule⟩
  · exact Nat.lt_irrefl _ hline
  · exact Nat.lt_irrefl _ hrule

theorem Before.rule_lt {d e : Diagnostic} (h : Before d e) (hline : d.line = e.line) :
    d.rule.ctorIdx < e.rule.ctorIdx := by
  rcases Prod.lex_def.mp h with hlt | ⟨-, hrule⟩
  · change d.line < e.line at hlt
    omega
  · exact hrule

/-- The rules that ordered diagnostics report on one line. -/
theorem rules_sublist_of_pairwise {ds : List Diagnostic} (h : ds.Pairwise Before) (n : Nat) :
    ((ds.filter fun d => d.line == n).map rule).Sublist Rule.all := by
  have hlt : ((ds.filter fun d => d.line == n).map rule).Pairwise
      fun r s => r.ctorIdx < s.ctorIdx := by
    rw [List.pairwise_map]
    refine (h.filter _).imp_of_mem fun hd he hbefore => hbefore.rule_lt ?_
    have hdn := (List.mem_filter.mp hd).2
    have hen := (List.mem_filter.mp he).2
    rw [beq_iff_eq] at hdn hen
    rw [hdn, hen]
  have hnodup : ((ds.filter fun d => d.line == n).map rule).Nodup := by
    refine hlt.imp ?_
    rintro r s hrs rfl
    exact Nat.lt_irrefl _ hrs
  have : Std.Antisymm fun r s : Rule => r.ctorIdx < s.ctorIdx :=
    ⟨fun r s hrs hsr => absurd hrs (Nat.lt_asymm hsr)⟩
  have hsub := List.subperm_of_subset hnodup fun r _ => Rule.mem_all r
  exact List.sublist_of_subperm_of_pairwise hsub hlt Rule.all_pairwise

end Diagnostic

/-- Diagnostics come strictly by line and rule, each once and with the sentence of its rule, and
only on eligible lines. -/
theorem analyze_in_order (t : Text) :
    (analyze t).Pairwise Diagnostic.Before ∧ (analyze t).Nodup ∧
    (∀ n : Nat, (((analyze t).filter fun d => d.line == n).map Diagnostic.rule).Sublist
      [.missingSemicolon, .invalidKeyword, .missingVariableName, .unmatchedParentheses,
        .unmatchedBraces, .invalidAssignment]) ∧
    ∀ d ∈ analyze t,
      (∃ l ∈ Line.eligible t, l.number = d.line) ∧ d.description = d.rule.description := by
  have horder := analyze_pairwise t
  refine ⟨horder, horder.imp fun h => h.ne, ?_, fun d hd => eligible_of_mem_analyze hd⟩
  exact Diagnostic.rules_sublist_of_pairwise horder

/-- Two rules of one check on the first line, a comment and a blank line, and line 4. -/
theorem analyze_in_order_four_lines :
    let t := "Lett\n// (\n\n(x = 1".toList
    let d : Diagnostic := ⟨4, .unmatchedParentheses, "Unmatched parentheses".toList⟩
    (analyze t).map (fun e => (e.line, e.rule)) =
      [(1, .missingSemicolon), (1, .invalidKeyword), (1, .missingVariableName),
        (4, .missingSemicolon), (4, .unmatchedParentheses)] ∧
    d ∈ analyze t ∧ (analyze t).Pairwise Diagnostic.Before ∧
    (∃ l ∈ Line.eligible t, l.number = 4) ∧
      "Unmatched parentheses".toList = Rule.unmatchedParentheses.description := by
  intro t d
  have hmem : d ∈ analyze t := by decide +kernel
  obtain ⟨horder, -, -, hdiag⟩ := analyze_in_order t
  exact ⟨by decide +kernel, hmem, horder, hdiag d hmem⟩

end ZLang
