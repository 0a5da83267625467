import ZLang.Proofs.Analysis.Words
import ZLang.Proofs.Text.Spacing

/-!
What the rules ask of a line. `Rule.Obeyed` states for each rule what it asks, on the maximal runs
of a line and on the line as it stands, with no word about trimming or checking. Each check has one
lemma that says which rules it reports and when; together they give `mem_run_iff`: a statement is
charged with exactly the rules that it does not obey. The rules come in the order of `Rule.all`, and
each at most once.
-/
set_option autoImplicit false

namespace ZLang

open Text

/-- A word that is taken for the start of a declaration. -/
def Declares (w : Text) : Prop := "LETT".toList <+: w ∨ "Lett".toList <+: w

/-- What a rule asks of a statement whose maximal runs are `ws`. -/
def Rule.Obeyed (line : Text) (ws : List Text) : Rule → Prop
  | missingSemicolon => ∃ w ∈ ws.getLast?, ∃ c ∈ w.getLast?, c = ';' ∨ c = '{' ∨ c = '}'
  | invalidKeyword => ∀ w ∈ ws.head?, Declares w → w = "LETT".toList
  | missingVariableName => ∀ w ∈ ws.head?, Declares w → 2 ≤ ws.length
  | unmatchedParentheses => line.count '(' = line.count ')'
  | unmatchedBraces => line.count '{' = line.count '}'
  -- `before` is what stands left of the first equals sign
  | invalidAssignment => ∀ before after, line = before ++ '=' :: after → '=' ∉ before →
      ¬ "==".toList <:+: line → ∃ vs, Runs before vs ∧ (vs.length = 1 ∨ vs.length = 2)

namespace Check

/-! ## Flags -/

theorem mem_flag {broken : Bool} {P : Prop} (h : broken = true ↔ ¬ P) (r s : Rule) :
    r ∈ flag broken s ↔ r = s ∧ ¬ P := by
  rw [← h]
  cases broken with
  | false => simp [flag]
  | true => simp [flag]

theorem flag_sublist (broken : Bool) (r : Rule) : (flag broken r).Sublist [r] := by
  cases broken with
  | false => exact List.nil_sublist _
  | true => exact List.Sublist.refl _

/-! ## Terminators -/

theorem getLast?_trim_eq_bind (t : Text) :
    (trim t).getLast? = (words t).getLast?.bind List.getLast? := by
  rw [getLast?_trim]
  rcases List.eq_nil_or_concat (words t) with h | ⟨front, w, h⟩
  · rw [h]
    rfl
  · rw [List.concat_eq_append] at h
    have hw : w ≠ [] := ((runs_words t).ne_nil_and_solid w (by simp [h])).1
    obtain ⟨c, hc⟩ := Option.isSome_iff_exists.mp (List.getLast?_isSome.mpr hw)
    simp [h, hc]

theorem mem_terminator (r : Rule) (line raw : Text) :
    r ∈ terminator (trim line) raw ↔
      r = .missingSemicolon ∧ ¬ Rule.missingSemicolon.Obeyed line (words line) := by
  refine mem_flag ?_ r _
  rw [getLast?_trim_eq_bind, Bool.not_eq_true', ← Bool.not_eq_true, not_iff_not]
  simp only [Option.any_eq_true, Option.bind_eq_some_iff, Rule.Obeyed, isTerminator, Option.mem_def,
    Bool.or_eq_true, beq_iff_eq, or_assoc]
  constructor
  · rintro ⟨c, ⟨w, hw, hc⟩, hend⟩
    exact ⟨w, hw, c, hc, hend⟩
  · rintro ⟨w, hw, c, hc, hend⟩
    exact ⟨c, ⟨w, hw, hc⟩, hend⟩

/-! ## Declarations -/

theorem looksLikeDeclaration_iff (w : Text) : looksLikeDeclaration w = true ↔ Declares w := by
  simp [looksLikeDeclaration, declarationSpellings, Declares]

theorem mem_declaration (r : Rule) (line raw : Text) :
    r ∈ declaration (trim line) raw ↔
      (r = .invalidKeyword ∧ ¬ Rule.invalidKeyword.Obeyed line (words line)) ∨
      (r = .missingVariableName ∧ ¬ Rule.missingVariableName.Obeyed line (words line)) := by
  rw [declaration, looksLikeDeclaration_trim, words_trim]
  cases words line with
  | nil => simp [Rule.Obeyed]
  | cons w ws =>
    have hlooks : (w :: ws).head?.any looksLikeDeclaration = true ↔ Declares w :=
      looksLikeDeclaration_iff w
    by_cases hw : Declares w
    · rw [if_pos (hlooks.mpr hw), List.mem_append]
      refine or_congr (mem_flag ?_ r _) (mem_flag ?_ r _)
      · simp [Rule.Obeyed, hw, Vocabulary.declarationKeyword]
      · simp [Rule.Obeyed, hw]
    · rw [if_neg fun h => hw (hlooks.mp h)]
      simp [Rule.Obeyed, hw]

/-! ## Brackets -/

theorem mem_flag_isBalanced (opening closing : Char) (r s : Rule) (line : Text) :
    r ∈ flag (!isBalanced opening closing line) s ↔
      r = s ∧ ¬ line.count opening = line.count closing :=
  mem_flag (by simp [isBalanced]) r s

/-! ## Assignments -/

theorem hasComparison_iff (t : Text) : hasComparison t = true ↔ "==".toList <:+: t := by
  have hmark : "==".toList = ['=', '='] := by decide
  rw [hmark]
  induction t with
  | nil => simp [hasComparison]
  | cons c t ih =>
    rw [hasComparison, List.infix_cons_iff, Bool.or_eq_true]
    refine or_congr ?_ ih
    cases t with
    | nil => simp
    | cons d t =>
      simp only [List.head?_cons, Bool.and_eq_true, beq_iff_eq, Option.some.injEq,
        List.cons_prefix_cons, List.nil_prefix, and_true]
      exact and_congr eq_comm eq_comm

theorem assignmentTarget_eq {before : Text} (after : Text) (h : '=' ∉ before) :
    assignmentTarget (before ++ '=' :: after) = before := by
  have hpass : ∀ c ∈ before, (c != '=') = true := fun c hc => bne_iff_ne.mpr fun e => h (e ▸ hc)
  rw [assignmentTarget, List.takeWhile_append_of_pos hpass, List.takeWhile_cons_of_neg (by simp),
    List.append_nil]

theorem obeyed_invalidAssignment_iff (line : Text) (ws : List Text) :
    Rule.invalidAssignment.Obeyed line ws ↔ ('=' ∈ line → hasComparison line = false →
      (words (assignmentTarget line)).length = 1 ∨ (words (assignmentTarget line)).length = 2) := by
  rw [← Bool.not_eq_true, hasComparison_iff]
  constructor
  · intro h hmem hcompare
    obtain ⟨before, after, hline, hbefore⟩ := List.eq_append_cons_of_mem hmem
    obtain ⟨vs, hruns, hlen⟩ := h before after hline hbefore hcompare
    rwa [hline, assignmentTarget_eq after hbefore, words_of_runs hruns]
  · intro h before after hline hbefore hcompare
    have hlen := h (by simp [hline]) hcompare
    rw [hline, assignmentTarget_eq after hbefore] at hlen
    exact ⟨words before, runs_words before, hlen⟩

theorem mem_assignment (r : Rule) (trimmed line : Text) (ws : List Text) :
    r ∈ assignment trimmed line ↔
      r = .invalidAssignment ∧ ¬ Rule.invalidAssignment.Obeyed line ws := by
  rw [obeyed_invalidAssignment_iff, assignment]
  by_cases hassigns : '=' ∈ line ∧ hasComparison line = false
  · obtain ⟨hmem, hcompare⟩ := hassigns
    rw [if_neg (by simp [hmem, hcompare])]
    refine mem_flag ?_ r _
    simp only [hmem, hcompare, forall_const, isEmpty_trim, words_trim, Bool.or_eq_true,
      List.isEmpty_iff, ← List.length_eq_zero_iff, decide_eq_true_eq]
    omega
  · have hskip : (hasComparison line || !line.contains '=') = true := by
      cases hcompare : hasComparison line with
      | true => rfl
      | false => simpa [hcompare] using hassigns
    rw [if_pos hskip]
    simp only [List.not_mem_nil, false_iff, not_and, not_not]
    exact fun _ hmem hcompare => absurd ⟨hmem, hcompare⟩ hassigns

/-! ## All checks together -/

/-- A statement is charged with exactly the rules that it does not obey. -/
theorem mem_run_iff (r : Rule) (line : Text) :
    r ∈ run (trim line) line ↔ ¬ r.Obeyed line (words line) := by
  simp only [run, all, List.flatMap_cons, List.flatMap_nil, List.append_nil, List.mem_append]
  rw [mem_terminator, mem_declaration, parentheses, mem_flag_isBalanced, braces,
    mem_flag_isBalanced, mem_assignment r _ line (words line)]
  cases r <;> simp [Rule.Obeyed]

theorem run_sublist (trimmed raw : Text) : (run trimmed raw).Sublist Rule.all := by
  have hdeclaration :
      (declaration trimmed raw).Sublist [.invalidKeyword, .missingVariableName] := by
    rw [declaration]
    split
    · exact (flag_sublist _ _).append (flag_sublist _ _)
    · exact List.nil_sublist _
  have hassignment : (assignment trimmed raw).Sublist [.invalidAssignment] := by
    rw [assignment]
    split
    · exact List.nil_sublist _
    · exact flag_sublist _ _
  simp only [run, all, List.flatMap_cons, List.flatMap_nil, List.append_nil]
  exact (flag_sublist _ _).append (hdeclaration.append
    ((flag_sublist _ _).append ((flag_sublist _ _).append hassignment)))

end Check

end ZLang
