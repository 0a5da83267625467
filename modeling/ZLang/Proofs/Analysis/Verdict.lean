import ZLang.Proofs.Analysis.Rules

/-!
The verdict on a whole text. A text has no diagnostics exactly when each of its lines is blank, a
comment, or does what every rule asks. And it has at most five diagnostics to an eligible line,
although there are six rules: a declaration without a name is a line of one word, and left of an
equals sign in that word stands one word too.
-/
set_option autoImplicit false

namespace ZLang

open Text

/-! ## Clean lines -/

/-- A line that is blank, a comment, or obeys all rules. -/
def Clean (line : Text) : Prop := ∃ ws, Runs line ws ∧
  (ws = [] ∨ (∃ w ∈ ws.head?, "//".toList <+: w) ∨ ∀ r : Rule, r.Obeyed line ws)

theorem clean_iff (line : Text) : Clean line ↔
    words line = [] ∨ (∃ w ∈ (words line).head?, "//".toList <+: w) ∨
      ∀ r : Rule, r.Obeyed line (words line) := by
  simp only [Clean, runs_iff, exists_eq_left']

namespace Line

theorem isEligible_iff (l : Line) : l.isEligible = true ↔
    words l.content ≠ [] ∧ ¬ ∃ w ∈ (words l.content).head?, "//".toList <+: w := by
  have hmark : (words l.content).head?.any commentMark.isPrefixOf = true ↔
      ∃ w ∈ (words l.content).head?, "//".toList <+: w := by
    simp only [Option.any_eq_true, List.isPrefixOf_iff_prefix, Option.mem_def, commentMark]
  rw [isEligible, kind_eq, ← hmark]
  cases hws : words l.content with
  | nil => simp
  | cons w ws => by_cases h : commentMark.isPrefixOf w = true <;> simp [h]

theorem brokenRules_eq_nil_iff (l : Line) : l.brokenRules = [] ↔ Clean l.content := by
  have hrun : Check.run l.trimmed l.content = [] ↔
      ∀ r : Rule, r.Obeyed l.content (words l.content) := by
    rw [List.eq_nil_iff_forall_not_mem]
    refine forall_congr' fun r => ?_
    rw [trimmed, Check.mem_run_iff, not_not]
  rw [clean_iff, ← hrun, brokenRules]
  by_cases h : l.isEligible = true
  · obtain ⟨hne, hcomment⟩ := (isEligible_iff l).mp h
    rw [if_pos h]
    simp only [hne, hcomment, false_or]
  · have hskipped : words l.content = [] ∨ ∃ w ∈ (words l.content).head?, "//".toList <+: w := by
      rw [isEligible_iff, not_and_or, not_not, not_not] at h
      exact h
    rw [if_neg h, ← or_assoc]
    simp only [hskipped, true_or]

theorem map_content_ofText (t : Text) : (ofText t).map content = t.splitOn '\n' := by
  rw [ofText, numbered, List.map_map]
  exact List.zipIdx_map_fst 1 _

end Line

/-- The texts without diagnostics are those whose lines are all clean. -/
theorem analyze_eq_nil_iff (t : Text) : analyze t = [] ↔ ∀ line ∈ t.splitOn '\n', Clean line := by
  rw [analyze, List.flatMap_eq_nil_iff, ← Line.map_content_ofText, List.forall_mem_map]
  refine forall₂_congr fun l _ => ?_
  rw [Line.diagnostics, List.map_eq_nil_iff, Line.brokenRules_eq_nil_iff]

/-! ## At most five to a line -/

theorem length_targetWords_of_declares {w : Text} (hw : Declares w) (hsolid : Solid w) :
    (Check.targetWords [w]).length = 1 := by
  rw [Check.targetWords]
  split
  · -- the word is cut at its equals sign, behind the letter with which it starts
    have hfirst : ∃ rest, w = 'L' :: rest := by
      rcases hw with ⟨rest, rfl⟩ | ⟨rest, rfl⟩
      · exact ⟨_, rfl⟩
      · exact ⟨_, rfl⟩
    obtain ⟨rest, rfl⟩ := hfirst
    have hcut : Check.assignmentTarget ('L' :: rest) = 'L' :: Check.assignmentTarget rest :=
      List.takeWhile_cons_of_pos (by decide)
    have hne : Check.assignmentTarget ('L' :: rest) ≠ [] := by
      rw [hcut]
      exact List.cons_ne_nil _ _
    have hpart : Solid (Check.assignmentTarget ('L' :: rest)) :=
      fun c hc => hsolid c ((List.takeWhile_prefix _).subset hc)
    rw [words_solid _ hne hpart]
    rfl
  · rfl

theorem Rule.obeyed_name_or_assignment (line : Text) :
    missingVariableName.Obeyed line (words line) ∨ invalidAssignment.Obeyed line (words line) := by
  by_cases hname : missingVariableName.Obeyed line (words line)
  · exact .inl hname
  · right
    obtain ⟨w, hhead, hw, hlen⟩ : ∃ w, (words line).head? = some w ∧ Declares w ∧
        (words line).length < 2 := by simpa [Rule.Obeyed] using hname
    have hone : words line = [w] := by
      cases hws : words line with
      | nil => simp [hws] at hhead
      | cons v vs =>
        rw [hws, List.length_cons] at hlen
        have hvs : vs = [] := List.length_eq_zero_iff.mp (by omega)
        rw [hws, List.head?_cons, Option.some.injEq] at hhead
        rw [hvs, hhead]
    have hsolid : Solid w := ((runs_words line).ne_nil_and_solid w (by simp [hone])).2
    rw [Check.obeyed_invalidAssignment_iff, Check.words_assignmentTarget, hone,
      length_targetWords_of_declares hw hsolid]
    exact fun _ _ => .inl rfl

theorem Rule.length_le_of_not_mem {rs : List Rule} (h : rs.Sublist all) {r : Rule} (hr : r ∉ rs) :
    rs.length ≤ 5 := by
  have hfive : (all.erase r).length = 5 := by cases r <;> rfl
  have hle := (h.erase r).length_le
  rwa [List.erase_of_not_mem hr, hfive] at hle

namespace Line

theorem brokenRules_sublist (l : Line) : l.brokenRules.Sublist Rule.all := by
  rw [brokenRules]
  split
  · exact Check.run_sublist _ _
  · exact List.nil_sublist _

theorem not_obeyed_of_mem_brokenRules {l : Line} {r : Rule} (h : r ∈ l.brokenRules) :
    ¬ r.Obeyed l.content (words l.content) := by
  rw [brokenRules] at h
  split at h
  · exact (Check.mem_run_iff r l.content).mp h
  · cases h

theorem not_name_and_assignment (l : Line) :
    ¬ (Rule.missingVariableName ∈ l.brokenRules ∧ Rule.invalidAssignment ∈ l.brokenRules) := by
  rintro ⟨hname, hassign⟩
  rcases Rule.obeyed_name_or_assignment l.content with h | h
  · exact not_obeyed_of_mem_brokenRules hname h
  · exact not_obeyed_of_mem_brokenRules hassign h

theorem length_brokenRules_le (l : Line) : l.brokenRules.length ≤ 5 := by
  by_cases hname : Rule.missingVariableName ∈ l.brokenRules
  · have hassign : Rule.invalidAssignment ∉ l.brokenRules :=
      fun h => not_name_and_assignment l ⟨hname, h⟩
    exact Rule.length_le_of_not_mem l.brokenRules_sublist hassign
  · exact Rule.length_le_of_not_mem l.brokenRules_sublist hname

theorem map_rule_diagnostics (l : Line) : l.diagnostics.map Diagnostic.rule = l.brokenRules := by
  rw [diagnostics, List.map_map]
  exact List.map_id _

theorem length_flatMap_diagnostics_le (ls : List Line) :
    (ls.flatMap diagnostics).length ≤ 5 * (ls.filter isEligible).length := by
  induction ls with
  | nil => simp
  | cons l ls ih =>
    rw [List.flatMap_cons, List.length_append, diagnostics, List.length_map]
    by_cases h : l.isEligible = true
    · have hl := length_brokenRules_le l
      rw [List.filter_cons_of_pos h, List.length_cons]
      omega
    · rw [List.filter_cons_of_neg h, brokenRules, if_neg h, List.length_nil]
      omega

end Line

/-- At most five diagnostics to an eligible line: a missing name and an invalid assignment are
never charged together. -/
theorem length_analyze_le (t : Text) :
    (analyze t).length ≤ 5 * (Line.eligible t).length ∧
    ∀ l : Line, ¬ (Rule.missingVariableName ∈ l.diagnostics.map Diagnostic.rule ∧
      Rule.invalidAssignment ∈ l.diagnostics.map Diagnostic.rule) := by
  refine ⟨Line.length_flatMap_diagnostics_le (Line.ofText t), fun l => ?_⟩
  rw [Line.map_rule_diagnostics]
  exact Line.not_name_and_assignment l

-- five are reached; on two texts of which one is not the other trimmed, the checks find all six
example : (analyze "Lett(\x7dx".toList).length = 5 ∧
    Check.run "Lett".toList "=(\x7b".toList = Rule.all := by decide +kernel

end ZLang
