import ZLang.Proofs.Analysis.Words
import ZLang.Proofs.Text.Columns
import ZLang.Proofs.Text.Pieces

/-!
The analysis of a text and of its trimmed part. Blanks around a text add blank lines before and
after it and pad its first and its last line; none of this breaks a rule, and the diagnostics move
down by the line feeds in front. Main statement: what is found in an accepted submission is what is
found in the whole text, `leadingLines` further up.
-/
set_option autoImplicit false

namespace ZLang

open Text

/-! ## The diagnostics of numbered pieces -/

/-- The diagnostics of pieces numbered from `n` on. -/
def diagnosticsFrom (n : Nat) (pieces : List Text) : List Diagnostic :=
  (pieces.zipIdx n).flatMap fun p => Line.diagnostics ⟨p.2, p.1⟩

theorem analyze_eq_diagnosticsFrom (t : Text) : analyze t = diagnosticsFrom 1 (t.splitOn '\n') := by
  rw [analyze, Line.ofText, Line.numbered, List.flatMap_map]
  rfl

@[simp] theorem diagnosticsFrom_nil (n : Nat) : diagnosticsFrom n [] = [] := rfl

@[simp] theorem diagnosticsFrom_cons (n : Nat) (piece : Text) (pieces : List Text) :
    diagnosticsFrom n (piece :: pieces) =
      Line.diagnostics ⟨n, piece⟩ ++ diagnosticsFrom (n + 1) pieces := by
  rw [diagnosticsFrom, List.zipIdx_cons, List.flatMap_cons]
  rfl

@[simp] theorem diagnosticsFrom_append (n : Nat) (front back : List Text) :
    diagnosticsFrom n (front ++ back) =
      diagnosticsFrom n front ++ diagnosticsFrom (n + front.length) back := by
  rw [diagnosticsFrom, List.zipIdx_append, List.flatMap_append]
  rfl

theorem diagnosticsFrom_add (n k : Nat) (pieces : List Text) :
    diagnosticsFrom (n + k) pieces = (diagnosticsFrom n pieces).map (Diagnostic.shift k) := by
  induction pieces generalizing n with
  | nil => rfl
  | cons piece pieces ih =>
    have hline : Line.diagnostics ⟨n + k, piece⟩ =
        (Line.diagnostics ⟨n, piece⟩).map (Diagnostic.shift k) :=
      Line.diagnostics_shift k ⟨n, piece⟩
    have hnext : n + k + 1 = n + 1 + k := by omega
    simp [hline, hnext, ih]

/-- Pieces with the same words have the same diagnostics. -/
theorem diagnosticsFrom_congr (n : Nat) (ps qs : List Text) (h : ps.map words = qs.map words) :
    diagnosticsFrom n ps = diagnosticsFrom n qs := by
  induction ps generalizing n qs with
  | nil =>
    have hq : qs = [] := List.map_eq_nil_iff.mp h.symm
    rw [hq]
  | cons p ps ih =>
    cases qs with
    | nil => cases h
    | cons q qs =>
      rw [List.map_cons, List.map_cons, List.cons.injEq] at h
      have hrules : Line.brokenRules ⟨n, p⟩ = Line.brokenRules ⟨n, q⟩ :=
        Line.brokenRules_congr h.1
      simp [Line.diagnostics, hrules, ih (n + 1) qs h.2]

theorem diagnosticsFrom_blanks (n : Nat) (pieces : List Text) (h : ∀ p ∈ pieces, Blanks p) :
    diagnosticsFrom n pieces = [] := by
  induction pieces generalizing n with
  | nil => rfl
  | cons p pieces ih =>
    have hp : Line.brokenRules ⟨n, p⟩ = [] :=
      Line.brokenRules_of_words_eq_nil (words_blanks p (h p List.mem_cons_self))
    simp [Line.diagnostics, hp, ih (n + 1) fun q hq => h q (List.mem_cons_of_mem p hq)]

theorem le_line_of_mem_diagnosticsFrom (n : Nat) (pieces : List Text) (d : Diagnostic)
    (h : d ∈ diagnosticsFrom n pieces) : n ≤ d.line := by
  obtain ⟨p, hp, hd⟩ := List.mem_flatMap.mp h
  obtain ⟨r, -, rfl⟩ := List.mem_map.mp hd
  exact (List.mem_zipIdx_iff_le_and_getElem?_sub.mp hp).1

/-! ## Blanks around a text -/

theorem blanks_of_mem_splitOn {b p : Text} (hb : Blanks b) (hp : p ∈ b.splitOn '\n') : Blanks p :=
  fun c hc => hb c (mem_of_mem_splitOn '\n' b p hp c hc)

theorem analyze_blanks_append (a t : Text) (ha : Blanks a) :
    analyze (a ++ t) = (analyze t).map (Diagnostic.shift (a.count '\n')) := by
  obtain ⟨front, last, first, back, hsa, hst, hsat⟩ := splitOn_append '\n' a t
  have hfront : ∀ p ∈ front, Blanks p := fun p hp =>
    blanks_of_mem_splitOn ha (by rw [hsa]; exact List.mem_append_left _ hp)
  have hlast : Blanks last :=
    blanks_of_mem_splitOn ha (by rw [hsa]; exact List.mem_append_right _ List.mem_cons_self)
  have hcount : front.length = a.count '\n' := length_front_of_splitOn hsa
  have hseam : ((last ++ first) :: back).map words = (first :: back).map words := by
    simp [words_blanks_append last first hlast]
  rw [analyze_eq_diagnosticsFrom, analyze_eq_diagnosticsFrom, hsat, hst, diagnosticsFrom_append,
    diagnosticsFrom_blanks 1 front hfront, List.nil_append, diagnosticsFrom_congr _ _ _ hseam,
    hcount, diagnosticsFrom_add]

theorem analyze_append_blanks (t b : Text) (hb : Blanks b) : analyze (t ++ b) = analyze t := by
  obtain ⟨front, last, first, back, hst, hsb, hstb⟩ := splitOn_append '\n' t b
  have hfirst : Blanks first :=
    blanks_of_mem_splitOn hb (by rw [hsb]; exact List.mem_cons_self)
  have hback : ∀ p ∈ back, Blanks p := fun p hp =>
    blanks_of_mem_splitOn hb (by rw [hsb]; exact List.mem_cons_of_mem _ hp)
  have hseam : [last ++ first].map words = [last].map words := by
    simp [words_append_blanks last first hfirst]
  rw [analyze_eq_diagnosticsFrom, analyze_eq_diagnosticsFrom, hstb, hst, diagnosticsFrom_append,
    diagnosticsFrom_append, ← List.singleton_append, diagnosticsFrom_append,
    diagnosticsFrom_blanks _ back hback, List.append_nil, diagnosticsFrom_congr _ _ _ hseam]

theorem analyze_blanks (t : Text) (h : Blanks t) : analyze t = [] := by
  rw [analyze_eq_diagnosticsFrom]
  exact diagnosticsFrom_blanks 1 _ fun p hp => blanks_of_mem_splitOn h hp

/-- The bytes that are cut off in front are whole characters: the blanks the text starts with. -/
theorem Submission.slice?_leadingBytes (t : Text) :
    slice? t 0 (leadingBytes t) = some (t.takeWhile isBlank) := by
  refine (slice?_zero_eq_some_iff t _ _).mpr ⟨List.takeWhile_prefix _, ?_⟩
  have hbytes := congrArg bytes (List.takeWhile_append_dropWhile (p := isBlank) (l := t))
  grind [leadingBytes, trimStart]

theorem Submission.leadingLines_eq (t : Text) :
    leadingLines t = (t.takeWhile isBlank).count '\n' := by
  rw [leadingLines, slice?_leadingBytes, Option.getD_some]

theorem analyze_trim (t : Text) :
    analyze t = (analyze (trim t)).map (Diagnostic.shift (Submission.leadingLines t)) := by
  have h : analyze (t.takeWhile isBlank ++ trim t ++ trailing t) = analyze t := by rw [trim_eq]
  rw [analyze_append_blanks _ _ (blanks_trailing t),
    analyze_blanks_append _ _ (blanks_takeWhile t), ← Submission.leadingLines_eq] at h
  exact h.symm

/-! ## Submissions -/

namespace Submission

theorem accept_eq_ok_iff (t code : Text) : accept t = .ok code ↔ ¬ Blanks t ∧ code = trim t := by
  rw [accept, ← trim_eq_nil_iff]
  cases h : trim t with
  | nil => simp
  | cons c r => simp [eq_comm]

theorem accept_eq_error_iff (t : Text) (e : Refusal) : accept t = .error e ↔ Blanks t := by
  rw [accept, ← trim_eq_nil_iff]
  cases h : trim t with
  | nil => cases e; simp
  | cons c r => simp

/-- Trimming loses, adds and reorders no diagnostic. -/
theorem analyze_of_accept (t : Text) :
    (∀ code, accept t = .ok code →
      analyze t = (analyze code).map (Diagnostic.shift (leadingLines t))) ∧
    (accept t = .error .noCode → analyze t = []) := by
  constructor
  · intro code h
    rw [((accept_eq_ok_iff t code).mp h).2]
    exact analyze_trim t
  · intro h
    exact analyze_blanks t ((accept_eq_error_iff t _).mp h)

/-- A text cut at both ends of its one line of code, with two faults in it, and a text of blanks. -/
theorem analyze_of_accept_padded :
    let t := "\ufeff\n\u2028\r\n \tlett (x = 5 \u0085\n".toList
    let blank := "\ufeff\r\n\u2028".toList
    (accept t = .ok "lett (x = 5".toList ∧ leadingLines t = 2 ∧
      analyze t = (analyze "lett (x = 5".toList).map (Diagnostic.shift 2) ∧
      analyze t = [.ofRule 3 .missingSemicolon, .ofRule 3 .unmatchedParentheses]) ∧
    accept blank = .error .noCode ∧ analyze blank = [] := by
  intro t blank
  have haccept : accept t = .ok "lett (x = 5".toList := by decide +kernel
  have hlines : leadingLines t = 2 := by decide +kernel
  have hcode : analyze "lett (x = 5".toList =
      [.ofRule 1 .missingSemicolon, .ofRule 1 .unmatchedParentheses] := by decide +kernel
  have hblank : accept blank = .error .noCode := by decide +kernel
  have hshift : analyze t = (analyze "lett (x = 5".toList).map (Diagnostic.shift 2) := by
    rw [(analyze_of_accept t).1 _ haccept, hlines]
  refine ⟨⟨haccept, hlines, hshift, ?_⟩, hblank, (analyze_of_accept blank).2 hblank⟩
  rw [hshift, hcode]
  rfl

end Submission

end ZLang
