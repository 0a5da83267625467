import ZLang.Program
import ZLang.Proofs.Analysis.Trimming

/-!
The exit status of a check. It is told by the whole text, although only the trimmed part of it is
analysed: 2 when the text is blank, else 1 when the text has diagnostics and 0 when it has none. The
settings have no part in it, and blanks around the text change nothing of what a check leaves
behind.
-/
set_option autoImplicit false

namespace ZLang

open Text

/-! ## Submissions -/

theorem Submission.accept_padded (a t b : Text) (ha : Blanks a) (hb : Blanks b) :
    accept (a ++ t ++ b) = accept t := by
  rw [accept, accept, trim_padded a t b ha hb]

theorem Submission.analyze_eq_nil_of_accept {t code : Text} (h : accept t = .ok code) :
    analyze code = [] ↔ analyze t = [] := by
  rw [((accept_eq_ok_iff t code).mp h).2, analyze_trim t, List.map_eq_nil_iff]

namespace Program.Checker

/-! ## What a check leaves behind -/

/-- A check knows of its text only what is accepted of it. -/
theorem check_congr (filter : Log.Filter) (s : Settings) {t u : Text}
    (h : Submission.accept t = Submission.accept u) : check filter s t = check filter s u := by
  have hreport : report s t = report s u := by rw [report, report, h]
  have hrecords : reportRecords t = reportRecords u := by rw [reportRecords, reportRecords, h]
  rw [check, check, hreport, hrecords]

theorem status_check (filter : Log.Filter) (s : Settings) (t : Text) :
    (check filter s t).status = if Blanks t then 2 else if analyze t = [] then 0 else 1 := by
  change (report s t).status = _
  rw [report]
  cases h : Submission.accept t with
  | error e =>
    have hblank := (Submission.accept_eq_error_iff t e).mp h
    rw [if_pos hblank]
  | ok code =>
    have hcode := ((Submission.accept_eq_ok_iff t code).mp h).1
    have hclean := Submission.analyze_eq_nil_of_accept h
    simp only [if_neg hcode, List.isEmpty_iff, hclean]

theorem stdout_check_blanks (filter : Log.Filter) (s : Settings) {t : Text} (h : Blanks t) :
    (check filter s t).stdout = [] := by
  have haccept : Submission.accept t = .error .noCode :=
    (Submission.accept_eq_error_iff t _).mpr h
  change (report s t).stdout = []
  rw [report, haccept]

/-! ## Runs -/

/-- A run whose settings are loaded and whose text is read is a check with the log opened. -/
theorem runGiven_of_ok {w : World} {given : Arguments.Given} {s : Settings} {t : Text}
    (hs : settings Settings.File.parse w.files w.place given = .ok s)
    (ht : source w given.file = .ok t) :
    runGiven w given =
      { check (logFilter w given).1 s t with
        stderr := opening w given ++ (check (logFilter w given).1 s t).stderr } := by
  rw [runGiven, hs, ht]

/-- The status of a check is told by the text, whatever the settings are, and blanks around the text
change nothing at all; every run that gets to its text is such a check. -/
theorem check_status (filter : Log.Filter) (s : Settings) (t : Text) :
    ((check filter s t).status = 2 ∧ (check filter s t).stdout = [] ↔ Blanks t) ∧
    (¬ Blanks t → ((check filter s t).status = 1 ↔ analyze t ≠ []) ∧
      ((check filter s t).status = 0 ↔ analyze t = [])) ∧
    (∀ (filter' : Log.Filter) (s' : Settings),
      (check filter' s' t).status = (check filter s t).status) ∧
    (∀ a b : Text, Blanks a → Blanks b → check filter s (a ++ t ++ b) = check filter s t) ∧
    (∀ (w : World) (given : Arguments.Given),
      settings Settings.File.parse w.files w.place given = .ok s → source w given.file = .ok t →
      runGiven w given =
        { check (logFilter w given).1 s t with
          stderr := opening w given ++ (check (logFilter w given).1 s t).stderr }) := by
  have hstatus := status_check filter s t
  refine ⟨?_, ?_, ?_, ?_, ?_⟩
  · constructor
    · rintro ⟨htwo, -⟩
      by_contra hblank
      rw [hstatus, if_neg hblank] at htwo
      split at htwo <;> omega
    · intro hblank
      exact ⟨by rw [hstatus, if_pos hblank], stdout_check_blanks filter s hblank⟩
  · intro hblank
    rw [hstatus, if_neg hblank]
    by_cases hclean : analyze t = []
    · simp [hclean]
    · simp [hclean]
  · intro filter' s'
    rw [hstatus, status_check filter' s' t]
  · intro a b ha hb
    exact check_congr filter s (Submission.accept_padded a t b ha hb)
  · intro w given hs ht
    exact runGiven_of_ok hs ht

/-- A run without settings files on a faulty text from standard input, with all records logged; and
the text between blanks, among them a byte order mark and line feeds. -/
theorem check_status_padded :
    let a := "\ufeff\n \r\n\t".toList
    let t := "LETT x = 5".toList
    let b := " \u0085\n".toList
    let given : Arguments.Given := ⟨none, none, false, none, none⟩
    let w : World := ⟨⟨fun _ => .absent⟩, ⟨"/work".toList, none⟩, "LETT x = 5".toUTF8,
      some "trace".toList⟩
    let filter : Log.Filter := (logFilter w given).1
    ¬ Blanks t ∧ Blanks a ∧ Blanks b ∧
    settings Settings.File.parse w.files w.place given = .ok Settings.standard ∧
    source w given.file = .ok t ∧
    (check filter Settings.standard t).status = 1 ∧
    check filter Settings.standard (a ++ t ++ b) = check filter Settings.standard t ∧
    (runGiven w given).status = 1 := by
  intro a t b given w filter
  have hcode : ¬ Blanks t := by decide
  have ha : Blanks a := by decide
  have hb : Blanks b := by decide
  have hs : settings Settings.File.parse w.files w.place given = .ok Settings.standard := rfl
  have ht : source w given.file = .ok t := (FileSystem.decode_eq_ok_iff _ t).mpr (by decide)
  have hfaulty : analyze t ≠ [] := by decide +kernel
  obtain ⟨-, hstatus, -, hpad, hrun⟩ := check_status filter Settings.standard t
  have hone := (hstatus hcode).1.mpr hfaulty
  refine ⟨hcode, ha, hb, hs, ht, hone, hpad a b ha hb, ?_⟩
  rw [hrun w given hs ht]
  exact hone

end Program.Checker

end ZLang
