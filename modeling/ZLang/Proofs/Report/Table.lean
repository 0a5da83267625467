import ZLang.Proofs.Analysis.Order
import ZLang.Proofs.Text.Columns
import ZLang.Report

/-!
The report as a table. Every diagnostic has its row, the bar between the two columns stands at one
place in all of them, and the rows can be read back: the digits end before the padding, and the
padding ends at the bar, whatever the description holds. A description may not hold a line feed,
since that would end its row.
-/
set_option autoImplicit false

namespace ZLang.Report.Table

open Text

/-! ## Lines of a table -/

theorem length_body (w : Nat) (ds : List Diagnostic) :
    (body w ds).length = max ds.length 1 := by
  cases ds with
  | nil => rfl
  | cons d ds =>
    rw [body, if_neg (by simp), List.length_map, List.length_cons]
    omega

theorem length_lines (ds : List Diagnostic) : (lines ds).length = max ds.length 1 + 4 := by
  simp only [lines, List.length_cons, List.length_append, length_body, List.length_nil]

theorem getElem?_body {w : Nat} {ds : List Diagnostic} {i : Nat} {d : Diagnostic}
    (h : ds[i]? = some d) : (body w ds)[i]? = some (row w (lineCell d) d.description) := by
  have hne : ds ≠ [] := by
    rintro rfl
    cases h
  rw [body, if_neg (by simpa using hne), List.getElem?_map, h]
  rfl

/-! ## No line feed in a line -/

def OneLine (d : Diagnostic) : Prop := '\n' ∉ d.description

instance (d : Diagnostic) : Decidable (OneLine d) :=
  inferInstanceAs (Decidable ('\n' ∉ d.description))

theorem isDigit_of_mem_toDigits (n : Nat) : ∀ c ∈ Nat.toDigits 10 n, c.isDigit = true :=
  fun _ hc => Nat.isDigit_of_mem_toDigits (by decide) (by decide) hc

theorem newline_not_mem_toDigits (n : Nat) : '\n' ∉ Nat.toDigits 10 n :=
  fun h => absurd (isDigit_of_mem_toDigits n '\n' h) (by decide)

theorem newline_not_mem_row {w : Nat} {left right : Text} (hl : '\n' ∉ left) (hr : '\n' ∉ right) :
    '\n' ∉ row w left right := by
  simp [row, pad, hl, hr]

theorem newline_not_mem_lineCell (d : Diagnostic) : '\n' ∉ lineCell d := by
  intro h
  rcases List.mem_append.mp h with h | h
  · exact absurd h (by decide)
  · exact newline_not_mem_toDigits d.line h

theorem newline_not_mem_countLine (n : Nat) : '\n' ∉ countLine n := by
  unfold countLine
  split
  · decide
  · decide
  · simp [newline_not_mem_toDigits]

theorem newline_not_mem_footer (ds : List Diagnostic) : '\n' ∉ footer ds := by
  have hcount := newline_not_mem_countLine ds.length
  have htexts : ∀ v : Verdict, '\n' ∉ v.title ∧ '\n' ∉ v.message := by
    intro v
    cases v <;> decide
  have hv := htexts (Verdict.ofDiagnostics ds)
  simp [footer, hv.1, hv.2, hcount]

theorem newline_not_mem_body {w : Nat} {ds : List Diagnostic} (h : ∀ d ∈ ds, OneLine d) :
    ∀ line ∈ body w ds, '\n' ∉ line := by
  unfold body
  split
  · decide
  · intro line hline
    obtain ⟨d, hd, rfl⟩ := List.mem_map.mp hline
    exact newline_not_mem_row (newline_not_mem_lineCell d) (h d hd)

theorem newline_not_mem_lines {ds : List Diagnostic} (h : ∀ d ∈ ds, OneLine d) :
    ∀ line ∈ lines ds, '\n' ∉ line := by
  simp only [lines, List.mem_cons, List.mem_append, List.not_mem_nil, or_false]
  rintro line (rfl | rfl | hline | rfl | rfl)
  · exact newline_not_mem_row (by decide) (by decide)
  · simp [rule]
  · exact newline_not_mem_body h line hline
  · exact List.not_mem_nil
  · exact newline_not_mem_footer ds

/-! ## Reading a table -/

/-- What a row shows of a diagnostic. -/
def shown (d : Diagnostic) : Nat × Text := (d.line, d.description)

/-- The number and the description in a row. -/
def readRow? (line : Text) : Option (Nat × Text) :=
  if "Line ".toList.isPrefixOf line then
    let rest := line.drop "Line ".toList.length
    let description := ((rest.dropWhile Char.isDigit).dropWhile (· == ' ')).drop "| ".toList.length
    some (Nat.ofDigitChars 10 (rest.takeWhile Char.isDigit) 0, description)
  else none

/-- The rows below the heading. -/
def read (t : Text) : List (Nat × Text) := ((t.splitOn '\n').drop 2).filterMap readRow?

theorem row_lineCell (w : Nat) (d : Diagnostic) :
    ∃ n, row w (lineCell d) d.description = "Line ".toList ++ (Nat.toDigits 10 d.line ++
      (List.replicate (n + 1) ' ' ++ '|' :: ' ' :: d.description)) := by
  have hspace (n : Nat) (t : Text) :
      List.replicate n ' ' ++ ' ' :: t = List.replicate (n + 1) ' ' ++ t := by
    rw [List.replicate_succ', List.append_assoc, List.singleton_append]
  refine ⟨w - (lineCell d).length, ?_⟩
  calc row w (lineCell d) d.description
    _ = lineCell d ++ List.replicate (w - (lineCell d).length) ' ' ++
          (' ' :: '|' :: ' ' :: d.description) := List.append_assoc _ _ _
    _ = lineCell d ++ (List.replicate (w - (lineCell d).length + 1) ' ' ++
          '|' :: ' ' :: d.description) := by rw [List.append_assoc, hspace]
    _ = _ := List.append_assoc _ _ _

theorem readRow?_row (w : Nat) (d : Diagnostic) :
    readRow? (row w (lineCell d) d.description) = some (shown d) := by
  obtain ⟨n, hn⟩ := row_lineCell w d
  have hdigits := isDigit_of_mem_toDigits d.line
  have hspaces : ∀ c ∈ List.replicate (n + 1) ' ', (c == ' ') = true := by
    intro c hc
    rw [List.eq_of_mem_replicate hc]
    rfl
  -- neither the digits nor the padding run on into what stands behind them
  have htake : (List.replicate (n + 1) ' ' ++ '|' :: ' ' :: d.description).takeWhile Char.isDigit =
      [] := rfl
  have hdrop : (List.replicate (n + 1) ' ' ++ '|' :: ' ' :: d.description).dropWhile Char.isDigit =
      List.replicate (n + 1) ' ' ++ '|' :: ' ' :: d.description := rfl
  rw [hn, readRow?, if_pos (by simp), List.drop_left]
  simp only [List.takeWhile_append_of_pos hdigits, List.dropWhile_append_of_pos hdigits, htake,
    hdrop, List.dropWhile_append_of_pos hspaces, List.append_nil, Nat.ofDigitChars_ten_toDigits]
  rfl

theorem readRow?_footer (ds : List Diagnostic) : readRow? (footer ds) = none := by
  unfold footer
  cases Verdict.ofDiagnostics ds <;> rfl

theorem filterMap_body (w : Nat) (ds : List Diagnostic) :
    (body w ds).filterMap readRow? = ds.map shown := by
  cases ds with
  | nil => rfl
  | cons d ds =>
    rw [body, if_neg (by simp), List.filterMap_map, ← List.filterMap_eq_map]
    refine List.filterMap_congr fun d _ => ?_
    exact readRow?_row w d

theorem read_render {ds : List Diagnostic} (h : ∀ d ∈ ds, OneLine d) :
    read (render ds) = ds.map shown := by
  have hdrop : (lines ds ++ [[]]).drop 2 = body (width ds) ds ++ [[], footer ds, []] := by
    simp [lines]
  have hfoot : [[], footer ds, []].filterMap readRow? = [] := by
    rw [List.filterMap_eq_nil_iff]
    intro line hline
    simp only [List.mem_cons, List.not_mem_nil, or_false] at hline
    rcases hline with rfl | rfl | rfl
    · rfl
    · exact readRow?_footer ds
    · rfl
  rw [read, render, splitOn_ended (newline_not_mem_lines h), hdrop, List.filterMap_append,
    hfoot, List.append_nil, filterMap_body]

theorem shown_eq_of_render_eq {ds es : List Diagnostic} (hds : ∀ d ∈ ds, OneLine d)
    (hes : ∀ e ∈ es, OneLine e) (h : render ds = render es) : ds.map shown = es.map shown := by
  rw [← read_render hds, h, read_render hes]

/-! ## Diagnostics of a text -/

theorem oneLine_of_mem_analyze {t : Text} {d : Diagnostic} (h : d ∈ analyze t) : OneLine d := by
  have hrule : ∀ r : Rule, '\n' ∉ r.description := by
    intro r
    cases r <;> decide
  rw [OneLine, (eligible_of_mem_analyze h).2]
  exact hrule d.rule

theorem find?_description (r : Rule) :
    Rule.all.find? (fun s => s.description == r.description) = some r := by
  cases r <;> decide

theorem rule_eq_of_description_eq {r s : Rule} (h : r.description = s.description) : r = s := by
  have hr := find?_description r
  rw [h, find?_description s] at hr
  exact (Option.some.inj hr).symm

/-- Where descriptions are those of the rules, a row tells the whole diagnostic. -/
theorem eq_of_shown_eq {ds es : List Diagnostic} (hd : ∀ d ∈ ds, d.description = d.rule.description)
    (he : ∀ e ∈ es, e.description = e.rule.description)
    (h : ds.map shown = es.map shown) : ds = es := by
  induction ds generalizing es with
  | nil => exact (List.map_eq_nil_iff.mp h.symm).symm
  | cons d ds ih =>
    cases es with
    | nil => cases h
    | cons e es =>
      simp only [List.map_cons, List.cons.injEq, shown, Prod.mk.injEq] at h
      obtain ⟨⟨hline, hdescription⟩, hrest⟩ := h
      have hrule : d.rule = e.rule := by
        apply rule_eq_of_description_eq
        rw [← hd d List.mem_cons_self, ← he e List.mem_cons_self, hdescription]
      have hhead : d = e := by
        cases d
        cases e
        simp_all
      have htail := ih (fun x hx => hd x (List.mem_cons_of_mem d hx))
        (fun x hx => he x (List.mem_cons_of_mem e hx)) hrest
      rw [hhead, htail]

/-! ## Alignment -/

theorem le_foldl_max (a : Nat) (ns : List Nat) : ∀ n ∈ a :: ns, n ≤ ns.foldl max a := by
  induction ns generalizing a with
  | nil => simp
  | cons m ns ih =>
    have hmax := ih (max a m) (max a m) List.mem_cons_self
    simp only [List.mem_cons, List.foldl_cons]
    rintro n (rfl | rfl | hn)
    · omega
    · omega
    · exact ih (max a m) n (List.mem_cons_of_mem _ hn)

theorem length_lineHeading_le (ds : List Diagnostic) : lineHeading.length ≤ width ds :=
  le_foldl_max _ _ _ List.mem_cons_self

theorem length_lineCell_le {ds : List Diagnostic} {d : Diagnostic} (h : d ∈ ds) :
    (lineCell d).length ≤ width ds :=
  le_foldl_max _ _ _ (List.mem_cons_of_mem _ (List.mem_map_of_mem h))

/-- The cells of a line are whole, and the bar between them stands at byte `k`. -/
def Cells (k : Nat) (left right line : Text) : Prop :=
  ∃ gap, (∀ c ∈ gap, c = ' ') ∧ bytes (left ++ gap) = k ∧
    line = left ++ gap ++ " | ".toList ++ right

theorem utf8Size_lineHeading : ∀ c ∈ lineHeading, c.utf8Size = 1 := by
  have hall : lineHeading.all (·.utf8Size == 1) = true := by decide
  exact fun c hc => eq_of_beq (List.all_eq_true.mp hall c hc)

theorem utf8Size_lineCell (d : Diagnostic) : ∀ c ∈ lineCell d, c.utf8Size = 1 := by
  intro c hc
  rcases List.mem_append.mp hc with hc | hc
  · rcases List.mem_append.mp (show c ∈ lineHeading ++ [' '] from hc) with hc | hc
    · exact utf8Size_lineHeading c hc
    · rw [List.mem_singleton.mp hc]
      rfl
  · have hdigit := isDigit_of_mem_toDigits d.line c hc
    rw [Char.isDigit, Bool.and_eq_true, decide_eq_true_iff, decide_eq_true_iff] at hdigit
    rw [Char.utf8Size_eq_one_iff]
    exact UInt32.le_trans hdigit.2 (by decide)

theorem row_aligned {w : Nat} {left : Text} (right : Text) (hw : left.length ≤ w)
    (hsize : ∀ c ∈ left, c.utf8Size = 1) : Cells w left right (row w left right) := by
  refine ⟨List.replicate (w - left.length) ' ', fun c hc => List.eq_of_mem_replicate hc, ?_, rfl⟩
  rw [bytes_append, bytes_eq_length hsize, bytes_replicate rfl]
  omega

/-- The heading and the rows are cut at one byte, and the rule between them is crossed there. -/
structure Aligned (k : Nat) (ds : List Diagnostic) (ls : List Text) : Prop where
  heading : ∃ line, ls[0]? = some line ∧ Cells k lineHeading descriptionHeading line
  crossing : ∃ a b, ls[1]? = some (a ++ "-+-".toList ++ b) ∧ bytes a = k
  rows : ∀ (i : Nat) (d : Diagnostic), ds[i]? = some d →
    ∃ line, ls[i + 2]? = some line ∧ Cells k (lineCell d) d.description line

theorem aligned_lines (ds : List Diagnostic) : Aligned (width ds) ds (lines ds) where
  heading := ⟨_, rfl, row_aligned _ (length_lineHeading_le ds) utf8Size_lineHeading⟩
  crossing := ⟨List.replicate (width ds) '-', List.replicate descriptionHeading.length '-', rfl,
    bytes_replicate rfl _⟩
  rows i d h := by
    refine ⟨row (width ds) (lineCell d) d.description, ?_,
      row_aligned _ (length_lineCell_le (List.mem_of_getElem? h)) (utf8Size_lineCell d)⟩
    have hbody := getElem?_body (w := width ds) h
    have hi := (List.getElem?_eq_some_iff.mp hbody).1
    rw [lines, List.getElem?_cons_succ, List.getElem?_cons_succ, List.getElem?_append_left hi,
      hbody]

/-! ## The whole table -/

/-- A table shows the line and the description of every diagnostic, in order; for the diagnostics of
a text that is all there is to know. It has a row for each, and the columns of all rows meet at one
byte. -/
theorem table_determines_diagnostics :
    (∀ ds es : List Diagnostic, (∀ d ∈ ds, OneLine d) → (∀ e ∈ es, OneLine e) →
      render ds = render es → ds.map shown = es.map shown) ∧
    (∀ t : Text, ∀ d ∈ analyze t, OneLine d) ∧
    (∀ s t : Text, render (analyze s) = render (analyze t) → analyze s = analyze t) ∧
    ∀ ds : List Diagnostic, (∀ d ∈ ds, OneLine d) →
      ∃ ls, render ds = ended ls ∧ (∀ line ∈ ls, '\n' ∉ line) ∧
        ls.length = max ds.length 1 + 4 ∧ ∃ k, Aligned k ds ls := by
  refine ⟨fun ds es hds hes h => shown_eq_of_render_eq hds hes h,
    fun t d hd => oneLine_of_mem_analyze hd, fun s t h => ?_, fun ds hds => ?_⟩
  · have hshown := shown_eq_of_render_eq (fun d hd => oneLine_of_mem_analyze hd)
      (fun d hd => oneLine_of_mem_analyze hd) h
    exact eq_of_shown_eq (fun d hd => (eligible_of_mem_analyze hd).2)
      (fun d hd => (eligible_of_mem_analyze hd).2) hshown
  · exact ⟨lines ds, rfl, newline_not_mem_lines hds, length_lines ds, width ds,
      aligned_lines ds⟩

/-- Rows that hold a bar or look like rows, for numbers of one digit and of three. -/
theorem table_determines_diagnostics_bars :
    let ds : List Diagnostic := [⟨7, .missingSemicolon, " | Line 8 | ".toList⟩,
      ⟨100, .unmatchedBraces, "No syntax errors detected".toList⟩]
    let es : List Diagnostic := [⟨7, .invalidKeyword, " | Line 8 | ".toList⟩,
      ⟨100, .unmatchedBraces, "No syntax errors detected".toList⟩]
    let s : Text := "OUT x".toList
    let t : Text := "\tOUT  x ".toList
    ((∀ d ∈ ds, OneLine d) ∧ (∀ e ∈ es, OneLine e) ∧ render ds = render es ∧ ds ≠ es ∧
      ds.map shown = es.map shown) ∧
    (⟨1, .missingSemicolon, Rule.missingSemicolon.description⟩ ∈ analyze s ∧
      OneLine ⟨1, .missingSemicolon, Rule.missingSemicolon.description⟩) ∧
    (render (analyze s) = render (analyze t) ∧ analyze s = analyze t) ∧
    ∃ ls, render ds = ended ls ∧ (∀ line ∈ ls, '\n' ∉ line) ∧ ls.length = max ds.length 1 + 4 ∧
      ∃ k, Aligned k ds ls := by
  intro ds es s t
  have hds : ∀ d ∈ ds, OneLine d := by decide +kernel
  have hes : ∀ e ∈ es, OneLine e := by decide +kernel
  have hrender : render ds = render es := by decide +kernel
  have hmem : ⟨1, .missingSemicolon, Rule.missingSemicolon.description⟩ ∈ analyze s := by
    decide +kernel
  have hanalyze : render (analyze s) = render (analyze t) := by decide +kernel
  obtain ⟨hrows, hline, htexts, hlines⟩ := table_determines_diagnostics
  exact ⟨⟨hds, hes, hrender, by decide, hrows ds es hds hes hrender⟩, ⟨hmem, hline s _ hmem⟩,
    ⟨hanalyze, htexts s t hanalyze⟩, hlines ds hds⟩

end ZLang.Report.Table
