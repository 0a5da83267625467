import Mathlib.Algebra.Group.Nat.Defs
import ZLang.Proofs.Analysis.Order
import ZLang.Proofs.Document.Offsets
import ZLang.Proofs.Session.Publication
import ZLang.Proofs.Session.Step
import ZLang.Session.Wire

/-!
The ranges of published diagnostics, read back. The end of a range is counted in units on the way
out, and a column is turned into a byte on the way in, by another count. Where neither row nor
column is cut to 32 bits the two agree: row and columns of a range select a line of the document
without the carriage returns at its end, and that line is a statement, so the range is not empty.
-/
set_option autoImplicit false

namespace ZLang

open Text

/-! ## The size of a line and of its document -/

namespace Text

theorem charUnits_newline : charUnits '\n' = 1 := rfl

/-- The units of a text are those of its lines and one for each line feed. -/
theorem units_eq_flatten_splitOn (t : Text) :
    units t = units (t.splitOn '\n').flatten + t.count '\n' := by
  induction t with
  | nil => rfl
  | cons c t ih =>
    rw [List.splitOn_cons_eq_if_modifyHead, List.count_cons, units_cons, ih]
    by_cases h : (c == '\n') = true
    · have hc : charUnits c = 1 := by rw [eq_of_beq h, charUnits_newline]
      simp only [h, if_true, List.flatten_cons, List.nil_append, hc]
      omega
    · obtain ⟨first, back, hs⟩ := List.exists_cons_of_ne_nil (List.splitOn_ne_nil '\n' t)
      simp [h, hs, Nat.add_assoc]

theorem units_le_flatten {pieces : List Text} {piece : Text} (h : piece ∈ pieces) :
    units piece ≤ units pieces.flatten := by
  obtain ⟨before, after, rfl⟩ := List.append_of_mem h
  simp only [List.flatten_append, List.flatten_cons, units_append]
  omega

section Line

variable {t line : Text} {i : Nat}

theorem units_line_le (h : t.line? i = some line) : units line ≤ units t := by
  have hmem : line ∈ t.splitOn '\n' := List.mem_of_getElem? h
  have hflatten := units_le_flatten hmem
  have hunits := units_eq_flatten_splitOn t
  omega

theorem row_le_units (h : t.line? i = some line) : i ≤ units t := by
  obtain ⟨hlt, -⟩ := List.getElem?_eq_some_iff.mp h
  have hlen := length_splitOn '\n' t
  have hunits := units_eq_flatten_splitOn t
  omega

end Line

end Text

/-! ## A line without its carriage returns -/

namespace Marker

theorem withoutReturns_append (line : Text) :
    ∃ returns, line = withoutReturns line ++ returns ∧ ∀ c ∈ returns, c = '\r' := by
  refine ⟨(line.reverse.takeWhile (· == '\r')).reverse, ?_, ?_⟩
  · unfold withoutReturns
    rw [← List.reverse_append, List.takeWhile_append_dropWhile, List.reverse_reverse]
  · intro c hc
    have hall := List.all_takeWhile (p := (· == '\r')) (l := line.reverse)
    exact eq_of_beq (List.all_eq_true.mp hall c (List.mem_reverse.mp hc))

theorem units_withoutReturns_le (line : Text) : units (withoutReturns line) ≤ units line := by
  obtain ⟨returns, hline, -⟩ := withoutReturns_append line
  have h := congrArg units hline
  grind

/-- A statement is more than carriage returns. -/
theorem units_withoutReturns_pos {l : Line} (h : l.isEligible = true) :
    0 < units (withoutReturns l.content) := by
  have hne : withoutReturns l.content ≠ [] := by
    intro hnil
    obtain ⟨returns, hline, hreturns⟩ := withoutReturns_append l.content
    rw [hnil, List.nil_append] at hline
    have hblanks : Blanks l.content := by
      intro c hc
      rw [hline] at hc
      rw [hreturns c hc]
      decide
    exact ((Line.isEligible_iff l).mp h).1 (words_blanks _ hblanks)
  obtain ⟨c, r, hcons⟩ := List.exists_cons_of_ne_nil hne
  have hc := charUnits_pos c
  grind

/-- The column behind the last character that is no carriage return. -/
theorem takeUnits_withoutReturns (line : Text) :
    takeUnits (units (withoutReturns line)) line = withoutReturns line := by
  obtain ⟨returns, hline, -⟩ := withoutReturns_append line
  have h := takeUnits_units_append (withoutReturns line) returns
  rwa [← hline] at h

/-! ## Ranges -/

/-- Columns 0 to `stop` of a row, read back, are a whole statement without the carriage returns at
its end. -/
structure Selects (document : Text) (row stop : Nat) (line : Text) : Prop where
  line_eq : document.line? row = some line
  eligible : Line.isEligible ⟨row + 1, line⟩ = true
  nonempty : 0 < stop
  byte_zero : byteOffset line 0 = 0
  byte_stop : byteOffset line stop = bytes (withoutReturns line)
  slice_eq : slice? line (byteOffset line 0) (byteOffset line stop) = some (withoutReturns line)

theorem selects_line {document line : Text} {row : Nat} (hline : document.line? row = some line)
    (helig : Line.isEligible ⟨row + 1, line⟩ = true) :
    Selects document row (units (withoutReturns line)) line := by
  have hzero : byteOffset line 0 = 0 := byteOffset_zero line
  have hstop : byteOffset line (units (withoutReturns line)) = bytes (withoutReturns line) := by
    unfold byteOffset
    rw [takeUnits_withoutReturns]
  refine ⟨hline, helig, units_withoutReturns_pos helig, hzero, hstop, ?_⟩
  obtain ⟨returns, hsplit, -⟩ := withoutReturns_append line
  rw [hzero, hstop, slice?_eq_some_iff]
  exact ⟨[], returns, hsplit, rfl, rfl⟩

/-- Below `bound` nothing of row and column is cut off. -/
theorem selects_of_mem_ofDocument {document : Text} (hsize : units document < bound) {m : Marker}
    (hm : m ∈ ofDocument document) :
    ∃ line, Selects document m.line m.stop line ∧
      m.rule ∈ Line.brokenRules ⟨m.line + 1, line⟩ := by
  rw [ofDocument_eq_ofLines] at hm
  obtain ⟨⟨line, i⟩, hp, hm⟩ := List.mem_flatMap.mp hm
  obtain ⟨d, hd, rfl⟩ := List.mem_map.mp hm
  have hline : document.line? i = some line := List.mem_zipIdx_iff_getElem?.mp hp
  have helig : Line.isEligible ⟨i + 1, line⟩ = true := Line.isEligible_of_mem_diagnostics hd
  obtain ⟨r, hr, rfl⟩ := List.mem_map.mp hd
  have hrow : i % bound = i := by
    have h := row_le_units hline
    exact Nat.mod_eq_of_lt (by omega)
  have hstop : units (withoutReturns line) % bound = units (withoutReturns line) := by
    have h1 := units_withoutReturns_le line
    have h2 := units_line_le hline
    exact Nat.mod_eq_of_lt (by omega)
  refine ⟨line, ?_, ?_⟩
  · simp only [hrow, hstop]
    exact selects_line hline helig
  · simp only [hrow]
    exact hr

end Marker

namespace Session

/-- What is published with markers is the document in the store. -/
theorem document_of_publish {readUri : UriReader} {s : Session} {msg : Message} {uri : Uri}
    {markers : List Marker} {version : Option Int}
    (h : .publish uri markers version ∈ (s.step readUri msg).2.sent)
    (hne : markers ≠ []) :
    ∃ d, (s.step readUri msg).1.store.get? uri = some d ∧ markers = Marker.ofDocument d.content ∧
      version = some d.version := by
  have hmem : Notice.publish uri markers version ∈ (s.step readUri msg).2.publications :=
    List.mem_filter.mpr ⟨h, rfl⟩
  rw [step_publications] at hmem
  obtain ⟨x, hx, hnotice⟩ := List.mem_map.mp hmem
  have hupdate : msg.update? readUri s.phase = some x := Option.mem_toList.mp hx
  obtain ⟨u, document⟩ := x
  cases document with
  | none =>
    unfold Update.notice at hnotice
    cases hnotice
    exact absurd rfl hne
  | some d =>
    unfold Update.notice at hnotice
    cases hnotice
    refine ⟨d, ?_, rfl, rfl⟩
    simp [step_session, hupdate]

/-- The range of a diagnostic, read back through columns and bytes, is a whole statement of its
document. Each diagnostic that a server publishes has such a range in the document it then holds. -/
theorem published_range_selects_line :
    (∀ document : Text, units document < 2 ^ 32 → ∀ m ∈ Marker.ofDocument document,
      ∃ line, Marker.Selects document m.line m.stop line ∧
        m.rule ∈ Line.brokenRules ⟨m.line + 1, line⟩) ∧
    (∀ (readUri : UriReader) (s : Session) (msg : Message) (uri : Uri) (markers : List Marker)
      (version : Option Int),
      .publish uri markers version ∈ (s.step readUri msg).2.sent → ∀ m ∈ markers,
      ∃ d, (s.step readUri msg).1.store.get? uri = some d ∧ version = some d.version ∧
        (Wire.ofMarker m).get? "range".toList =
          some (Wire.object [("end", Wire.ofPosition m.line m.stop),
            ("start", Wire.ofPosition m.line 0)]) ∧
        (units d.content < 2 ^ 32 → ∃ line, Marker.Selects d.content m.line m.stop line)) := by
  have hbound : (2 : Nat) ^ 32 = Marker.bound := by decide
  rw [hbound]
  constructor
  · intro document hsize m hm
    exact Marker.selects_of_mem_ofDocument hsize hm
  · intro readUri s msg uri markers version hsent m hm
    obtain ⟨d, hd, hmarkers, hversion⟩ := document_of_publish hsent (List.ne_nil_of_mem hm)
    refine ⟨d, hd, hversion, ?_, ?_⟩
    · have hnames : ["code", "message", "range", "severity", "source"].Nodup := by decide
      exact Wire.get?_object hnames 2 rfl
    · intro hsize
      rw [hmarkers] at hm
      obtain ⟨line, hselects, -⟩ := Marker.selects_of_mem_ofDocument hsize hm
      exact ⟨line, hselects⟩

/-- A statement behind blanks, with a character of two units and two carriage returns. -/
theorem published_range_selects_line_returns :
    let document : Text := "\ufeff\n\u2028 🎉é(x\r\r\n".toList
    let uri : Uri := ⟨"file:///w/a.z".toList⟩
    let msg : Message := ⟨none, "textDocument/didOpen".toList,
      some (Wire.object [("textDocument", Wire.object [("languageId", Wire.string "zlang"),
        ("text", .string document), ("uri", Wire.string "file:///w/./a.z"),
        ("version", .ofNat 1)])])⟩
    let s : Session := ⟨.initialized, .empty⟩
    let m : Marker := ⟨1, 7, .unmatchedParentheses, "Unmatched parentheses".toList⟩
    (units document < 2 ^ 32 ∧ m ∈ Marker.ofDocument document ∧
      ∃ line, Marker.Selects document 1 7 line) ∧
    .publish uri (Marker.ofDocument document) (some 1) ∈ (s.step Uri.parse msg).2.sent ∧
      ∃ d, (s.step Uri.parse msg).1.store.get? uri = some d ∧ some 1 = some d.version := by
  intro document uri msg s m
  have hsize : units document < 2 ^ 32 := by decide
  have hm : m ∈ Marker.ofDocument document := by decide +kernel
  have hsent : .publish uri (Marker.ofDocument document) (some 1) ∈
      (s.step Uri.parse msg).2.sent := by decide +kernel
  obtain ⟨line, hselects, -⟩ := published_range_selects_line.1 document hsize m hm
  obtain ⟨d, hd, hversion, -, -⟩ :=
    published_range_selects_line.2 Uri.parse s msg uri _ _ hsent m hm
  exact ⟨⟨hsize, hm, line, hselects⟩, hsent, d, hd, hversion⟩

end Session

end ZLang
