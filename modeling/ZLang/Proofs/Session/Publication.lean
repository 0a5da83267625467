import Mathlib.Algebra.Group.Nat.Defs
import Mathlib.Data.List.Basic
import ZLang.Proofs.Analysis.Trimming
import ZLang.Session.Wire

/-!
What the editor is sent when a document gets a new text: one notice with the document's version and
the diagnostics of its lines. Markers are made from the trimmed text and an offset;
`ofDocument_eq_ofLines` says that they are those of the document's own lines, each found by the
analysis of that line alone and spanning it.
-/
set_option autoImplicit false

namespace ZLang

open Text

namespace Marker

/-- The markers of line `i` of a document, counted from 0. -/
def ofLine (i : Nat) (line : Text) : List Marker :=
  (Line.diagnostics ⟨i + 1, line⟩).map fun d =>
    ⟨i % bound, units (withoutReturns line) % bound, d.rule, d.rule.description⟩

/-- The markers of all lines of a document, none of them trimmed. -/
def ofLines (document : Text) : List Marker :=
  (document.splitOn '\n').zipIdx.flatMap fun p => ofLine p.2 p.1

/-! ## Two ways to count lines -/

/-- A line of the trimmed text, counted from 1, and the offset give the line of the document. -/
theorem ofDiagnostic_shift (document : Text) (k : Nat) (d : Diagnostic) (h : 1 ≤ d.line) :
    ofDiagnostic document 0 (d.shift k) = ofDiagnostic document k d := by
  have hline : (d.shift k).line - 1 + 0 = d.line - 1 + k := by
    change d.line + k - 1 + 0 = d.line - 1 + k
    omega
  rw [ofDiagnostic, ofDiagnostic, hline]
  rfl

theorem ofDocument_eq_map_analyze (document : Text) :
    ofDocument document = (analyze document).map (ofDiagnostic document 0) := by
  rw [ofDocument]
  cases h : Submission.accept document with
  | error e =>
    rw [analyze_blanks document ((Submission.accept_eq_error_iff document e).mp h)]
    rfl
  | ok code =>
    rw [((Submission.accept_eq_ok_iff document code).mp h).2, analyze_trim document, List.map_map]
    refine List.map_congr_left fun d hd => ?_
    rw [analyze_eq_diagnosticsFrom] at hd
    exact (ofDiagnostic_shift document _ d (le_line_of_mem_diagnosticsFrom 1 _ d hd)).symm

theorem ofDocument_blanks (document : Text) (h : Blanks document) : ofDocument document = [] := by
  rw [ofDocument_eq_map_analyze, analyze_blanks document h]
  rfl

/-! ## One line -/

theorem width_of_line (document line : Text) (i : Nat) (h : document.line? i = some line) :
    width document i = units (withoutReturns line) := by
  rw [width, h]

theorem map_diagnostics_line (document line : Text) (i : Nat) (h : document.line? i = some line) :
    (Line.diagnostics ⟨i + 1, line⟩).map (ofDiagnostic document 0) = ofLine i line := by
  rw [ofLine, Line.diagnostics, List.map_map, List.map_map]
  refine List.map_congr_left fun r _ => ?_
  simp only [Function.comp_apply, ofDiagnostic, Diagnostic.ofRule, Nat.add_sub_cancel, Nat.add_zero,
    width_of_line document line i h]

/-- The trimmed text and its offset give the markers of the document's own lines. -/
theorem ofDocument_eq_ofLines (document : Text) : ofDocument document = ofLines document := by
  rw [ofDocument_eq_map_analyze, analyze_eq_diagnosticsFrom, diagnosticsFrom, List.map_flatMap,
    List.zipIdx_succ, List.flatMap_map]
  refine List.flatMap_congr fun p hp => ?_
  exact map_diagnostics_line document p.1 p.2 (List.mem_zipIdx_iff_getElem?.mp hp)

end Marker

end ZLang

namespace ZLang.Session

open ZLang.Json (Value)
open Text

namespace Wire

/-- The diagnostics of line `i` of a document, counted from 0, on the wire. -/
def ofLine (i : Nat) (line : Text) : List Value :=
  let row := i % 2 ^ 32
  let stop := units (Marker.withoutReturns line) % 2 ^ 32
  (Line.brokenRules ⟨i + 1, line⟩).map fun r =>
    object [("code", .string r.code), ("message", .string r.description),
      ("range", object [("end", ofPosition row stop), ("start", ofPosition row 0)]),
      ("severity", .ofNat 1), ("source", string "zlang")]

theorem map_ofMarker_ofLine (i : Nat) (line : Text) :
    (Marker.ofLine i line).map ofMarker = ofLine i line := by
  rw [Marker.ofLine, Line.diagnostics, List.map_map, List.map_map]
  rfl

theorem map_ofMarker_ofDocument (document : Text) :
    (Marker.ofDocument document).map ofMarker =
      (document.splitOn '\n').zipIdx.flatMap fun p => ofLine p.2 p.1 := by
  rw [Marker.ofDocument_eq_ofLines, Marker.ofLines, List.map_flatMap]
  exact List.flatMap_congr fun p _ => map_ofMarker_ofLine p.2 p.1

end Wire

/-- A new text is kept and one notice is sent: the version, and what each line of the untrimmed text
breaks, in order. A document of blanks has nothing to complain of. Whatever else is open, what is
published for a URI is told by its own document, and nothing is when there is none. -/
theorem keep_publishes_lines (s : Store) (uri : Uri) (d : Document) :
    (keep s uri d).1.get? uri = some d ∧
    (keep s uri d).2.sent.map Wire.noticeBody =
      [Wire.object [("jsonrpc", Wire.string "2.0"),
        ("method", Wire.string "textDocument/publishDiagnostics"),
        ("params", Wire.object [
          ("diagnostics",
            .array ((d.content.splitOn '\n').zipIdx.flatMap fun p => Wire.ofLine p.2 p.1)),
          ("uri", .string uri.text), ("version", .ofInt d.version)])]] ∧
    (Blanks d.content → (keep s uri d).2.sent = [.publish uri [] (some d.version)]) ∧
    (∀ s' : Store, s'.get? uri = some d → publish s' uri = (keep s uri d).2.sent) ∧
    ∀ s' : Store, s'.get? uri = none → publish s' uri = [] := by
  refine ⟨?_, ?_, ?_, ?_, fun s' h => publish_of_get?_eq_none h⟩
  · simp [keep]
  · rw [← Wire.map_ofMarker_ofDocument, keep_sent]
    rfl
  · intro h
    rw [keep_sent, Marker.ofDocument_blanks d.content h]
  · intro s' h
    rw [keep_sent, publish_of_get? h]

theorem keep_publishes_lines_blank :
    let uri : Uri := ⟨"file:///a.z".toList⟩
    let d : Document := ⟨"\ufeff \r\n\u2028\t\n".toList, -3⟩
    let s : Store := (Store.empty.insert uri d).insert ⟨"file:///b.z".toList⟩ ⟨"(".toList, 1⟩
    (Blanks d.content ∧ (keep .empty uri d).2.sent = [.publish uri [] (some (-3))]) ∧
    (s.get? uri = some d ∧ publish s uri = [.publish uri [] (some (-3))]) ∧
    (Store.empty.get? uri = none ∧ publish .empty uri = []) := by
  intro uri d s
  have hblank : Blanks d.content := by decide
  have hopen : s.get? uri = some d := by decide
  obtain ⟨-, -, hblanks, hsame, hclosed⟩ := keep_publishes_lines .empty uri d
  exact ⟨⟨hblank, hblanks hblank⟩, ⟨hopen, (hsame s hopen).trans (hblanks hblank)⟩, rfl,
    hclosed .empty rfl⟩

end ZLang.Session
