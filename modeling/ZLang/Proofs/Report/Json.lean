import Mathlib.Data.List.Forall2
import ZLang.Proofs.Json.Squeezing
import ZLang.Report

/-!
The report as JSON says what the diagnostics are: whatever the texts of the descriptions, the
report is a JSON text, its array has the diagnostics one by one, and no other list has that report.
Set on lines or not, it has the same tokens.
-/
set_option autoImplicit false

namespace ZLang.Report

open ZLang.Json (Value Layout Wellformed)

/-- The item of a diagnostic. The place of its line is a number, or `null` where it is not
finite. -/
def Describes (d : Diagnostic) (item : Value) : Prop :=
  ∃ offset, (offset = .null ∨ ∃ n, offset = .number n) ∧
    item = .object [("line".toList, .ofNat d.line), ("rule".toList, .string d.rule.code),
      ("description".toList, .string d.description), ("highlight_offset".toList, offset)]

structure Summarizes (items : List Value) (summary : Value) : Prop where
  count : summary.get? "error_count".toList = some (.ofNat items.length)
  success : summary.get? "outcome".toList = some (.string "success".toList) ↔ items = []
  failure : summary.get? "outcome".toList = some (.string "failure".toList) ↔ items ≠ []

/-! ## Items and summary -/

theorem describes_entry (g : Geometry) (d : Diagnostic) : Describes d (entry g d) := by
  refine ⟨.ofFloat (g.offset d.line), ?_, rfl⟩
  unfold Value.ofFloat
  split
  · next n _ => exact .inr ⟨n, rfl⟩
  · exact .inl rfl

theorem ofCode?_code (r : Rule) : Rule.ofCode? r.code = some r := by
  cases r <;> decide

theorem describes_leftUnique : Relator.LeftUnique Describes := by
  rintro ⟨line, rule, description⟩ ⟨line', rule', description'⟩ item ⟨_, _, rfl⟩ ⟨_, _, h⟩
  simp only [Value.object.injEq, List.cons.injEq, Prod.mk.injEq, Value.ofNat, Json.Number.ofNat,
    Value.number.injEq, Json.Number.mk.injEq, Value.string.injEq, true_and, and_true] at h
  obtain ⟨rfl, hcode, rfl, -⟩ := h
  have hrule := ofCode?_code rule
  rw [hcode, ofCode?_code] at hrule
  cases hrule
  rfl

theorem Verdict.ofDiagnostics_eq_success_iff (ds : List Diagnostic) :
    Verdict.ofDiagnostics ds = .success ↔ ds = [] := by
  cases ds <;> simp [Verdict.ofDiagnostics]

theorem Verdict.name_eq_iff (v : Verdict) :
    (v.name = "success".toList ↔ v = .success) ∧ (v.name = "failure".toList ↔ v ≠ .success) := by
  cases v <;> decide

theorem summarizes_summary (ds : List Diagnostic) {items : List Value}
    (h : items.length = ds.length) : Summarizes items (summary ds) := by
  have hempty : Verdict.ofDiagnostics ds = .success ↔ items = [] := by
    rw [Verdict.ofDiagnostics_eq_success_iff, ← List.length_eq_zero_iff, ← h,
      List.length_eq_zero_iff]
  have hnames :
      ["error_count".toList, "outcome".toList, "title".toList, "message".toList].Nodup := by decide
  have hcount : (summary ds).get? "error_count".toList = some (.ofNat ds.length) :=
    Value.get?_object hnames 0 rfl
  have houtcome : (summary ds).get? "outcome".toList =
      some (.string (Verdict.ofDiagnostics ds).name) :=
    Value.get?_object hnames 1 rfl
  obtain ⟨hsuccess, hfailure⟩ := (Verdict.ofDiagnostics ds).name_eq_iff
  constructor
  · rw [hcount, h]
  · rw [houtcome, Option.some.injEq, Value.string.injEq, hsuccess, hempty]
  · rw [houtcome, Option.some.injEq, Value.string.injEq, hfailure, ne_eq, hempty]

/-! ## The whole report -/

theorem plain_layout (pretty : Bool) :
    (if pretty then Layout.pretty else Layout.compact).Plain := by
  cases pretty with
  | true => exact Layout.plain_pretty
  | false => exact Layout.plain_compact

theorem blank_layout (pretty : Bool) :
    (if pretty then Layout.pretty else Layout.compact).Blank :=
  (plain_layout pretty).blank

theorem parse_json (pretty : Bool) (g : Geometry) (ds : List Diagnostic) :
    Value.parse (json pretty g ds) = some (value g ds) :=
  Json.parse_print (blank_layout pretty) _

theorem forall₂_describes (g : Geometry) (ds : List Diagnostic) :
    List.Forall₂ Describes ds (ds.map (entry g)) := by
  rw [List.forall₂_map_right_iff, List.forall₂_same]
  exact fun d _ => describes_entry g d

theorem eq_of_value_eq {g g' : Geometry} {ds ds' : List Diagnostic}
    (h : value g ds = value g' ds') : ds = ds' := by
  have hitems : ds.map (entry g) = ds'.map (entry g') := by
    simp only [value, Value.object.injEq, List.cons.injEq, Prod.mk.injEq, Value.array.injEq] at h
    exact h.1.2
  have hds := forall₂_describes g ds
  rw [hitems] at hds
  exact List.left_unique_forall₂' describes_leftUnique hds (forall₂_describes g' ds')

/-- A report is a JSON text that reads as its diagnostics, in order, with the summary of them.
Neither the layout nor the geometry can make the reports of two lists alike. -/
theorem json_determines_diagnostics (pretty : Bool) (g : Geometry) (ds : List Diagnostic) :
    (∃ items summary,
      Wellformed (.object [("diagnostics".toList, .array items), ("summary".toList, summary)])
        (json pretty g ds) ∧
      Value.parse (json pretty g ds) =
        some (.object [("diagnostics".toList, .array items), ("summary".toList, summary)]) ∧
      List.Forall₂ Describes ds items ∧ Summarizes items summary) ∧
    ∀ (pretty' : Bool) (g' : Geometry) (ds' : List Diagnostic),
      json pretty g ds = json pretty' g' ds' → ds = ds' := by
  constructor
  · refine ⟨ds.map (entry g), summary ds, ?_, parse_json pretty g ds, forall₂_describes g ds,
      summarizes_summary ds (List.length_map _)⟩
    exact Json.wellformed_print (blank_layout pretty) (value g ds)
  · intro pretty' g' ds' h
    have hparse := parse_json pretty g ds
    rw [h, parse_json] at hparse
    exact (eq_of_value_eq (Option.some.inj hparse)).symm

/-- The first line stands at one place whatever the height of a line is. -/
theorem json_determines_diagnostics_escapes :
    json true ⟨24.0, 10.0⟩ [⟨1, .unmatchedBraces, "\"],\\\n".toList⟩,
        ⟨0, .missingSemicolon, ['\x00', Char.ofNat 0x1f600]⟩] =
      json true ⟨36.0, 10.0⟩ [⟨1, .unmatchedBraces, ['"', ']', ',', '\\', '\n']⟩,
        ⟨0, .missingSemicolon, [Char.ofNat 0, Char.ofNat 0x1f600]⟩] ∧
    ([⟨1, .unmatchedBraces, "\"],\\\n".toList⟩,
        ⟨0, .missingSemicolon, ['\x00', Char.ofNat 0x1f600]⟩] : List Diagnostic) =
      [⟨1, .unmatchedBraces, ['"', ']', ',', '\\', '\n']⟩,
        ⟨0, .missingSemicolon, [Char.ofNat 0, Char.ofNat 0x1f600]⟩] := by
  have hone : Geometry.offset ⟨24.0, 10.0⟩ 1 = Geometry.offset ⟨36.0, 10.0⟩ 1 := by decide +kernel
  have hzero : Geometry.offset ⟨24.0, 10.0⟩ 0 = Geometry.offset ⟨36.0, 10.0⟩ 0 := hone
  refine (fun h => ⟨h, (json_determines_diagnostics true _ _).2 true _ _ h⟩) ?_
  simp only [json, value, List.map_cons, List.map_nil, entry, hone, hzero]
  rfl

/-! ## Layouts -/

/-- Without the spaces and line feeds between its tokens a report is the compact one; that one has
none to lose. -/
theorem squeeze_json (pretty : Bool) (g : Geometry) (ds : List Diagnostic) :
    Json.squeeze (json pretty g ds) = json false g ds :=
  Json.squeeze_print (plain_layout pretty) (value g ds)

end ZLang.Report
