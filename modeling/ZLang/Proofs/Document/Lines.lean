import Mathlib.Logic.Function.Basic
import ZLang.Document
import ZLang.Proofs.Analysis.Lines
import ZLang.Proofs.Analysis.Verdict

/-!
A text and its lines. Cutting a text at its line feeds loses nothing and adds nothing: the texts are
the joined lists of lines, each in one way. The lines are numbered without a gap, and a document
finds a line by its number.
-/
set_option autoImplicit false

namespace ZLang

open Text

/-- One line or more, without line feeds in them. -/
structure Lines where
  contents : List Text
  ne_nil : contents ≠ []
  newline_not_mem : ∀ line ∈ contents, '\n' ∉ line

namespace Lines

theorem ext_contents {a b : Lines} (h : a.contents = b.contents) : a = b := by
  cases a
  cases b
  cases h
  rfl

def join (ls : Lines) : Text := ['\n'].intercalate ls.contents

end Lines

namespace Line

/-! ## Contents -/

theorem newline_not_mem_content {t : Text} {l : Line} (h : l ∈ ofText t) : '\n' ∉ l.content := by
  have hpiece : l.content ∈ t.splitOn '\n' := by
    rw [← map_content_ofText]
    exact List.mem_map_of_mem h
  exact not_mem_of_mem_splitOn '\n' t l.content hpiece

theorem length_ofText_eq (t : Text) : (ofText t).length = t.count '\n' + 1 := by
  rw [length_ofText, length_splitOn]

theorem ofText_ne_nil (t : Text) : ofText t ≠ [] := by
  intro h
  have hlen := length_ofText_eq t
  rw [h] at hlen
  cases hlen

/-- The lines of a text without their numbers. -/
def cut (t : Text) : Lines where
  contents := (ofText t).map content
  ne_nil := by simpa using ofText_ne_nil t
  newline_not_mem := by
    intro line hline
    obtain ⟨l, hl, rfl⟩ := List.mem_map.mp hline
    exact newline_not_mem_content hl

theorem contents_cut (t : Text) : (cut t).contents = t.splitOn '\n' := map_content_ofText t

theorem join_cut (t : Text) : (cut t).join = t := by
  rw [Lines.join, contents_cut, List.intercalate_splitOn]

theorem cut_join (ls : Lines) : cut ls.join = ls := by
  apply Lines.ext_contents
  rw [contents_cut, Lines.join, List.splitOn_intercalate '\n' ls.newline_not_mem ls.ne_nil]

theorem cut_bijective : Function.Bijective cut :=
  ⟨Function.LeftInverse.injective join_cut, Function.RightInverse.surjective cut_join⟩

/-! ## Numbers -/

theorem map_number_ofText (t : Text) :
    (ofText t).map number = List.range' 1 (t.count '\n' + 1) := by
  rw [ofText, numbered, List.map_map, ← length_splitOn]
  exact List.zipIdx_map_snd 1 _

theorem mem_ofText_iff (t content : Text) (i : Nat) :
    ⟨i + 1, content⟩ ∈ ofText t ↔ t.line? i = some content := by
  rw [line?, ofText, numbered, List.mem_map]
  constructor
  · rintro ⟨⟨piece, n⟩, hp, h⟩
    cases h
    simpa using (List.mem_zipIdx_iff_le_and_getElem?_sub.mp hp).2
  · intro h
    refine ⟨(content, i + 1), ?_, rfl⟩
    rw [List.mem_zipIdx_iff_le_and_getElem?_sub]
    exact ⟨by simp, by simpa using h⟩

theorem line?_eq_none_iff (t : Text) (i : Nat) :
    t.line? i = none ↔ ∀ l ∈ ofText t, l.number ≠ i + 1 := by
  constructor
  · rintro h ⟨n, content⟩ hl rfl
    rw [mem_ofText_iff, h] at hl
    cases hl
  · intro h
    cases hline : t.line? i with
    | none => rfl
    | some content => exact absurd rfl (h _ ((mem_ofText_iff t content i).mpr hline))

/-! ## Texts as lines -/

/-- Texts and lists of lines are the same thing: a text is its lines joined, numbered from 1 to one
more than its line feeds, any lines are those of the text they are joined to, and a document has at
row `i` the line numbered `i + 1`. -/
theorem texts_are_joined_lines :
    Function.Bijective cut ∧
    (∀ t : Text, (∀ l ∈ ofText t, '\n' ∉ l.content) ∧
      ['\n'].intercalate ((ofText t).map content) = t ∧
      (ofText t).map number = List.range' 1 (t.count '\n' + 1)) ∧
    (∀ xs : List Text, xs ≠ [] → (∀ x ∈ xs, '\n' ∉ x) →
      (ofText (['\n'].intercalate xs)).map content = xs) ∧
    ∀ (document : Document) (i : Nat),
      (∀ line, document.content.line? i = some line ↔ ⟨i + 1, line⟩ ∈ ofText document.content) ∧
      (document.content.line? i = none ↔ ∀ l ∈ ofText document.content, l.number ≠ i + 1) := by
  refine ⟨cut_bijective, fun t => ?_, fun xs hne hxs => ?_, fun document i => ?_⟩
  · exact ⟨fun l hl => newline_not_mem_content hl, join_cut t, map_number_ofText t⟩
  · exact congrArg Lines.contents (cut_join ⟨xs, hne, hxs⟩)
  · exact ⟨fun line => (mem_ofText_iff document.content line i).symm,
      line?_eq_none_iff document.content i⟩

/-- A first line that is empty, a carriage return that stays, and an end with nothing behind it. -/
theorem texts_are_joined_lines_returns :
    let xs : List Text := [[], "OUT x;\r".toList, []]
    let t : Text := "\nOUT x;\r\n".toList
    (xs ≠ [] ∧ (∀ x ∈ xs, '\n' ∉ x) ∧ ['\n'].intercalate xs = t ∧
      (ofText (['\n'].intercalate xs)).map content = xs) ∧
    ⟨2, "OUT x;\r".toList⟩ ∈ ofText t ∧ '\n' ∉ "OUT x;\r".toList ∧
    (ofText t).map number = List.range' 1 (t.count '\n' + 1) := by
  intro xs t
  have hxs : ∀ x ∈ xs, '\n' ∉ x := by decide
  have hmem : ⟨2, "OUT x;\r".toList⟩ ∈ ofText t := by decide
  obtain ⟨-, htexts, hlists, -⟩ := texts_are_joined_lines
  exact ⟨⟨by decide, hxs, rfl, hlists xs (by decide) hxs⟩, hmem, (htexts t).1 _ hmem,
    (htexts t).2.2⟩

end Line

end ZLang
