import Mathlib.Data.List.Basic
import ZLang.Proofs.Document.Cursor
import ZLang.Proofs.Text.LowerCase
import ZLang.Session.Wire

/-!
Completions and hovers. The names of the tables are ASCII and have no `k`, so the comparison of full
lower case forms comes to a comparison up to ASCII case: nothing outside ASCII completes to a name,
and typing more never brings a name back. What is typed before a cursor is the beginning of the word
at the cursor, so a word that has a hover is itself among the completions, once and with the class
that the hover shows.
-/
set_option autoImplicit false

namespace ZLang.Vocabulary

open Text

/-! ## The tables -/

/-- The names of both tables, each with its class. -/
def table : List Item := keywords.map (⟨·, .keyword⟩) ++ functions.map (⟨·, .function⟩)

theorem filter_table (p : Text → Bool) : (table.filter fun i => p i.label) =
    (keywords.filter p).map (⟨·, .keyword⟩) ++ (functions.filter p).map (⟨·, .function⟩) := by
  rw [table, List.filter_append, List.filter_map, List.filter_map]
  rfl

theorem mem_table_of_classify? {w : Text} {c : WordClass} (h : classify? w = some c) :
    Item.mk w c ∈ table := by
  unfold classify? at h
  split at h
  · next hk =>
    cases h
    exact List.mem_append_left _ (List.mem_map_of_mem (List.contains_iff_mem.mp hk))
  · split at h
    · next hf =>
      cases h
      exact List.mem_append_right _ (List.mem_map_of_mem (List.contains_iff_mem.mp hf))
    · cases h

theorem table_labels : table.all (fun i => (table.filter fun j => j.label == i.label) == [i]) =
    true := by
  decide +kernel

/-- A name stands once in the tables. -/
theorem filter_label {i : Item} (h : i ∈ table) :
    (table.filter fun j => j.label == i.label) = [i] :=
  eq_of_beq (List.all_eq_true.mp table_labels i h)

/-! ## Names up to case -/

/-- A name of ASCII characters without the letter `k` in either case. -/
def Plain (name : Text) : Prop := ∀ x ∈ name.map Char.toLower, x.isAscii = true ∧ x ≠ 'k'

theorem table_letters : table.all (fun i => (i.label.map Char.toLower).all fun x =>
    x.isAscii && x != 'k') = true := by
  decide +kernel

theorem plain_label {i : Item} (h : i ∈ table) : Plain i.label := by
  intro x hx
  have hletters := List.all_eq_true.mp (List.all_eq_true.mp table_letters i h) x hx
  simpa using hletters

theorem Plain.isAscii {name : Text} (h : Plain name) : ∀ c ∈ name, c.isAscii = true :=
  fun c hc => isAscii_of_toLower (h c.toLower (List.mem_map_of_mem hc)).1

/-- The first characters of a name are those of `typed`, up to ASCII case. -/
def beginsLike (typed name : Text) : Bool :=
  (name.take typed.length).map Char.toLower == typed.map Char.toLower

theorem beginsLike_iff (typed name : Text) :
    beginsLike typed name = true ↔ typed.map Char.toLower <+: name.map Char.toLower := by
  rw [beginsLike, beq_iff_eq, List.prefix_iff_eq_take, List.length_map, List.map_take, eq_comm]

theorem beginsLike_of_append {typed more name : Text} (h : beginsLike (typed ++ more) name = true) :
    beginsLike typed name = true := by
  rw [beginsLike_iff, List.map_append] at h
  rw [beginsLike_iff]
  exact (List.prefix_append _ _).trans h

theorem beginsLike_of_isPrefix {typed name : Text} (h : typed <+: name) :
    beginsLike typed name = true := by
  rw [beginsLike_iff]
  exact h.map Char.toLower

theorem isAscii_of_beginsLike {typed name : Text} (hname : Plain name)
    (h : beginsLike typed name = true) : ∀ c ∈ typed, c.isAscii = true := by
  intro c hc
  have hmem := ((beginsLike_iff typed name).mp h).subset (List.mem_map_of_mem hc)
  exact isAscii_of_toLower (hname c.toLower hmem).1

theorem starts_eq_beginsLike (typed : Text) {name : Text} (hname : Plain name) :
    starts typed name = beginsLike typed name := by
  have hlower : lower name = name.map Char.toLower := lower_ascii name hname.isAscii
  rw [Bool.eq_iff_iff, starts, List.isPrefixOf_iff_prefix, hlower]
  constructor
  · intro h
    have htyped : ∀ c ∈ typed, c.isAscii = true :=
      isAscii_of_lower typed fun x hx => hname x (h.subset hx)
    rw [lower_ascii typed htyped] at h
    exact (beginsLike_iff typed name).mpr h
  · intro h
    rw [lower_ascii typed (isAscii_of_beginsLike hname h)]
    exact (beginsLike_iff typed name).mp h

/-! ## Completions -/

theorem completions_eq_filter (typed : Text) :
    completions typed = table.filter fun i => beginsLike typed i.label := by
  have hstarts : (table.filter fun i => starts typed i.label) =
      table.filter fun i => beginsLike typed i.label :=
    List.filter_congr fun i hi => starts_eq_beginsLike typed (plain_label hi)
  rw [← hstarts, filter_table]
  rfl

theorem completions_eq_nil {typed : Text} {c : Char} (hc : c ∈ typed) (hout : c.isAscii = false) :
    completions typed = [] := by
  rw [completions_eq_filter, List.filter_eq_nil_iff]
  intro i hi hbegins
  have hin := isAscii_of_beginsLike (plain_label hi) hbegins c hc
  rw [hout] at hin
  cases hin

theorem completions_append_sublist (typed more : Text) :
    (completions (typed ++ more)).Sublist (completions typed) := by
  rw [completions_eq_filter, completions_eq_filter]
  exact List.monotone_filter_right table fun i => beginsLike_of_append

/-- The completions are the names of the keywords and then of the functions, in the order of their
tables, that begin like what was typed up to ASCII case. Nothing completes a text that leaves ASCII,
and typing more only takes names away. -/
theorem completions_up_to_case :
    (∀ typed : Text, completions typed =
      (keywords.filter (beginsLike typed)).map (⟨·, .keyword⟩) ++
        (functions.filter (beginsLike typed)).map (⟨·, .function⟩)) ∧
    (∀ typed : Text, (∃ c ∈ typed, c.isAscii = false) → completions typed = []) ∧
    (∀ typed more : Text, (completions (typed ++ more)).Sublist (completions typed)) := by
  refine ⟨fun typed => ?_, ?_, completions_append_sublist⟩
  · rw [completions_eq_filter, filter_table]
  · rintro typed ⟨c, hc, hout⟩
    exact completions_eq_nil hc hout

/-- The Kelvin sign has an ASCII lower case, and the dotted capital I has one that begins with an
ASCII letter. -/
theorem completions_up_to_case_kelvin :
    (lower "\u212a".toList = "k".toList ∧ (∃ c ∈ "\u212a".toList, c.isAscii = false) ∧
      completions "\u212a".toList = []) ∧
    (lower "\u0130".toList = "i\u0307".toList ∧ (∃ c ∈ "\u0130".toList, c.isAscii = false) ∧
      completions "\u0130".toList = []) := by
  have hkelvin : ∃ c ∈ "\u212a".toList, c.isAscii = false :=
    ⟨'\u212a', by simp, by decide⟩
  have hdotted : ∃ c ∈ "\u0130".toList, c.isAscii = false :=
    ⟨'\u0130', by simp, by decide⟩
  exact ⟨⟨by decide +kernel, hkelvin, completions_up_to_case.2.1 _ hkelvin⟩,
    ⟨by decide +kernel, hdotted, completions_up_to_case.2.1 _ hdotted⟩⟩

/-! ## Hovers -/

theorem hover?_eq_some_iff (w content : Text) : hover? w = some content ↔
    ∃ c, classify? w = some c ∧
      content = "**".toList ++ w ++ "**\n\n".toList ++ c.detail := by
  rw [hover?, Option.map_eq_some_iff]
  simp only [eq_comm]

/-- What was typed of a name brings it up, once. -/
theorem filter_completions {typed : Text} {i : Item} (hi : i ∈ table) (h : typed <+: i.label) :
    ((completions typed).filter fun j => j.label == i.label) = [i] := by
  have hbegins : beginsLike typed i.label = true := beginsLike_of_isPrefix h
  have hswap : ((completions typed).filter fun j => j.label == i.label) =
      (table.filter fun j => j.label == i.label).filter fun j => beginsLike typed j.label := by
    rw [completions_eq_filter, List.filter_filter, List.filter_filter]
    simp only [Bool.and_comm]
  rw [hswap, filter_label hi]
  simp [hbegins]

end ZLang.Vocabulary

namespace ZLang.Session

open Text Vocabulary

theorem hoverAnswer_eq_hover {s : Store} {uri : Uri} {p : Position} {content : Text}
    (h : hoverAnswer s uri p = .hover content) :
    ∃ d w, s.get? uri = some d ∧ d.content.wordAt? p = some w ∧ hover? w = some content := by
  unfold hoverAnswer at h
  split at h
  · next content' hbind =>
    cases h
    obtain ⟨d, hd, hword⟩ := Option.bind_eq_some_iff.mp hbind
    obtain ⟨w, hw, hhover⟩ := Option.bind_eq_some_iff.mp hword
    exact ⟨d, w, hd, hw, hhover⟩
  · cases h

theorem completionAnswer_eq {s : Store} {uri : Uri} {p : Position} {d : Document}
    (hd : s.get? uri = some d) (hne : completions (d.content.typedAt p) ≠ []) :
    completionAnswer s uri p = .completion (completions (d.content.typedAt p)) := by
  unfold completionAnswer
  rw [hd]
  simp [hne]

/-- Among completions there is one item for a word, and the editor is told the word's kind. -/
def Offers (items : List Item) (w kind : Text) : Prop :=
  ∃ i, (items.filter fun j => j.label == w) = [i] ∧
    (Wire.ofItem i).get? "label".toList = some (.string w) ∧
    (Wire.ofItem i).get? "detail".toList = some (.string kind)

theorem Offers.ne_nil {items : List Item} {w kind : Text} (h : Offers items w kind) :
    items ≠ [] := by
  rintro rfl
  obtain ⟨i, hi, -⟩ := h
  cases hi

theorem offers_of_hover {t : Text} {p : Position} {w : Text} {c : WordClass}
    (hw : t.wordAt? p = some w) (hc : classify? w = some c) :
    Offers (completions (t.typedAt p)) w c.detail := by
  have hprefix : t.typedAt p <+: w := by
    cases hline : t.line? p.line with
    | none => rw [wordAt?, hline] at hw; cases hw
    | some line => exact typedAt_isPrefix hline hw
  refine ⟨⟨w, c⟩, filter_completions (mem_table_of_classify? hc) hprefix, ?_⟩
  cases c with
  | keyword =>
    have hnames : ["detail", "kind", "label"].Nodup := by decide
    exact ⟨Wire.get?_object hnames 2 rfl, Wire.get?_object hnames 0 rfl⟩
  | function =>
    have hnames : ["detail", "insertText", "insertTextFormat", "kind", "label"].Nodup := by decide
    exact ⟨Wire.get?_object hnames 4 rfl, Wire.get?_object hnames 0 rfl⟩

/-- A word with a hover is among the completions at the same place, once, and the item says of it
what the hover says; and so do the two answers of a server. -/
theorem hover_agrees_with_completion :
    (∀ (t : Text) (p : Position) (w content : Text), t.wordAt? p = some w →
      hover? w = some content →
      ∃ kind, (kind = "Z-LANG keyword".toList ∨ kind = "Z-LANG built-in function".toList) ∧
        content = "**".toList ++ w ++ "**\n\n".toList ++ kind ∧
        completions (t.typedAt p) ≠ [] ∧ Offers (completions (t.typedAt p)) w kind) ∧
    (∀ (s : Store) (uri : Uri) (p : Position) (content : Text),
      hoverAnswer s uri p = .hover content →
      ∃ d w kind items, s.get? uri = some d ∧ d.content.wordAt? p = some w ∧
        content = "**".toList ++ w ++ "**\n\n".toList ++ kind ∧
        completionAnswer s uri p = .completion items ∧ Offers items w kind) := by
  have hkinds : ∀ c : WordClass,
      c.detail = "Z-LANG keyword".toList ∨ c.detail = "Z-LANG built-in function".toList := by
    intro c
    cases c
    · exact .inl rfl
    · exact .inr rfl
  constructor
  · intro t p w content hw hhover
    obtain ⟨c, hc, hcontent⟩ := (hover?_eq_some_iff w content).mp hhover
    have hoffers := offers_of_hover hw hc
    exact ⟨c.detail, hkinds c, hcontent, hoffers.ne_nil, hoffers⟩
  · intro s uri p content h
    obtain ⟨d, w, hd, hw, hhover⟩ := hoverAnswer_eq_hover h
    obtain ⟨c, hc, hcontent⟩ := (hover?_eq_some_iff w content).mp hhover
    have hoffers := offers_of_hover hw hc
    exact ⟨d, w, c.detail, _, hd, hw, hcontent, completionAnswer_eq hd hoffers.ne_nil, hoffers⟩

/-- The cursor stands inside a name, behind a character of two units. -/
theorem hover_agrees_with_completion_inside :
    let t : Text := "é🎉 findString(x)".toList
    let p : Position := ⟨0, 8⟩
    let w : Text := "findString".toList
    let content : Text := "**findString**\n\nZ-LANG built-in function".toList
    let uri : Uri := ⟨"file:///a.z".toList⟩
    let s : Store := Store.empty.insert uri ⟨t, 1⟩
    (t.wordAt? p = some w ∧ t.typedAt p = "find".toList ∧ hover? w = some content ∧
      completions (t.typedAt p) ≠ []) ∧
    hoverAnswer s uri p = .hover content ∧
      ∃ items, completionAnswer s uri p = .completion items := by
  intro t p w content uri s
  have hw : t.wordAt? p = some w := by decide +kernel
  have htyped : t.typedAt p = "find".toList := by decide +kernel
  have hhover : hover? w = some content := by decide +kernel
  have hanswer : hoverAnswer s uri p = .hover content := by decide +kernel
  obtain ⟨-, -, -, hne, -⟩ := hover_agrees_with_completion.1 t p w content hw hhover
  obtain ⟨-, -, -, items, -, -, -, hitems, -⟩ :=
    hover_agrees_with_completion.2 s uri p content hanswer
  exact ⟨⟨hw, htyped, hhover, hne⟩, hanswer, items, hitems⟩

end ZLang.Session
