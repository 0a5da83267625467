import ZLang.Document
import ZLang.Proofs.Text.Columns

/-!
The word at a cursor. A column cuts a line in two, and the word around it is made of the run of word
characters before the cut and of the run behind it. `MaximalWord` says of a part of a line that it
is such a word, with no word about cutting; the cursor, as a byte, lies in it or at one of its ends.
The part of the word before the cursor is the longest run of word characters that ends there.
-/
set_option autoImplicit false

namespace ZLang.Text

/-! ## Runs at the ends of a text -/

theorem trailingWord_append_word (t w : Text) (hw : ∀ c ∈ w, isWordChar c = true) :
    trailingWord (t ++ w) = trailingWord t ++ w := by
  have hrev : ∀ c ∈ w.reverse, isWordChar c = true := fun c hc => hw c (List.mem_reverse.mp hc)
  rw [trailingWord, List.reverse_append, List.takeWhile_append_of_pos hrev, List.reverse_append,
    List.reverse_reverse]
  rfl

theorem leadingWord_word_append (w t : Text) (hw : ∀ c ∈ w, isWordChar c = true) :
    leadingWord (w ++ t) = w ++ leadingWord t :=
  List.takeWhile_append_of_pos hw

theorem leadingWord_eq_nil_iff (t : Text) :
    leadingWord t = [] ↔ ∀ c ∈ t.head?, isWordChar c = false := by
  cases t with
  | nil => simp [leadingWord]
  | cons c t => simp [leadingWord, List.takeWhile_cons]

theorem trailingWord_eq_nil_iff (t : Text) :
    trailingWord t = [] ↔ ∀ c ∈ t.getLast?, isWordChar c = false := by
  rw [List.getLast?_eq_head?_reverse, ← leadingWord_eq_nil_iff, trailingWord, leadingWord,
    List.reverse_eq_nil_iff]

theorem isWordChar_of_mem_leadingWord {t : Text} {c : Char} (h : c ∈ leadingWord t) :
    isWordChar c = true := by
  have hall := List.all_takeWhile (p := isWordChar) (l := t)
  exact List.all_eq_true.mp hall c h

theorem isWordChar_of_mem_trailingWord {t : Text} {c : Char} (h : c ∈ trailingWord t) :
    isWordChar c = true :=
  isWordChar_of_mem_leadingWord (t := t.reverse) (List.mem_reverse.mp h)

theorem exists_leadingWord (t : Text) :
    ∃ b, t = leadingWord t ++ b ∧ ∀ c ∈ b.head?, isWordChar c = false := by
  have hsplit : leadingWord t ++ t.dropWhile isWordChar = t := List.takeWhile_append_dropWhile
  refine ⟨t.dropWhile isWordChar, hsplit.symm, ?_⟩
  rw [← leadingWord_eq_nil_iff]
  have h := leadingWord_word_append (leadingWord t) (t.dropWhile isWordChar)
    fun c hc => isWordChar_of_mem_leadingWord hc
  rw [hsplit] at h
  exact List.self_eq_append_right.mp h

theorem exists_trailingWord (t : Text) :
    ∃ a, t = a ++ trailingWord t ∧ ∀ c ∈ a.getLast?, isWordChar c = false := by
  obtain ⟨b, hb, hstop⟩ := exists_leadingWord t.reverse
  refine ⟨b.reverse, ?_, ?_⟩
  · have h := congrArg List.reverse hb
    rwa [List.reverse_reverse, List.reverse_append] at h
  · rwa [List.getLast?_reverse]

/-! ## Maximal words -/

/-- A run of word characters with none before it and none behind it. -/
structure MaximalWord (line before word after : Text) : Prop where
  line_eq : line = before ++ word ++ after
  ne_nil : word ≠ []
  inside : ∀ c ∈ word, isWordChar c = true
  start : ∀ c ∈ before.getLast?, isWordChar c = false
  stop : ∀ c ∈ after.head?, isWordChar c = false

/-- A byte of the line within a word, or at one of its ends. -/
def Touches (before word : Text) (cursor : Nat) : Prop :=
  bytes before ≤ cursor ∧ cursor ≤ bytes (before ++ word)

section Cut

variable {line before word after : Text} {column : Nat}

/-- A column that touches a word cuts the line within it. -/
theorem MaximalWord.cut (h : MaximalWord line before word after)
    (htouch : Touches before word (byteOffset line column)) :
    ∃ left right, word = left ++ right ∧ takeUnits column line = before ++ left ∧
      dropUnits column line = right ++ after := by
  have hwhole := takeUnits_append_dropUnits column line
  have hx : takeUnits column line <+: line := takeUnits_isPrefix column line
  have hbefore : before <+: line := ⟨word ++ after, by rw [h.line_eq, List.append_assoc]⟩
  have hword : before ++ word <+: line := ⟨after, h.line_eq.symm⟩
  obtain ⟨left, hleft⟩ := prefix_of_bytes_le hbefore hx htouch.1
  obtain ⟨right, hright⟩ := prefix_of_bytes_le hx hword htouch.2
  have hsplit : word = left ++ right := by
    rw [← hleft, List.append_assoc] at hright
    exact (List.append_cancel_left hright).symm
  refine ⟨left, right, hsplit, hleft.symm, ?_⟩
  have hrest : before ++ left ++ dropUnits column line = before ++ left ++ (right ++ after) := by
    rw [hleft, hwhole, ← hleft, h.line_eq, hsplit]
    simp only [List.append_assoc]
  exact List.append_cancel_left hrest

theorem MaximalWord.runs (h : MaximalWord line before word after)
    (htouch : Touches before word (byteOffset line column)) :
    word = wordAround line column ∧
      takeUnits column line = before ++ trailingWord (takeUnits column line) := by
  obtain ⟨left, right, hword, htake, hdrop⟩ := h.cut htouch
  have hleft : ∀ c ∈ left, isWordChar c = true :=
    fun c hc => h.inside c (by rw [hword]; exact List.mem_append_left _ hc)
  have hright : ∀ c ∈ right, isWordChar c = true :=
    fun c hc => h.inside c (by rw [hword]; exact List.mem_append_right _ hc)
  have htrailing : trailingWord (takeUnits column line) = left := by
    rw [htake, trailingWord_append_word before left hleft,
      (trailingWord_eq_nil_iff before).mpr h.start, List.nil_append]
  have hleading : leadingWord (dropUnits column line) = right := by
    rw [hdrop, leadingWord_word_append right after hright,
      (leadingWord_eq_nil_iff after).mpr h.stop, List.append_nil]
  refine ⟨?_, by rw [htrailing, htake]⟩
  rw [wordAround, htrailing, hleading, hword]

end Cut

theorem MaximalWord.unique {line before word after before' word' after' : Text} {column : Nat}
    (h : MaximalWord line before word after) (h' : MaximalWord line before' word' after')
    (htouch : Touches before word (byteOffset line column))
    (htouch' : Touches before' word' (byteOffset line column)) :
    before = before' ∧ word = word' ∧ after = after' := by
  obtain ⟨hword, hcut⟩ := h.runs htouch
  obtain ⟨hword', hcut'⟩ := h'.runs htouch'
  have hbefore : before = before' := List.append_cancel_right (hcut.symm.trans hcut')
  have hsame : word = word' := hword.trans hword'.symm
  have hline := h.line_eq.symm.trans h'.line_eq
  rw [hbefore, hsame] at hline
  exact ⟨hbefore, hsame, List.append_cancel_left hline⟩

/-- The line in three parts, of which the middle one is the word around the column. -/
theorem exists_around (line : Text) (column : Nat) : ∃ before after,
    line = before ++ wordAround line column ++ after ∧
    takeUnits column line = before ++ trailingWord (takeUnits column line) ∧
    dropUnits column line = leadingWord (dropUnits column line) ++ after ∧
    (∀ c ∈ before.getLast?, isWordChar c = false) ∧ ∀ c ∈ after.head?, isWordChar c = false := by
  obtain ⟨before, htake, hstart⟩ := exists_trailingWord (takeUnits column line)
  obtain ⟨after, hdrop, hstop⟩ := exists_leadingWord (dropUnits column line)
  refine ⟨before, after, ?_, htake, hdrop, hstart, hstop⟩
  rw [wordAround, ← List.append_assoc, List.append_assoc _ _ after, ← htake, ← hdrop,
    takeUnits_append_dropUnits]

theorem exists_maximalWord (line : Text) (column : Nat) (hne : wordAround line column ≠ []) :
    ∃ before after, MaximalWord line before (wordAround line column) after ∧
      Touches before (wordAround line column) (byteOffset line column) := by
  obtain ⟨before, after, hline, htake, -, hstart, hstop⟩ := exists_around line column
  have hcursor : byteOffset line column =
      bytes before + bytes (trailingWord (takeUnits column line)) := by
    rw [byteOffset, ← bytes_append, ← htake]
  refine ⟨before, after, ⟨hline, hne, ?_, hstart, hstop⟩, ?_, ?_⟩
  · intro c hc
    rcases List.mem_append.mp hc with hc | hc
    · exact isWordChar_of_mem_trailingWord hc
    · exact isWordChar_of_mem_leadingWord hc
  · omega
  · grind [wordAround]

/-! ## The word at a cursor -/

/-- A character of a line that ends or starts at a byte. -/
def Beside (line : Text) (cursor : Nat) (c : Char) : Prop :=
  ∃ before after, line = before ++ c :: after ∧
    (bytes (before ++ [c]) = cursor ∨ bytes before = cursor)

theorem beside_iff (line : Text) (column : Nat) (c : Char) :
    Beside line (byteOffset line column) c ↔
      (takeUnits column line).getLast? = some c ∨ (dropUnits column line).head? = some c := by
  have hwhole := takeUnits_append_dropUnits column line
  have hx := takeUnits_isPrefix column line
  constructor
  · rintro ⟨before, after, hline, hend | hstart⟩
    · left
      have hpre : before ++ [c] <+: line := ⟨after, by simp [hline]⟩
      rw [← eq_of_bytes_eq hpre hx hend]
      simp
    · right
      have hpre : before <+: line := ⟨c :: after, hline.symm⟩
      have hrest : before ++ dropUnits column line = before ++ c :: after := by
        rw [eq_of_bytes_eq hpre hx hstart, hwhole, ← eq_of_bytes_eq hpre hx hstart, hline]
      rw [List.append_cancel_left hrest]
      rfl
  · rintro (hend | hstart)
    · obtain ⟨before, hbefore⟩ := List.getLast?_eq_some_iff.mp hend
      refine ⟨before, dropUnits column line, ?_, .inl (by rw [byteOffset, hbefore])⟩
      rw [hbefore] at hwhole
      simpa using hwhole.symm
    · obtain ⟨after, hafter⟩ := List.head?_eq_some_iff.mp hstart
      refine ⟨takeUnits column line, after, ?_, .inr rfl⟩
      rw [← hafter]
      exact hwhole.symm

theorem wordAround_eq_nil_iff (line : Text) (column : Nat) :
    wordAround line column = [] ↔
      ∀ c, Beside line (byteOffset line column) c → isWordChar c = false := by
  rw [wordAround, List.append_eq_nil_iff, trailingWord_eq_nil_iff, leadingWord_eq_nil_iff]
  constructor
  · rintro ⟨hend, hstart⟩ c hc
    rcases (beside_iff line column c).mp hc with h | h
    · exact hend c h
    · exact hstart c h
  · intro h
    exact ⟨fun c hc => h c ((beside_iff line column c).mpr (.inl hc)),
      fun c hc => h c ((beside_iff line column c).mpr (.inr hc))⟩

section Line

variable {t line : Text} {p : Position}

theorem wordAt?_of_line (h : t.line? p.line = some line) :
    wordAt? t p = if wordAround line p.character = [] then none
      else some (wordAround line p.character) := by
  rw [wordAt?, h, Option.bind_some]
  simp only [List.isEmpty_iff]

theorem typedAt_of_line (h : t.line? p.line = some line) :
    typedAt t p = trailingWord (takeUnits p.character line) := by
  rw [typedAt, h]

theorem wordAt?_eq_none_iff (h : t.line? p.line = some line) :
    wordAt? t p = none ↔
      ∀ c, Beside line (byteOffset line p.character) c → isWordChar c = false := by
  rw [wordAt?_of_line h, ← wordAround_eq_nil_iff]
  split <;> simp_all

theorem wordAt?_eq_some_iff (h : t.line? p.line = some line) (w : Text) :
    wordAt? t p = some w ↔ ∃ before after, MaximalWord line before w after ∧
      Touches before w (byteOffset line p.character) := by
  rw [wordAt?_of_line h]
  constructor
  · intro hw
    split at hw
    · cases hw
    · next hne =>
      cases hw
      exact exists_maximalWord line p.character hne
  · rintro ⟨before, after, hmax, htouch⟩
    have hword := (hmax.runs htouch).1
    rw [← hword, if_neg hmax.ne_nil]

/-! ## The part before the cursor -/

/-- A run of word characters that ends at a byte of the line. -/
def EndsAt (line : Text) (cursor : Nat) (run : Text) : Prop :=
  ∃ before after, line = before ++ run ++ after ∧ bytes (before ++ run) = cursor ∧
    ∀ c ∈ run, isWordChar c = true

theorem endsAt_typedAt (h : t.line? p.line = some line) :
    EndsAt line (byteOffset line p.character) (typedAt t p) := by
  rw [typedAt_of_line h]
  obtain ⟨before, htake, -⟩ := exists_trailingWord (takeUnits p.character line)
  refine ⟨before, dropUnits p.character line, ?_, ?_, fun c => isWordChar_of_mem_trailingWord⟩
  · rw [← htake]
    exact (takeUnits_append_dropUnits p.character line).symm
  · rw [← htake]
    rfl

theorem suffix_typedAt (h : t.line? p.line = some line) {run : Text}
    (hrun : EndsAt line (byteOffset line p.character) run) : run <:+ typedAt t p := by
  obtain ⟨before, after, hline, hbytes, hword⟩ := hrun
  have hpre : before ++ run <+: line := ⟨after, hline.symm⟩
  have htake := eq_of_bytes_eq hpre (takeUnits_isPrefix p.character line) hbytes
  rw [typedAt_of_line h, ← htake, trailingWord_append_word before run hword]
  exact List.suffix_append _ run

theorem typedAt_isPrefix (h : t.line? p.line = some line) {w : Text} (hw : wordAt? t p = some w) :
    typedAt t p <+: w := by
  rw [wordAt?_of_line h] at hw
  split at hw
  · cases hw
  · cases hw
    rw [typedAt_of_line h]
    exact List.prefix_append _ _

theorem typedAt_eq_nil (h : t.line? p.line = some line) (hw : wordAt? t p = none) :
    typedAt t p = [] := by
  rw [wordAt?_of_line h] at hw
  split at hw
  · next hnil =>
    rw [typedAt_of_line h]
    exact (List.append_eq_nil_iff.mp hnil).1
  · cases hw

/-! ## All columns of a word -/

theorem wordAt?_of_units (h : t.line? p.line = some line) {before w after : Text}
    (hmax : MaximalWord line before w after) (hstart : units before ≤ p.character)
    (hstop : p.character ≤ units (before ++ w)) : wordAt? t p = some w := by
  have htake : takeUnits p.character line = before ++ takeUnits (p.character - units before) w := by
    rw [hmax.line_eq, List.append_assoc, takeUnits_append_of_le before _ _ hstart,
      takeUnits_append_of_ge w after _ (by grind)]
  have hpart := bytes_le_of_isPrefix (takeUnits_isPrefix (p.character - units before) w)
  have hcursor : byteOffset line p.character =
      bytes before + bytes (takeUnits (p.character - units before) w) := by
    simp [byteOffset, htake]
  refine (wordAt?_eq_some_iff h w).mpr ⟨before, after, hmax, ?_, ?_⟩
  · omega
  · grind

end Line

end ZLang.Text
