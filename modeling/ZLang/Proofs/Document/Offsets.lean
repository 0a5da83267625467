import ZLang.Proofs.Document.Cursor

/-!
The search for a word on the bytes of a line. The column is turned into a byte by counting along the
line; from there one scan goes back over the characters and one goes forward, each over a slice of
the line. A slice has to begin and end between two characters, and here one that does not is no
slice at all. The search always ends with slices, and what it finds is the word at the cursor.
-/
set_option autoImplicit false

namespace ZLang.Text

/-! ## Slices -/

theorem slice?_byteOffset (line : Text) (column : Nat) :
    slice? line 0 (byteOffset line column) = some (takeUnits column line) :=
  (slice?_zero_eq_some_iff _ _ _).mpr ⟨takeUnits_isPrefix column line, rfl⟩

/-- A byte of a text that lies between two characters, or at an end of the text. -/
def Boundary (t : Text) (n : Nat) : Prop := ∃ a, a <+: t ∧ bytes a = n

theorem boundary_of_slice? {t w : Text} {start stop : Nat} (h : slice? t start stop = some w) :
    start ≤ stop ∧ Boundary t start ∧ Boundary t stop := by
  obtain ⟨a, b, rfl, rfl, rfl⟩ := (slice?_eq_some_iff t start stop w).mp h
  have hstart : a <+: a ++ w ++ b := ⟨w ++ b, by rw [List.append_assoc]⟩
  have hstop : a ++ w <+: a ++ w ++ b := List.prefix_append _ b
  exact ⟨bytes_le_of_isPrefix (List.prefix_append a w), ⟨a, hstart, rfl⟩, ⟨a ++ w, hstop, rfl⟩⟩

/-! ## Scans -/

/-- The byte at which a column lies, counted along the line from a character that starts at byte `i`
and has `units` units before it. -/
def columnByte (column : Nat) : Nat → Nat → Text → Nat
  | _, i, [] => i
  | units, i, c :: t =>
    if column ≤ units then i else columnByte column (units + charUnits c) (i + c.utf8Size) t

theorem columnByte_eq (column units i : Nat) (t : Text) :
    columnByte column units i t = i + byteOffset t (column - units) := by
  induction t generalizing units i with
  | nil => simp [columnByte, byteOffset]
  | cons c t ih =>
    by_cases h : column ≤ units
    · simp [columnByte, h, Nat.sub_eq_zero_of_le h]
    · obtain ⟨n, hn⟩ : ∃ n, column - units = n + 1 := ⟨column - units - 1, by omega⟩
      have hnext : column - (units + charUnits c) = n + 1 - charUnits c := by omega
      simp [columnByte, h, ih, hnext, hn, byteOffset, takeUnits, Nat.add_assoc]

theorem columnByte_zero (column : Nat) (line : Text) :
    columnByte column 0 0 line = byteOffset line column := by
  simp [columnByte_eq]

/-- The characters of a text with the bytes at which they start. -/
def charIndices : Nat → Text → List (Nat × Char)
  | _, [] => []
  | i, c :: t => (i, c) :: charIndices (i + c.utf8Size) t

theorem charIndices_append (i : Nat) (a t : Text) :
    charIndices i (a ++ t) = charIndices i a ++ charIndices (i + bytes a) t := by
  induction a generalizing i with
  | nil => rfl
  | cons c a ih => simp [charIndices, ih, Nat.add_assoc]

theorem map_snd_charIndices (i : Nat) (t : Text) : (charIndices i t).map Prod.snd = t := by
  induction t generalizing i with
  | nil => rfl
  | cons c t ih => simp [charIndices, ih]

theorem snd_mem_of_mem_charIndices {i : Nat} {t : Text} {q : Nat × Char} (h : q ∈ charIndices i t) :
    q.2 ∈ t := by
  rw [← map_snd_charIndices i t]
  exact List.mem_map_of_mem h

/-- Where the run of word characters in front of the cursor starts. -/
def scanBack (front : Text) (cursor : Nat) : Nat :=
  (((charIndices 0 front).reverse.takeWhile fun q => isWordChar q.2).getLast?.map Prod.fst).getD
    cursor

/-- Where the run of word characters behind the cursor ends. -/
def scanForward (back : Text) (cursor stop : Nat) : Nat :=
  (((charIndices 0 back).find? fun q => !isWordChar q.2).map fun q => cursor + q.1).getD stop

theorem scanBack_eq (a w : Text) (hw : ∀ c ∈ w, isWordChar c = true)
    (ha : ∀ c ∈ a.getLast?, isWordChar c = false) :
    scanBack (a ++ w) (bytes (a ++ w)) = bytes a := by
  have hrun : ∀ q ∈ (charIndices (0 + bytes a) w).reverse, isWordChar q.2 = true :=
    fun q hq => hw q.2 (snd_mem_of_mem_charIndices (List.mem_reverse.mp hq))
  have hstop : ((charIndices 0 a).reverse.takeWhile fun q => isWordChar q.2) = [] := by
    -- the scan sees the last character of `a` first
    rcases List.eq_nil_or_concat a with rfl | ⟨a', c, hconcat⟩
    · rfl
    · rw [List.concat_eq_append] at hconcat
      have hc : isWordChar c = false := ha c (by rw [hconcat]; simp)
      rw [hconcat, charIndices_append, List.reverse_append, charIndices, charIndices]
      simp [hc]
  rw [scanBack, charIndices_append, List.reverse_append, List.takeWhile_append_of_pos hrun, hstop,
    List.append_nil, List.getLast?_reverse]
  cases w with
  | nil => rw [List.append_nil]; rfl
  | cons c w => rw [charIndices, Nat.zero_add]; rfl

theorem scanForward_eq (w b : Text) (cursor : Nat) (hw : ∀ c ∈ w, isWordChar c = true)
    (hb : ∀ c ∈ b.head?, isWordChar c = false) :
    scanForward (w ++ b) cursor (cursor + bytes (w ++ b)) = cursor + bytes w := by
  have hrun : ((charIndices 0 w).find? fun q => !isWordChar q.2) = none := by
    rw [List.find?_eq_none]
    intro q hq
    rw [hw q.2 (snd_mem_of_mem_charIndices hq)]
    decide
  rw [scanForward, charIndices_append, List.find?_append, hrun, Option.none_or, Nat.zero_add]
  cases b with
  | nil => rw [List.append_nil]; rfl
  | cons c b => rw [charIndices, List.find?_cons_of_pos (by rw [hb c rfl]; rfl)]; rfl

/-! ## The search -/

/-- The bytes at which a word starts, is touched and ends. -/
structure Span where
  start : Nat
  cursor : Nat
  stop : Nat

/-- The word around a column, as bytes. Nothing comes of it when a slice cannot be taken. -/
def span? (line : Text) (column : Nat) : Option Span := do
  let cursor := columnByte column 0 0 line
  let front ← slice? line 0 cursor
  let back ← slice? line cursor (bytes line)
  return ⟨scanBack front cursor, cursor, scanForward back cursor (bytes line)⟩

/-- The word at a column, cut out of the line. -/
def slicedWord? (line : Text) (column : Nat) : Option (Option Text) := do
  let s ← span? line column
  if s.start < s.stop then return some (← slice? line s.start s.stop) else return none

/-- The part of the word before a column, cut out of the line. -/
def slicedTyped? (line : Text) (column : Nat) : Option Text := do
  let s ← span? line column
  slice? line s.start s.cursor

/-- Both scans stop at the ends of the word around the column, and every slice is there. -/
theorem span?_eq (line : Text) (column : Nat) : ∃ s, span? line column = some s ∧
    s.cursor = byteOffset line column ∧
    slice? line s.start s.stop = some (wordAround line column) ∧
    slice? line s.start s.cursor = some (trailingWord (takeUnits column line)) ∧
    slice? line s.cursor s.stop = some (leadingWord (dropUnits column line)) := by
  obtain ⟨before, after, hline, hfront, hback, hstart, hstop⟩ := exists_around line column
  have hwhole := takeUnits_append_dropUnits column line
  have hbytes := byteOffset_add_bytes_dropUnits line column
  have hsliceBack : slice? line (byteOffset line column) (bytes line) =
      some (dropUnits column line) :=
    (slice?_eq_some_iff _ _ _ _).mpr
      ⟨takeUnits column line, [], by rw [hwhole, List.append_nil], rfl, by rw [hwhole]⟩
  have hleft : scanBack (takeUnits column line) (byteOffset line column) = bytes before := by
    have h := scanBack_eq before (trailingWord (takeUnits column line))
      (fun c => isWordChar_of_mem_trailingWord) hstart
    rwa [← hfront] at h
  have hright : scanForward (dropUnits column line) (byteOffset line column) (bytes line) =
      bytes (before ++ wordAround line column) := by
    have h := scanForward_eq (leadingWord (dropUnits column line)) after (byteOffset line column)
      (fun c => isWordChar_of_mem_leadingWord) hstop
    rw [← hback, hbytes] at h
    rw [h, wordAround, ← List.append_assoc, ← hfront, bytes_append]
    rfl
  refine ⟨⟨bytes before, byteOffset line column, bytes (before ++ wordAround line column)⟩, ?_, rfl,
    ?_, ?_, ?_⟩
  · simp only [span?, columnByte_zero, slice?_byteOffset, hsliceBack, Option.bind_eq_bind,
      Option.bind_some, hleft, hright, Option.pure_def]
  · exact (slice?_eq_some_iff _ _ _ _).mpr ⟨before, after, hline, rfl, rfl⟩
  · refine (slice?_eq_some_iff _ _ _ _).mpr ⟨before, dropUnits column line, ?_, rfl, ?_⟩
    · rw [← hfront, hwhole]
    · rw [← hfront]
      rfl
  · refine (slice?_eq_some_iff _ _ _ _).mpr ⟨takeUnits column line, after, ?_, rfl, ?_⟩
    · rw [List.append_assoc, ← hback, hwhole]
    · rw [wordAround, ← List.append_assoc, ← hfront]

theorem slicedTyped?_eq (line : Text) (column : Nat) :
    slicedTyped? line column = some (trailingWord (takeUnits column line)) := by
  obtain ⟨s, hs, -, -, htyped, -⟩ := span?_eq line column
  rw [slicedTyped?, hs, Option.bind_eq_bind, Option.bind_some, htyped]

theorem slicedWord?_eq (line : Text) (column : Nat) :
    slicedWord? line column = some (if wordAround line column = [] then none
      else some (wordAround line column)) := by
  obtain ⟨s, hs, -, hword, -, -⟩ := span?_eq line column
  have hempty : s.start < s.stop ↔ wordAround line column ≠ [] := by
    obtain ⟨a, b, -, hstart, hstop⟩ := (slice?_eq_some_iff _ _ _ _).mp hword
    rw [ne_eq, ← bytes_eq_zero_iff]
    grind
  simp only [slicedWord?, hs, Option.bind_eq_bind, Option.bind_some, hword, hempty,
    Option.pure_def]
  by_cases hnil : wordAround line column = []
  · simp [hnil]
  · simp [hnil]

/-- The word at a position, exactly: which word it is and when there is none, the part of it before
the position, the columns from which it is seen, and the slices by which it is found. -/
theorem word_at_position (t : Text) (p : Position) :
    (t.line? p.line = none → wordAt? t p = none ∧ typedAt t p = []) ∧
    ∀ line, t.line? p.line = some line →
      (∀ w, wordAt? t p = some w ↔ ∃ before after, MaximalWord line before w after ∧
        Touches before w (byteOffset line p.character)) ∧
      (∀ before w after before' w' after', MaximalWord line before w after →
        MaximalWord line before' w' after' → Touches before w (byteOffset line p.character) →
        Touches before' w' (byteOffset line p.character) →
        before = before' ∧ w = w' ∧ after = after') ∧
      (wordAt? t p = none ↔
        ∀ c, Beside line (byteOffset line p.character) c → isWordChar c = false) ∧
      (EndsAt line (byteOffset line p.character) (typedAt t p) ∧
        ∀ run, EndsAt line (byteOffset line p.character) run → run <:+ typedAt t p) ∧
      (∀ w, wordAt? t p = some w → ∃ rest, w = typedAt t p ++ rest) ∧
      (wordAt? t p = none → typedAt t p = []) ∧
      (∀ before w after, MaximalWord line before w after → units before ≤ p.character →
        p.character ≤ units (before ++ w) → wordAt? t p = some w) ∧
      (slicedWord? line p.character = some (wordAt? t p) ∧
        slicedTyped? line p.character = some (typedAt t p) ∧
        ∃ s, span? line p.character = some s ∧ s.cursor = byteOffset line p.character ∧
          s.start ≤ s.cursor ∧ s.cursor ≤ s.stop ∧
          Boundary line s.start ∧ Boundary line s.cursor ∧ Boundary line s.stop) := by
  constructor
  · intro h
    exact ⟨by rw [wordAt?, h]; rfl, by rw [typedAt, h]⟩
  · intro line h
    refine ⟨wordAt?_eq_some_iff h, ?_, wordAt?_eq_none_iff h,
      ⟨endsAt_typedAt h, fun run => suffix_typedAt h⟩, ?_, typedAt_eq_nil h, ?_, ?_, ?_, ?_⟩
    · intro before w after before' w' after' hmax hmax' htouch htouch'
      exact hmax.unique hmax' htouch htouch'
    · intro w hw
      obtain ⟨rest, hrest⟩ := typedAt_isPrefix h hw
      exact ⟨rest, hrest.symm⟩
    · intro before w after hmax hstart hstop
      exact wordAt?_of_units h hmax hstart hstop
    · rw [slicedWord?_eq, wordAt?_of_line h]
    · rw [slicedTyped?_eq, typedAt_of_line h]
    · obtain ⟨s, hs, hcursor, hword, htyped, hrest⟩ := span?_eq line p.character
      obtain ⟨hfirst, hstart, hat⟩ := boundary_of_slice? htyped
      obtain ⟨hlast, -, hstop⟩ := boundary_of_slice? hrest
      exact ⟨s, hs, hcursor, hfirst, hlast, hstart, hat, hstop⟩

/-- A column between the two units of a letter, a column between two marks, and a missing line. -/
theorem word_at_position_surrogates :
    let t : Text := "OUT\né 𝒳y(;".toList
    let line : Text := "é 𝒳y(;".toList
    let word : Text := "𝒳y".toList
    t.line? 1 = some line ∧ t.line? 2 = none ∧
    MaximalWord line "é ".toList word "(;".toList ∧
    units "é ".toList ≤ 3 ∧ 3 ≤ units ("é ".toList ++ word) ∧
    Touches "é ".toList word (byteOffset line 3) ∧
    wordAt? t ⟨1, 3⟩ = some word ∧ EndsAt line (byteOffset line 3) "𝒳".toList ∧
    "𝒳".toList <:+ typedAt t ⟨1, 3⟩ ∧
    wordAt? t ⟨1, 6⟩ = none ∧ typedAt t ⟨1, 6⟩ = [] ∧
    wordAt? t ⟨2, 0⟩ = none := by
  intro t line word
  have hline : t.line? 1 = some line := by decide
  have hmissing : t.line? 2 = none := by decide
  have hinside : word.all isWordChar = true := by decide +kernel
  have hbefore : trailingWord "é ".toList = [] := by decide +kernel
  have hafter : leadingWord "(;".toList = [] := by decide +kernel
  have hmax : MaximalWord line "é ".toList word "(;".toList :=
    ⟨by decide, by decide, List.all_eq_true.mp hinside, (trailingWord_eq_nil_iff _).mp hbefore,
      (leadingWord_eq_nil_iff _).mp hafter⟩
  have hstart : units "é ".toList ≤ 3 := by decide
  have hstop : 3 ≤ units ("é ".toList ++ word) := by decide
  have htouch : Touches "é ".toList word (byteOffset line 3) := ⟨by decide, by decide⟩
  have hletter : "𝒳".toList.all isWordChar = true := by decide +kernel
  have hrun : EndsAt line (byteOffset line 3) "𝒳".toList :=
    ⟨"é ".toList, "y(;".toList, by decide, by decide, List.all_eq_true.mp hletter⟩
  have hnone : wordAt? t ⟨1, 6⟩ = none := by decide +kernel
  obtain ⟨-, -, -, ⟨-, hlongest⟩, -, -, hcolumns, -⟩ := (word_at_position t ⟨1, 3⟩).2 line hline
  obtain ⟨-, -, -, -, -, hnothing, -, -⟩ := (word_at_position t ⟨1, 6⟩).2 line hline
  exact ⟨hline, hmissing, hmax, hstart, hstop, htouch, hcolumns _ _ _ hmax hstart hstop, hrun,
    hlongest _ hrun, hnone, hnothing hnone, ((word_at_position t ⟨2, 0⟩).1 hmissing).1⟩

end ZLang.Text
