import ZLang.Json.Printer
import ZLang.Proofs.Json.Reading

/-!
The printer writes JSON: in a layout whose blanks are blanks, the text of a value is derived from
that value by the grammar. With the reader's half, printing is undone by reading, and two values of
one text are the same.
-/
set_option autoImplicit false

namespace ZLang.Json

/-! ## Layouts -/

/-- A layout that puts nothing but blanks between tokens. -/
structure Layout.Blank (l : Layout) : Prop where
  lineBreak : ∀ depth, Spaces (l.lineBreak depth)
  afterColon : Spaces l.afterColon

theorem spaces_nil : Spaces [] := by
  intro c hc
  cases hc

/-- A layout of spaces and line feeds only. -/
structure Layout.Plain (l : Layout) : Prop where
  lineBreak : ∀ depth, ∀ c ∈ l.lineBreak depth, c = ' ' ∨ c = '\n'
  afterColon : ∀ c ∈ l.afterColon, c = ' ' ∨ c = '\n'

theorem Layout.plain_compact : Layout.compact.Plain := ⟨nofun, nofun⟩

theorem Layout.plain_pretty : Layout.pretty.Plain := by
  constructor
  · intro depth c hc
    rcases List.mem_cons.mp hc with rfl | hc
    · exact .inr rfl
    · exact .inl (List.eq_of_mem_replicate hc)
  · intro c hc
    exact .inl (List.mem_singleton.mp hc)

theorem Layout.Plain.blank {l : Layout} (h : l.Plain) : l.Blank := by
  constructor
  · intro depth c hc
    exact (h.lineBreak depth c hc).imp_right .inl
  · intro c hc
    exact (h.afterColon c hc).imp_right .inl

/-! ## Numbers -/

theorem digits_toDigits (n : Nat) : Digits (Nat.toDigits 10 n) :=
  ⟨Nat.toDigits_ne_nil, fun _ hc => Nat.isDigit_of_mem_toDigits (by decide) (by decide) hc⟩

/-- Only zero itself is written with a zero in front. -/
theorem head_toDigits (n : Nat) : (Nat.toDigits 10 n).head? = some '0' → n = 0 := by
  induction n using Nat.strongRecOn with
  | ind n ih =>
    by_cases hn : n < 10
    · rw [Nat.toDigits_of_lt_base hn]
      simp
    · have hprev := ih (n / 10) (by omega)
      obtain ⟨c, r, hr, -⟩ := (digits_toDigits (n / 10)).head
      rw [Nat.toDigits_of_base_le (by decide) (by omega), hr, List.cons_append]
      rw [hr] at hprev
      intro h
      have hzero := hprev h
      omega

theorem whole_toDigits (n : Nat) : Whole n (Nat.toDigits 10 n) where
  digits := digits_toDigits n
  leading h := by
    rw [head_toDigits n h]
    rfl
  value := Nat.ofDigitChars_ten_toDigits

theorem Digit.ofChar_char (d : Digit) : Digit.ofChar d.char = d ∧ d.char.isDigit = true := by
  revert d
  decide

theorem fraction_text (ds : List Digit) : Fraction ds (Number.fractionText ds) := by
  cases ds with
  | nil => exact .absent
  | cons d ds =>
    have hdigits : Digits ((d :: ds).map Digit.char) := by
      refine ⟨by simp, fun c hc => ?_⟩
      obtain ⟨x, -, rfl⟩ := List.mem_map.mp hc
      exact (Digit.ofChar_char x).2
    have hback : ((d :: ds).map Digit.char).map Digit.ofChar = d :: ds := by
      rw [List.map_map]
      exact List.map_id'' (fun x => (Digit.ofChar_char x).1) _
    have h := Fraction.present hdigits
    rwa [hback] at h

theorem exponent_text (e : Option Int) : Exponent e (Number.exponentText e) := by
  cases e with
  | none => exact .absent
  | some e =>
    have hdigits := digits_toDigits e.natAbs
    by_cases he : e < 0
    · have h := Exponent.present (.inl rfl) .minus hdigits
      rw [Nat.ofDigitChars_ten_toDigits, if_pos rfl, show -(e.natAbs : Int) = e by omega] at h
      rw [Number.exponentText, if_pos he]
      exact h
    · have h := Exponent.present (.inl rfl) .plus hdigits
      rw [Nat.ofDigitChars_ten_toDigits, if_neg Bool.false_ne_true,
        show (e.natAbs : Int) = e by omega] at h
      rw [Number.exponentText, if_neg he]
      exact h

theorem numeral_text (n : Number) : Numeral n n.text := by
  unfold Number.text
  rw [List.append_assoc, List.append_assoc]
  exact .mk (whole_toDigits _) (fraction_text _) (exponent_text _)

/-! ## Strings -/

theorem hexDigit?_digitChar {n : Nat} (h : n < 16) :
    Text.hexDigit? (Nat.digitChar n) = some n := by
  revert n
  decide

theorem hex4_control {n : Nat} (h : n < 0x20) :
    Hex4 n ['0', '0', Nat.digitChar (n / 16), Nat.digitChar (n % 16)] := by
  have h0 : Text.hexDigit? '0' = some 0 := rfl
  have hunit := Hex4.mk h0 h0 (hexDigit?_digitChar (n := n / 16) (by omega))
    (hexDigit?_digitChar (n := n % 16) (by omega))
  rwa [show ((0 * 16 + 0) * 16 + n / 16) * 16 + n % 16 = n by omega] at hunit

/-- Every character has one of the spellings of the grammar, control characters included. -/
theorem spelled_escape (c : Char) : Spelled c (escape c) := by
  unfold escape
  iterate 7
    split
    · next h => rw [eq_of_beq h]; exact .short (by decide)
  split
  · next h => exact .unit (hex4_control h)
  · next hquote hslash _ _ _ _ _ h =>
    exact .plain (by omega) (by simpa using hquote) (by simpa using hslash)

theorem inside_escape (s : Text) : Inside s (s.flatMap escape) := by
  induction s with
  | nil => exact .nil
  | cons c s ih =>
    rw [List.flatMap_cons]
    exact .cons (spelled_escape c) ih

/-! ## Values -/

section Values

variable {l : Layout}

mutual

theorem written_render (hl : l.Blank) (depth : Nat) (v : Value) : Written v (v.render l depth) := by
  match v with
  | .null => exact .null
  | .bool true => exact .isTrue
  | .bool false => exact .isFalse
  | .number n => exact .number (numeral_text n)
  | .string s => exact .string (inside_escape s)
  | .array [] => exact .emptyArray spaces_nil
  | .object [] => exact .emptyObject spaces_nil
  | .array (v :: r) =>
    have h := Written.array (writtenItems_render hl depth (written_render hl (depth + 1) v) r)
    simpa only [Value.render, List.append_assoc] using h
  | .object ((k, v) :: r) =>
    have h := Written.object
      (writtenMembers_render hl depth k (written_render hl (depth + 1) v) r)
    simpa only [Value.render, quote, List.append_assoc, List.cons_append, List.nil_append] using h

-- The first item comes with its text, so the recursion is on the items behind it alone.
theorem writtenItems_render (hl : l.Blank) (depth : Nat) {v : Value} {t : Text} (hv : Written v t)
    (r : List Value) :
    WrittenItems (v :: r)
      (l.lineBreak (depth + 1) ++ (t ++ (Value.renderItems l depth r ++ l.lineBreak depth))) := by
  match r with
  | [] => exact .last (hl.lineBreak _) hv (hl.lineBreak _)
  | w :: r =>
    have hrest := writtenItems_render hl depth (written_render hl (depth + 1) w) r
    have h := WrittenItems.more (hl.lineBreak (depth + 1)) hv spaces_nil hrest
    simpa only [Value.renderItems, List.append_assoc, List.cons_append, List.nil_append] using h

theorem writtenMembers_render (hl : l.Blank) (depth : Nat) (k : Text) {v : Value} {t : Text}
    (hv : Written v t) (r : List (Text × Value)) :
    WrittenMembers ((k, v) :: r)
      (l.lineBreak (depth + 1) ++ (quote k ++ ':' :: (l.afterColon ++
        (t ++ (Value.renderMembers l depth r ++ l.lineBreak depth))))) := by
  match r with
  | [] =>
    have h := WrittenMembers.last (hl.lineBreak (depth + 1)) (inside_escape k) spaces_nil
      hl.afterColon hv (hl.lineBreak depth)
    simpa only [Value.renderMembers, quote, List.append_assoc, List.cons_append, List.nil_append]
      using h
  | (k', w) :: r =>
    have hrest := writtenMembers_render hl depth k' (written_render hl (depth + 1) w) r
    have h := WrittenMembers.more (hl.lineBreak (depth + 1)) (inside_escape k) spaces_nil
      hl.afterColon hv spaces_nil hrest
    simpa only [Value.renderMembers, quote, List.append_assoc, List.cons_append, List.nil_append]
      using h

end

/-- Printing gives a JSON text for the value. -/
theorem wellformed_print (hl : l.Blank) (v : Value) : Wellformed v (v.print l) := by
  refine ⟨[], v.render l 0, [], ?_, spaces_nil, written_render hl 0 v, spaces_nil⟩
  rw [List.append_nil]
  rfl

theorem parse_print (hl : l.Blank) (v : Value) : Value.parse (v.print l) = some v :=
  parse_of_wellformed (wellformed_print hl v)

end Values

end ZLang.Json
