import ZLang.Proofs.Json.Grammar

/-!
The reader accepts every JSON text and gives the value it means. The induction follows the grammar;
each part is read in front of an arbitrary rest, with any fuel that its length allows.
-/
set_option autoImplicit false

namespace ZLang.Json

/-! ## What may follow a value -/

theorem endsNumber_nil : EndsNumber [] := by
  intro c hc
  cases hc

theorem endsNumber_cons {c : Char} (hc : c.isDigit = false ∧ c ≠ '.' ∧ c ≠ 'e' ∧ c ≠ 'E')
    (t : Text) : EndsNumber (c :: t) := by
  intro x hx
  cases hx
  exact hc

theorem endsNumber_spaces {a t : Text} (ha : Spaces a) (ht : EndsNumber t) :
    EndsNumber (a ++ t) := by
  cases a with
  | nil => exact ht
  | cons x a =>
    apply endsNumber_cons
    rcases ha x List.mem_cons_self with rfl | rfl | rfl | rfl <;> decide

/-! ## How values start -/

/-- A numeral starts with a sign or a digit, so it is taken for nothing else. -/
theorem Numeral.head {n : Number} {t : Text} (h : Numeral n t) :
    ∃ c r, t = c :: r ∧ (c = '-' ∨ c.isDigit = true) := by
  cases h with
  | @mk negative _ _ _ w f e hw hf he =>
    cases negative with
    | true => exact ⟨'-', w ++ (f ++ e), rfl, .inl rfl⟩
    | false =>
      obtain ⟨c, w', rfl, hc⟩ := hw.digits.head
      exact ⟨c, w' ++ (f ++ e), rfl, .inr hc⟩

theorem ne_of_numeral {c x : Char} (h : c = '-' ∨ c.isDigit = true)
    (hx : x ≠ '-' ∧ x.isDigit = false) : c ≠ x := by
  rintro rfl
  rcases h with h | h
  · exact hx.1 h
  · rw [h] at hx
    cases hx.2

theorem Written.head {v : Value} {t : Text} (h : Written v t) :
    ∃ c r, t = c :: r ∧ isSpace c = false ∧ c ≠ ']' := by
  cases h with
  | number h =>
    obtain ⟨c, r, rfl, hc⟩ := h.head
    refine ⟨c, r, rfl, ?_, ne_of_numeral hc (by decide)⟩
    rw [Bool.eq_false_iff, ne_eq, isSpace_iff]
    rintro (rfl | rfl | rfl | rfl) <;> revert hc <;> decide
  | null | isTrue | isFalse => exact ⟨_, _, rfl, by decide, by decide⟩
  | string h | emptyArray ha | array h | emptyObject ha | object h =>
    exact ⟨_, _, rfl, by decide, by decide⟩

theorem Written.skipSpace_append {v : Value} {a t : Text} (ha : Spaces a) (h : Written v t)
    (r : Text) : skipSpace (a ++ (t ++ r)) = t ++ r := by
  obtain ⟨c, s, rfl, hc, -⟩ := h.head
  exact skipSpace_append_cons ha hc _

theorem WrittenItems.skipSpace_append {vs : List Value} {t : Text} (h : WrittenItems vs t)
    (r : Text) : ∃ c s, skipSpace (t ++ r) = c :: s ∧ c ≠ ']' := by
  cases h with
  | @last v a t b ha hv hb =>
    obtain ⟨c, s, rfl, -, hc⟩ := hv.head
    rw [List.append_assoc, List.append_assoc, hv.skipSpace_append ha]
    exact ⟨c, s ++ (b ++ r), rfl, hc⟩
  | @more v vs a t b u ha hv hb hr =>
    obtain ⟨c, s, rfl, -, hc⟩ := hv.head
    rw [List.append_assoc, List.append_assoc, hv.skipSpace_append ha]
    exact ⟨c, s ++ (b ++ ',' :: u ++ r), rfl, hc⟩

theorem WrittenMembers.skipSpace_append {ms : List (Text × Value)} {t : Text}
    (h : WrittenMembers ms t) (r : Text) : ∃ s, skipSpace (t ++ r) = '"' :: s := by
  cases h with
  | last ha | more ha =>
    rw [List.append_assoc]
    exact ⟨_, skipSpace_append_cons ha (by decide) _⟩

/-! ## One step of each reader -/

section Steps

variable {v : Value} {k s t a b rest : Text} {n : Nat}

theorem readNumber_value {m : Number} (h : Numeral m t) (hrest : EndsNumber rest) :
    readValue (n + 1) (t ++ rest) = some (.number m, rest) := by
  have hread := readNumber_append h hrest
  obtain ⟨c, r, rfl, hc⟩ := h.head
  have h1 : c ≠ '"' := ne_of_numeral hc (by decide)
  have h2 : c ≠ '[' := ne_of_numeral hc (by decide)
  have h3 : c ≠ '{' := ne_of_numeral hc (by decide)
  have h4 : c ≠ 'n' := ne_of_numeral hc (by decide)
  have h5 : c ≠ 't' := ne_of_numeral hc (by decide)
  have h6 : c ≠ 'f' := ne_of_numeral hc (by decide)
  rw [List.cons_append] at hread ⊢
  simp [readValue, h1, h2, h3, h4, h5, h6, hread]

theorem readString_value (h : Inside s t) :
    readValue (n + 1) ('"' :: (t ++ ['"']) ++ rest) = some (.string s, rest) := by
  have hread := readString_inside h rest ((t ++ '"' :: rest).length + 1)
    (by rw [List.length_append]; omega)
  rw [List.cons_append, List.append_assoc, List.singleton_append]
  simp only [readValue, beq_self_eq_true, if_true, hread, Option.map_some]

theorem readArray_value {vs : List Value} (h : WrittenItems vs t)
    (hitems : readItems n (skipSpace (t ++ ']' :: rest)) = some (vs, rest)) :
    readValue (n + 1) ('[' :: (t ++ [']']) ++ rest) = some (.array vs, rest) := by
  obtain ⟨c, r, hskip, hc⟩ := h.skipSpace_append (']' :: rest)
  rw [hskip] at hitems
  rw [List.cons_append, List.append_assoc, List.singleton_append]
  simp [readValue, hskip, hitems, hc]

theorem readObject_value {ms : List (Text × Value)} (h : WrittenMembers ms t)
    (hmembers : readMembers n (skipSpace (t ++ '}' :: rest)) = some (ms, rest)) :
    readValue (n + 1) ('{' :: (t ++ ['}']) ++ rest) = some (.object ms, rest) := by
  obtain ⟨r, hskip⟩ := h.skipSpace_append ('}' :: rest)
  rw [hskip] at hmembers
  rw [List.cons_append, List.append_assoc, List.singleton_append]
  simp [readValue, hskip, hmembers]

theorem readItems_last (hb : Spaces b) (hv : readValue n t = some (v, b ++ ']' :: rest)) :
    readItems (n + 1) t = some ([v], rest) := by
  have hskip := skipSpace_append_cons hb (c := ']') (by decide) rest
  simp [readItems, hv, hskip]

theorem readItems_more {vs : List Value} {u : Text} (hb : Spaces b)
    (hv : readValue n t = some (v, b ++ ',' :: u))
    (hu : readItems n (skipSpace u) = some (vs, rest)) :
    readItems (n + 1) t = some (v :: vs, rest) := by
  have hskip := skipSpace_append_cons hb (c := ',') (by decide) u
  simp [readItems, hv, hskip, hu]

/-- The key of a member and its colon, up to the value. -/
theorem readKey (hk : Inside k s) (hb : Spaces b) {c u : Text} (hc : Spaces c) (hv : Written v t) :
    readString ((s ++ '"' :: (b ++ ':' :: (c ++ (t ++ u)))).length + 1)
        (s ++ '"' :: (b ++ ':' :: (c ++ (t ++ u)))) = some (k, b ++ ':' :: (c ++ (t ++ u))) ∧
      readColon (b ++ ':' :: (c ++ (t ++ u))) = some (t ++ u) := by
  constructor
  · exact readString_inside hk _ _ (by rw [List.length_append]; omega)
  · have hskip := skipSpace_append_cons hb (c := ':') (by decide) (c ++ (t ++ u))
    simp [readColon, hskip, hv.skipSpace_append hc]

theorem readMembers_last (hk : Inside k s) (hb : Spaces b) {c d : Text} (hc : Spaces c)
    (ht : Written v t) (hd : Spaces d)
    (hv : readValue n (t ++ (d ++ '}' :: rest)) = some (v, d ++ '}' :: rest)) :
    readMembers (n + 1) ('"' :: (s ++ '"' :: (b ++ ':' :: (c ++ (t ++ (d ++ '}' :: rest)))))) =
      some ([(k, v)], rest) := by
  obtain ⟨hkey, hcolon⟩ := readKey (u := d ++ '}' :: rest) hk hb hc ht
  have hskip := skipSpace_append_cons hd (c := '}') (by decide) rest
  simp only [readMembers, beq_self_eq_true, if_true, hkey, hcolon, hv, hskip,
    Option.bind_eq_bind, Option.bind_some, Option.pure_def]

theorem readMembers_more {ms : List (Text × Value)} (hk : Inside k s) (hb : Spaces b)
    {c d u : Text} (hc : Spaces c) (ht : Written v t) (hd : Spaces d)
    (hv : readValue n (t ++ (d ++ ',' :: u)) = some (v, d ++ ',' :: u))
    (hu : readMembers n (skipSpace u) = some (ms, rest)) :
    readMembers (n + 1) ('"' :: (s ++ '"' :: (b ++ ':' :: (c ++ (t ++ (d ++ ',' :: u)))))) =
      some ((k, v) :: ms, rest) := by
  obtain ⟨hkey, hcolon⟩ := readKey (u := d ++ ',' :: u) hk hb hc ht
  have hskip := skipSpace_append_cons hd (c := ',') (by decide) u
  simp only [readMembers, beq_self_eq_true, if_true, hkey, hcolon, hv, hskip, hu,
    Option.bind_eq_bind, Option.bind_some, Option.pure_def]

end Steps

/-! ## Values -/

-- A list takes one unit of fuel besides those of its values, and a value one besides those of its
-- list: the brackets and commas, at two units for each character, pay for both.
mutual

theorem readValue_append {v : Value} {t : Text} (h : Written v t) (rest : Text) (fuel : Nat)
    (hrest : EndsNumber rest) (hfuel : 2 * t.length ≤ fuel) :
    readValue fuel (t ++ rest) = some (v, rest) := by
  obtain ⟨n, rfl⟩ : ∃ n, fuel = n + 1 := by
    obtain ⟨c, r, rfl, -, -⟩ := h.head
    rw [List.length_cons] at hfuel
    exact ⟨fuel - 1, by omega⟩
  match h with
  | .null => simp [readValue, readWord]
  | .isTrue => simp [readValue, readWord]
  | .isFalse => simp [readValue, readWord]
  | .number h => exact readNumber_value h hrest
  | .string h => exact readString_value h
  | .emptyArray ha =>
    have hskip := skipSpace_append_cons ha (c := ']') (by decide) rest
    simp [readValue, hskip]
  | .emptyObject ha =>
    have hskip := skipSpace_append_cons ha (c := '}') (by decide) rest
    simp [readValue, hskip]
  | .array h =>
    rw [List.length_cons, List.length_append, List.length_singleton] at hfuel
    exact readArray_value h (readItems_append h rest n (by omega))
  | .object h =>
    rw [List.length_cons, List.length_append, List.length_singleton] at hfuel
    exact readObject_value h (readMembers_append h rest n (by omega))

theorem readItems_append {vs : List Value} {t : Text} (h : WrittenItems vs t) (rest : Text)
    (fuel : Nat) (hfuel : 2 * t.length + 1 ≤ fuel) :
    readItems fuel (skipSpace (t ++ ']' :: rest)) = some (vs, rest) := by
  obtain ⟨n, rfl⟩ : ∃ n, fuel = n + 1 := ⟨fuel - 1, by omega⟩
  match h with
  | .last ha hv hb =>
    simp only [List.length_append] at hfuel
    rw [List.append_assoc, List.append_assoc, hv.skipSpace_append ha]
    exact readItems_last hb
      (readValue_append hv _ n (endsNumber_spaces hb (endsNumber_cons (by decide) rest)) (by omega))
  | .more ha hv hb hr =>
    simp only [List.length_append, List.length_cons] at hfuel
    rw [List.append_assoc, List.append_assoc, hv.skipSpace_append ha, List.append_assoc,
      List.cons_append]
    exact readItems_more hb
      (readValue_append hv _ n (endsNumber_spaces hb (endsNumber_cons (by decide) _)) (by omega))
      (readItems_append hr rest n (by omega))

theorem readMembers_append {ms : List (Text × Value)} {t : Text} (h : WrittenMembers ms t)
    (rest : Text) (fuel : Nat) (hfuel : 2 * t.length + 1 ≤ fuel) :
    readMembers fuel (skipSpace (t ++ '}' :: rest)) = some (ms, rest) := by
  obtain ⟨n, rfl⟩ : ∃ n, fuel = n + 1 := ⟨fuel - 1, by omega⟩
  match h with
  | .last ha hk hb hc hv hd =>
    simp only [List.length_append, List.length_cons] at hfuel
    simp only [List.append_assoc, List.cons_append]
    rw [skipSpace_append_cons ha (by decide)]
    exact readMembers_last hk hb hc hv hd
      (readValue_append hv _ n (endsNumber_spaces hd (endsNumber_cons (by decide) rest)) (by omega))
  | .more ha hk hb hc hv hd hr =>
    simp only [List.length_append, List.length_cons] at hfuel
    simp only [List.append_assoc, List.cons_append]
    rw [skipSpace_append_cons ha (by decide)]
    exact readMembers_more hk hb hc hv hd
      (readValue_append hv _ n (endsNumber_spaces hd (endsNumber_cons (by decide) _)) (by omega))
      (readMembers_append hr rest n (by omega))

end

/-- A JSON text is read as the value it means. -/
theorem parse_of_wellformed {v : Value} {t : Text} (h : Wellformed v t) :
    Value.parse t = some v := by
  obtain ⟨a, s, b, rfl, ha, hv, hb⟩ := h
  have hend : EndsNumber b := by
    have h := endsNumber_spaces hb endsNumber_nil
    rwa [List.append_nil] at h
  have hskip : skipSpace b = [] := by
    have h := skipSpace_append hb []
    rwa [List.append_nil] at h
  unfold Value.parse
  rw [hv.skipSpace_append ha,
    readValue_append hv b _ hend (by simp only [List.length_append]; omega)]
  simp [hskip]

end ZLang.Json
