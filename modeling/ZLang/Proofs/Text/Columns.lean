import ZLang.Text.Basic

/-!
Columns and bytes of a line. A beginning of a line is known by its number of bytes, so places in a
line can be compared by bytes. A column that lies in a part of the line cuts that part, also when it
lies between the two units of a character; and it cuts the line at the first place that has as many
units before it.
-/
set_option autoImplicit false

namespace ZLang.Text

/-! ## Bytes -/

@[simp] theorem bytes_eq_zero_iff (t : Text) : bytes t = 0 ↔ t = [] := by
  cases t with
  | nil => simp
  | cons c t =>
    have hc := c.utf8Size_pos
    grind

theorem bytes_le_of_isPrefix {a x : Text} (h : a <+: x) : bytes a ≤ bytes x := by
  obtain ⟨r, rfl⟩ := h
  simp

/-- Of two beginnings of a line, the one with fewer bytes is a beginning of the other. -/
theorem prefix_of_bytes_le {a x line : Text} (ha : a <+: line) (hx : x <+: line)
    (h : bytes a ≤ bytes x) : a <+: x := by
  rcases List.prefix_or_prefix_of_prefix ha hx with hax | ⟨r, rfl⟩
  · exact hax
  · have hr : r = [] := by grind [bytes_eq_zero_iff]
    simp [hr]

theorem eq_of_bytes_eq {a x line : Text} (ha : a <+: line) (hx : x <+: line)
    (h : bytes a = bytes x) : a = x := by
  have hax := prefix_of_bytes_le ha hx (Nat.le_of_eq h)
  have hxa := prefix_of_bytes_le hx ha (Nat.le_of_eq h.symm)
  exact hax.eq_of_length_le hxa.length_le

theorem bytes_eq_length {t : Text} (h : ∀ c ∈ t, c.utf8Size = 1) : bytes t = t.length := by
  induction t with
  | nil => rfl
  | cons c t ih =>
    have hc := h c List.mem_cons_self
    have ht := ih fun x hx => h x (List.mem_cons_of_mem c hx)
    simp [hc, ht, Nat.add_comm]

theorem bytes_replicate {c : Char} (hc : c.utf8Size = 1) (n : Nat) :
    bytes (List.replicate n c) = n := by
  rw [bytes_eq_length, List.length_replicate]
  intro x hx
  rw [List.eq_of_mem_replicate hx, hc]

/-! ## Slices -/

theorem splitBytes?_append (a b : Text) : splitBytes? (bytes a) (a ++ b) = some (a, b) := by
  induction a with
  | nil => cases b <;> rfl
  | cons c a ih =>
    have hc := c.utf8Size_pos
    obtain ⟨n, hn⟩ : ∃ n, c.utf8Size + bytes a = n + 1 := ⟨c.utf8Size + bytes a - 1, by omega⟩
    have hrest : n + 1 - c.utf8Size = bytes a := by omega
    rw [bytes_cons, hn, List.cons_append, splitBytes?, if_pos (by omega), hrest]
    simp [ih]

theorem of_splitBytes? {n : Nat} {t a b : Text} (h : splitBytes? n t = some (a, b)) :
    t = a ++ b ∧ bytes a = n := by
  induction t generalizing n a with
  | nil =>
    cases n with
    | zero =>
      cases h
      exact ⟨rfl, rfl⟩
    | succ n => cases h
  | cons c t ih =>
    cases n with
    | zero =>
      cases h
      exact ⟨rfl, rfl⟩
    | succ n =>
      rw [splitBytes?] at h
      split at h
      · next hfits =>
        obtain ⟨⟨a', b'⟩, hsplit, hparts⟩ := Option.map_eq_some_iff.mp h
        cases hparts
        obtain ⟨rfl, ha⟩ := ih hsplit
        exact ⟨rfl, by grind⟩
      · cases h

theorem slice?_eq_some_iff (t : Text) (start stop : Nat) (w : Text) :
    slice? t start stop = some w ↔
      ∃ a b, t = a ++ w ++ b ∧ bytes a = start ∧ bytes (a ++ w) = stop := by
  constructor
  · intro h
    rw [slice?] at h
    split at h
    · next hle =>
      obtain ⟨⟨a, r⟩, hfront, hback⟩ := Option.bind_eq_some_iff.mp h
      obtain ⟨⟨v, b⟩, hmiddle, rfl⟩ := Option.map_eq_some_iff.mp hback
      obtain ⟨rfl, ha⟩ := of_splitBytes? hfront
      obtain ⟨rfl, hv⟩ := of_splitBytes? hmiddle
      exact ⟨a, b, by simp, ha, by grind⟩
    · cases h
  · rintro ⟨a, b, rfl, rfl, rfl⟩
    simp [slice?, splitBytes?_append]

theorem slice?_zero_eq_some_iff (t p : Text) (b : Nat) :
    slice? t 0 b = some p ↔ p <+: t ∧ bytes p = b := by
  rw [slice?_eq_some_iff]
  constructor
  · rintro ⟨a, r, rfl, ha, hb⟩
    rw [(bytes_eq_zero_iff a).mp ha] at hb ⊢
    exact ⟨⟨r, rfl⟩, hb⟩
  · rintro ⟨⟨r, rfl⟩, hb⟩
    exact ⟨[], r, rfl, rfl, hb⟩

/-! ## Units -/

theorem charUnits_pos (c : Char) : 0 < charUnits c := by
  rw [charUnits]
  split <;> omega

theorem charUnits_le_two (c : Char) : charUnits c ≤ 2 := by
  rw [charUnits]
  split <;> omega

theorem takeUnits_isPrefix (column : Nat) (t : Text) : takeUnits column t <+: t :=
  ⟨dropUnits column t, takeUnits_append_dropUnits column t⟩

/-- A column at the end of a part of the line or behind it. -/
theorem takeUnits_append_of_le (a t : Text) (column : Nat) (h : units a ≤ column) :
    takeUnits column (a ++ t) = a ++ takeUnits (column - units a) t := by
  induction a generalizing column with
  | nil => rfl
  | cons c a ih =>
    have hc := charUnits_pos c
    rw [units_cons] at h
    obtain ⟨n, rfl⟩ : ∃ n, column = n + 1 := ⟨column - 1, by omega⟩
    rw [List.cons_append, takeUnits, ih _ (by omega), units_cons, Nat.sub_add_eq,
      List.cons_append]

/-- A column within a part of the line or at its end. -/
theorem takeUnits_append_of_ge (w t : Text) (column : Nat) (h : column ≤ units w) :
    takeUnits column (w ++ t) = takeUnits column w := by
  induction w generalizing column with
  | nil =>
    have hzero : column = 0 := by simpa using h
    simp [hzero]
  | cons c w ih =>
    cases column with
    | zero => simp
    | succ n =>
      rw [units_cons] at h
      rw [List.cons_append, takeUnits, takeUnits, ih _ (by omega)]

@[simp] theorem takeUnits_cons_add (c : Char) (t : Text) (n : Nat) :
    takeUnits (charUnits c + n) (c :: t) = c :: takeUnits n t := by
  have hc := charUnits_pos c
  obtain ⟨m, hm⟩ : ∃ m, charUnits c + n = m + 1 := ⟨charUnits c + n - 1, by omega⟩
  have hrest : m + 1 - charUnits c = n := by omega
  rw [hm, takeUnits, hrest]

@[simp] theorem takeUnits_units_append (a t : Text) : takeUnits (units a) (a ++ t) = a := by
  simp [takeUnits_append_of_le a t _ (Nat.le_refl _)]

theorem takeUnits_eq_self {t : Text} {column : Nat} (h : units t ≤ column) :
    takeUnits column t = t := by
  simpa using takeUnits_append_of_le t [] column h

theorem le_units_takeUnits {t : Text} {column : Nat} (h : column ≤ units t) :
    column ≤ units (takeUnits column t) := by
  induction t generalizing column with
  | nil => simpa using h
  | cons c t ih =>
    cases column with
    | zero => simp
    | succ n =>
      rw [units_cons] at h
      have hrest : n + 1 - charUnits c ≤ units (takeUnits (n + 1 - charUnits c) t) := ih (by omega)
      rw [takeUnits, units_cons]
      omega

/-- No beginning of a line with as many units is shorter. -/
theorem takeUnits_isPrefix_of_le {p t : Text} {column : Nat} (hp : p <+: t)
    (h : column ≤ units p) : takeUnits column t <+: p := by
  obtain ⟨r, rfl⟩ := hp
  rw [takeUnits_append_of_ge p r column h]
  exact takeUnits_isPrefix column p

theorem takeUnits_mono {t : Text} {column column' : Nat} (h : column ≤ column') :
    takeUnits column t <+: takeUnits column' t := by
  rcases Nat.le_total column' (units t) with hle | hge
  · have hunits : column ≤ units (takeUnits column' t) := Nat.le_trans h (le_units_takeUnits hle)
    exact takeUnits_isPrefix_of_le (takeUnits_isPrefix column' t) hunits
  · rw [takeUnits_eq_self hge]
    exact takeUnits_isPrefix column t

end ZLang.Text
