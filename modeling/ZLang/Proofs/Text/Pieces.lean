import ZLang.Text.Basic

/-!
The pieces of a text between the occurrences of one character. There is one piece more than there
are occurrences; and when two texts are joined, the last piece of the first and the first piece of
the second grow together, while all other pieces stay as they are. A text of lines that all end in
a line feed has these lines for its pieces, and an empty one behind the last end.
-/
set_option autoImplicit false

namespace ZLang.Text

/-! ## Number and content of the pieces -/

theorem length_splitOn (c : Char) (t : Text) : (t.splitOn c).length = t.count c + 1 := by
  induction t with
  | nil => simp
  | cons x t ih =>
    rw [List.splitOn_cons_eq_if_modifyHead, List.count_cons]
    by_cases h : (x == c) = true
    · rw [if_pos h, if_pos h, List.length_cons, ih]
    · rw [if_neg h, if_neg h, List.length_modifyHead, ih, Nat.add_zero]

theorem length_front_of_splitOn {c : Char} {t last : Text} {front : List Text}
    (h : t.splitOn c = front ++ [last]) : front.length = t.count c := by
  have hlen := length_splitOn c t
  rw [h, List.length_append, List.length_singleton] at hlen
  omega

/-- A piece has no characters of its own, and not the one it is cut at. -/
theorem mem_and_ne_of_mem_splitOn (c : Char) (t piece : Text) (hp : piece ∈ t.splitOn c) (x : Char)
    (hx : x ∈ piece) : x ∈ t ∧ x ≠ c := by
  induction t generalizing piece with
  | nil =>
    rw [List.splitOn_nil, List.mem_singleton] at hp
    rw [hp] at hx
    cases hx
  | cons y t ih =>
    have hrest : ∀ p ∈ t.splitOn c, x ∈ p → x ∈ y :: t ∧ x ≠ c := by
      intro p hp hx
      exact ⟨List.mem_cons_of_mem y (ih p hp hx).1, (ih p hp hx).2⟩
    rw [List.splitOn_cons_eq_if_modifyHead] at hp
    split at hp
    · rcases List.mem_cons.mp hp with rfl | hp
      · cases hx
      · exact hrest piece hp hx
    · next hy =>
      obtain ⟨first, back, hs⟩ := List.exists_cons_of_ne_nil (List.splitOn_ne_nil c t)
      rw [hs] at hrest
      rw [hs, List.modifyHead_cons] at hp
      rcases List.mem_cons.mp hp with rfl | hp
      · rcases List.mem_cons.mp hx with rfl | hx
        · exact ⟨List.mem_cons_self, by simpa using hy⟩
        · exact hrest first List.mem_cons_self hx
      · exact hrest piece (List.mem_cons_of_mem _ hp) hx

theorem mem_of_mem_splitOn (c : Char) (t piece : Text) (hp : piece ∈ t.splitOn c) (x : Char)
    (hx : x ∈ piece) : x ∈ t :=
  (mem_and_ne_of_mem_splitOn c t piece hp x hx).1

theorem not_mem_of_mem_splitOn (c : Char) (t piece : Text) (hp : piece ∈ t.splitOn c) :
    c ∉ piece := fun hc => (mem_and_ne_of_mem_splitOn c t piece hp c hc).2 rfl

/-! ## The pieces of two texts in a row -/

/-- Only the pieces at the seam are touched. -/
theorem splitOn_append (c : Char) (x y : Text) : ∃ front last first back,
    x.splitOn c = front ++ [last] ∧ y.splitOn c = first :: back ∧
      (x ++ y).splitOn c = front ++ (last ++ first) :: back := by
  obtain ⟨first, back, hy⟩ := List.exists_cons_of_ne_nil (List.splitOn_ne_nil c y)
  induction x with
  | nil => exact ⟨[], [], first, back, by simp, hy, by simpa using hy⟩
  | cons a x ih =>
    obtain ⟨front, last, first', back', hx, hy', hxy⟩ := ih
    rw [List.cons_append, List.splitOn_cons_eq_if_modifyHead, List.splitOn_cons_eq_if_modifyHead,
      hx, hxy]
    by_cases h : (a == c) = true
    · rw [if_pos h, if_pos h]
      exact ⟨[] :: front, last, first', back', rfl, hy', rfl⟩
    · rw [if_neg h, if_neg h]
      -- the new character goes to the first piece, which may be the one at the seam
      cases front with
      | nil => exact ⟨[], a :: last, first', back', rfl, hy', rfl⟩
      | cons p front => exact ⟨(a :: p) :: front, last, first', back', rfl, hy', rfl⟩

/-! ## Lines with their ends -/

theorem splitOn_ended {lines : List Text} (h : ∀ line ∈ lines, '\n' ∉ line) :
    (ended lines).splitOn '\n' = lines ++ [[]] := by
  induction lines with
  | nil => rfl
  | cons line lines ih =>
    have hline : line.splitOn '\n' = [line] :=
      List.splitOn_eq_singleton (h line List.mem_cons_self)
    have hrest := ih fun x hx => h x (List.mem_cons_of_mem line hx)
    rw [ended, List.flatMap_cons, List.append_assoc, List.singleton_append,
      List.splitOn_append_cons_self, hline, ← ended, hrest]
    rfl

end ZLang.Text
