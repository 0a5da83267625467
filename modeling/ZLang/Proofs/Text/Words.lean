import Mathlib.Data.List.TakeWhile
import ZLang.Text.Basic

/-!
Blanks, trimming and words of any text. Blanks at the ends of a text change neither its trimmed part
nor its words; the words in a row are the text without its blanks. Texts are built from the back by
putting a blank or a whole word in front (`wordInduction`), and a property of texts that is proved
along these two steps can be read off the words.
-/
set_option autoImplicit false

namespace ZLang.Text

/-- Nothing but blanks. -/
def Blanks (t : Text) : Prop := ∀ c ∈ t, isBlank c = true

/-- No blank at all. -/
def Solid (t : Text) : Prop := ∀ c ∈ t, isBlank c = false

/-- A text that cannot go on with the word before it. -/
def Apart (t : Text) : Prop := ∀ c ∈ t.head?, isBlank c = true

instance (t : Text) : Decidable (Blanks t) :=
  List.decidableBAll (fun c => isBlank c = true) t

instance (t : Text) : Decidable (Solid t) :=
  List.decidableBAll (fun c => isBlank c = false) t

theorem Blanks.tail {c : Char} {t : Text} (h : Blanks (c :: t)) : Blanks t :=
  fun x hx => h x (List.mem_cons_of_mem c hx)

theorem blanks_takeWhile (t : Text) : Blanks (t.takeWhile isBlank) :=
  fun _ hc => List.mem_takeWhile_imp hc

/-! ## Words -/

@[simp] theorem words_nil : words [] = [] := rfl

@[simp] theorem words_cons_blank (c : Char) (t : Text) (hc : isBlank c = true) :
    words (c :: t) = words t := by
  rw [words, List.splitOnP_cons_eq_if_modifyHead, if_pos hc]
  rfl

theorem words_append_cons_blank (x y : Text) (c : Char) (hc : isBlank c = true) :
    words (x ++ c :: y) = words x ++ words y := by
  rw [words, List.splitOnP_append_cons x y hc, List.filter_append]
  rfl

theorem words_solid (w : Text) (hne : w ≠ []) (hw : Solid w) : words w = [w] := by
  rw [words, List.splitOnP_eq_singleton hw]
  cases w with
  | nil => exact absurd rfl hne
  | cons c w => rfl

theorem words_blanks_append (a t : Text) (ha : Blanks a) : words (a ++ t) = words t := by
  induction a with
  | nil => rfl
  | cons c a ih =>
    have hc := ha c List.mem_cons_self
    simp [hc, ih ha.tail]

theorem words_blanks (t : Text) (h : Blanks t) : words t = [] := by
  simpa using words_blanks_append t [] h

theorem words_append_blanks (t b : Text) (hb : Blanks b) : words (t ++ b) = words t := by
  cases b with
  | nil => simp
  | cons c b =>
    have hc := hb c List.mem_cons_self
    simp [words_append_cons_blank t b c hc, words_blanks b hb.tail]

/-- A word in front of a text that does not go on with it. -/
theorem words_solid_append (w t : Text) (hne : w ≠ []) (hw : Solid w) (ht : Apart t) :
    words (w ++ t) = w :: words t := by
  cases t with
  | nil => simp [words_solid w hne hw]
  | cons c t =>
    have hc : isBlank c = true := ht c rfl
    simp [words_append_cons_blank w t c hc, words_solid w hne hw, hc]

/-- Every text is made of blanks and whole words, put in front of each other. -/
theorem wordInduction {P : Text → Prop} (nil : P [])
    (blank : ∀ c t, isBlank c = true → P t → P (c :: t))
    (word : ∀ w t, w ≠ [] → Solid w → Apart t → P t → P (w ++ t)) (t : Text) : P t := by
  -- what is left of a text that starts with a word is what follows the whole word
  induction h : t.length using Nat.strong_induction_on generalizing t with
  | _ n ih =>
    cases t with
    | nil => exact nil
    | cons c t =>
      by_cases hc : isBlank c = true
      · exact blank c t hc (ih t.length (by rw [← h, List.length_cons]; omega) t rfl)
      · let w := (c :: t).takeWhile fun x => !isBlank x
        let r := (c :: t).dropWhile fun x => !isBlank x
        have hwr : w ++ r = c :: t := List.takeWhile_append_dropWhile
        have hw : w = c :: t.takeWhile fun x => !isBlank x :=
          List.takeWhile_cons_of_pos (by simp [hc])
        have hsolid : Solid w := by
          intro x hx
          have := List.mem_takeWhile_imp hx
          simpa using this
        have hapart : Apart r := by
          intro x hx
          have := List.head?_dropWhile_not (fun x => !isBlank x) (c :: t)
          rw [Option.mem_def.mp hx] at this
          simpa using this
        have hlen : r.length < n := by
          have hl := congrArg List.length hwr
          rw [List.length_append, hw, List.length_cons, h] at hl
          omega
        have hne : w ≠ [] := by
          rw [hw]
          exact List.cons_ne_nil _ _
        rw [← hwr]
        exact word w r hne hsolid hapart (ih r.length hlen r rfl)

/-- The words in a row are the text without its blanks. -/
theorem flatten_words (t : Text) : (words t).flatten = t.filter fun c => !isBlank c := by
  induction t using wordInduction with
  | nil => rfl
  | blank c t hc ih => simp [hc, ih]
  | word w t hne hw ht ih =>
    have hfilter : (w.filter fun c => !isBlank c) = w :=
      List.filter_eq_self.mpr fun c hc => by rw [hw c hc]; rfl
    rw [words_solid_append w t hne hw ht, List.flatten_cons, ih, List.filter_append, hfilter]

@[simp] theorem words_eq_nil_iff (t : Text) : words t = [] ↔ Blanks t := by
  constructor
  · intro h c hc
    have hf := flatten_words t
    rw [h, List.flatten_nil] at hf
    have := List.filter_eq_nil_iff.mp hf.symm c hc
    simpa using this
  · exact words_blanks t

/-! ## Trimming -/

theorem trimStart_blanks_append (a t : Text) (ha : Blanks a) :
    trimStart (a ++ t) = trimStart t := List.dropWhile_append_of_pos ha

theorem trimStart_blanks (t : Text) (h : Blanks t) : trimStart t = [] := by
  simpa [trimStart] using trimStart_blanks_append t [] h

/-- The blanks that trimming cuts off behind a text. -/
def trailing (t : Text) : Text := ((trimStart t).reverse.takeWhile isBlank).reverse

theorem blanks_trailing (t : Text) : Blanks (trailing t) :=
  fun c hc => blanks_takeWhile _ c (List.mem_reverse.mp hc)

/-- A text is its trimmed part between two runs of blanks. -/
theorem trim_eq (t : Text) : t.takeWhile isBlank ++ trim t ++ trailing t = t := by
  have h : trim t ++ trailing t = trimStart t := by
    rw [trim, trimEnd, trailing, ← List.reverse_append, List.takeWhile_append_dropWhile,
      List.reverse_reverse]
  rw [List.append_assoc, h]
  exact List.takeWhile_append_dropWhile

@[simp] theorem words_trim (t : Text) : words (trim t) = words t := by
  have h := congrArg words (trim_eq t)
  rwa [words_append_blanks _ _ (blanks_trailing t), words_blanks_append _ _ (blanks_takeWhile t)]
    at h

@[simp] theorem trim_eq_nil_iff (t : Text) : trim t = [] ↔ Blanks t := by
  constructor
  · intro h
    have hwords := words_trim t
    rw [h, words_nil, eq_comm] at hwords
    simpa using hwords
  · intro h
    simp [trim, trimStart_blanks t h, trimEnd]

@[simp] theorem isEmpty_trim (t : Text) : (trim t).isEmpty = (words t).isEmpty := by
  rw [Bool.eq_iff_iff]
  simp

theorem trimEnd_append_blanks (t b : Text) (hb : Blanks b) : trimEnd (t ++ b) = trimEnd t := by
  have hrev : ∀ c ∈ b.reverse, isBlank c = true := fun c hc => hb c (List.mem_reverse.mp hc)
  rw [trimEnd, trimEnd, List.reverse_append, List.dropWhile_append_of_pos hrev]

/-- Blanks at both ends are not part of the trimmed text. -/
theorem trim_padded (a t b : Text) (ha : Blanks a) (hb : Blanks b) :
    trim (a ++ t ++ b) = trim t := by
  rw [List.append_assoc, trim, trimStart_blanks_append a (t ++ b) ha, trim]
  by_cases ht : Blanks t
  · -- then the blanks behind the text go with those in front
    rw [trimStart_blanks_append t b ht, trimStart_blanks b hb, trimStart_blanks t ht]
  · have hne : (t.dropWhile isBlank).isEmpty = false := by
      rw [List.isEmpty_eq_false_iff]
      intro h
      exact ht (List.dropWhile_eq_nil_iff.mp h)
    have happend : trimStart (t ++ b) = trimStart t ++ b := by
      rw [trimStart, List.dropWhile_append, if_neg (by simp [hne])]
      rfl
    rw [happend, trimEnd_append_blanks _ b hb]

/-! ## What the words tell of the trimmed text -/

theorem trimEnd_prefix (t : Text) : trimEnd t <+: t := by
  have h := List.reverse_prefix.mpr (List.dropWhile_suffix isBlank (l := t.reverse))
  rwa [List.reverse_reverse] at h

theorem head?_trim (t : Text) : ∀ c ∈ (trim t).head?, isBlank c = false := by
  intro c hc
  obtain ⟨s, hs⟩ := trimEnd_prefix (trimStart t)
  have hstart : (trimStart t).head? = some c := by
    rw [← hs, List.head?_append, show (trimEnd (trimStart t)).head? = some c from hc]
    rfl
  have h := List.head?_dropWhile_not isBlank t
  rw [show (t.dropWhile isBlank).head? = some c from hstart] at h
  exact h

theorem trimStart_eq_self (t : Text) (h : ∀ c ∈ t.head?, isBlank c = false) : trimStart t = t := by
  cases t with
  | nil => rfl
  | cons c t => exact List.dropWhile_cons_of_neg (by rw [h c rfl]; exact Bool.false_ne_true)

/-- A mark without blanks is found in front of a text only within its first word. -/
theorem isPrefixOf_append_apart (p w t : Text) (hp : Solid p) (ht : Apart t) :
    p.isPrefixOf (w ++ t) = p.isPrefixOf w := by
  induction p generalizing w with
  | nil => simp
  | cons c p ih =>
    cases w with
    | nil =>
      cases t with
      | nil => rfl
      | cons d t =>
        have hne : (c == d) = false := by
          refine beq_eq_false_iff_ne.mpr fun h => ?_
          have hc := hp c List.mem_cons_self
          rw [h, ht d rfl] at hc
          exact absurd hc (by decide)
        rw [List.nil_append, List.isPrefixOf_cons_cons, hne]
        rfl
    | cons d w =>
      rw [List.cons_append, List.isPrefixOf_cons_cons, List.isPrefixOf_cons_cons,
        ih w fun x hx => hp x (List.mem_cons_of_mem c hx)]

theorem isPrefixOf_trimStart (p t : Text) (hne : p ≠ []) (hp : Solid p) :
    p.isPrefixOf (trimStart t) = (words t).head?.any p.isPrefixOf := by
  induction t using wordInduction with
  | nil =>
    cases p with
    | nil => exact absurd rfl hne
    | cons c p => rfl
  | blank c t hc ih =>
    rw [words_cons_blank c t hc, ← ih]
    exact congrArg p.isPrefixOf (List.dropWhile_cons_of_pos hc)
  | word w t hw hsolid ht ih =>
    have hhead : ∀ c ∈ (w ++ t).head?, isBlank c = false := by
      intro c hc
      obtain ⟨d, w', rfl⟩ := List.exists_cons_of_ne_nil hw
      rw [List.cons_append, List.head?_cons, Option.mem_some_iff] at hc
      exact hc ▸ hsolid d List.mem_cons_self
    rw [trimStart_eq_self _ hhead, words_solid_append w t hw hsolid ht,
      isPrefixOf_append_apart p w t hp ht]
    rfl

theorem isPrefixOf_trim (p t : Text) (hne : p ≠ []) (hp : Solid p) :
    p.isPrefixOf (trim t) = (words t).head?.any p.isPrefixOf := by
  rw [← words_trim t, ← isPrefixOf_trimStart p (trim t) hne hp,
    trimStart_eq_self _ (head?_trim t)]

theorem getLast?_trim (t : Text) : (trim t).getLast? = (words t).flatten.getLast? := by
  have hwords : words (trimStart t) = words t := by
    have h := words_blanks_append _ (trimStart t) (blanks_takeWhile t)
    rwa [trimStart, List.takeWhile_append_dropWhile, eq_comm] at h
  have hfind := List.find?_eq_head?_dropWhile_not (fun c => !isBlank c) (trimStart t).reverse
  simp only [Bool.not_not] at hfind
  rw [trim, trimEnd, List.getLast?_reverse, ← hwords, flatten_words,
    List.getLast?_eq_head?_reverse, ← List.filter_reverse, List.head?_filter, hfind]

theorem count_flatten_words (c : Char) (t : Text) (hc : isBlank c = false) :
    (words t).flatten.count c = t.count c := by
  rw [flatten_words]
  exact List.count_filter (by rw [hc]; rfl)

end ZLang.Text
