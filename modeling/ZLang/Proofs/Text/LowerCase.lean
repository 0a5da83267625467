import Mathlib.Data.String.Defs
import ZLang.Text.LowerCase

/-!
Lower case and ASCII. On ASCII texts the lower case of all scripts is the plain one, character by
character. A character outside ASCII stays outside in lower case, with one exception: the Kelvin
sign becomes `k`. So a text whose lower case is made of ASCII characters other than `k` is an ASCII
text itself, whatever the rule for sigma does and however many characters a letter expands to.
-/
set_option autoImplicit false

namespace ZLang.Text

theorem isAscii_iff (c : Char) : c.isAscii = true ↔ c.toNat < 0x80 := by
  simp [Char.isAscii]

/-! ## Inside ASCII -/

theorem caseRuns_tail : caseRuns.tail.all (fun r => 0x80 ≤ r.first) = true := by decide +kernel

/-- Below `0x80` there is one run of capitals. -/
theorem find?_caseRuns {n : Nat} (h : n < 0x80) :
    caseRuns.find? (fun r => r.covers n) =
      [CaseRun.mk 0x41 0x5A 1 32].find? (fun r => r.covers n) := by
  have hsplit : caseRuns = [CaseRun.mk 0x41 0x5A 1 32] ++ caseRuns.tail := rfl
  have htail : caseRuns.tail.find? (fun r => r.covers n) = none := by
    rw [List.find?_eq_none]
    intro r hr hcovers
    have hfirst := List.all_eq_true.mp caseRuns_tail r hr
    simp only [CaseRun.covers, Bool.and_eq_true, decide_eq_true_eq] at hfirst hcovers
    omega
  rw [hsplit, List.find?_append, htail, Option.or_none]

theorem lowerChar_ascii {c : Char} (h : c.isAscii = true) : lowerChar c = [c.toLower] := by
  have hn := (isAscii_iff c).mp h
  unfold lowerChar
  rw [find?_caseRuns hn, ← Char.ofNat_toNat c]
  generalize c.toNat = n at hn
  revert n
  decide +kernel

theorem lowerBetween_ascii (before after : Text) {c : Char} (h : c.isAscii = true) :
    lowerBetween before c after = [c.toLower] := by
  have hsigma : (c == '\u03a3') = false := by
    rw [beq_eq_false_iff_ne]
    rintro rfl
    exact absurd h (by decide)
  unfold lowerBetween
  rw [hsigma, if_neg Bool.false_ne_true, lowerChar_ascii h]

theorem lowerAfter_ascii (before t : Text) (h : ∀ c ∈ t, c.isAscii = true) :
    lowerAfter before t = t.map Char.toLower := by
  induction t generalizing before with
  | nil => rfl
  | cons c t ih =>
    have hc : c.isAscii = true := h c List.mem_cons_self
    have ht : ∀ x ∈ t, x.isAscii = true := fun x hx => h x (List.mem_cons_of_mem c hx)
    rw [lowerAfter, lowerBetween_ascii before t hc, ih (c :: before) ht]
    rfl

theorem lower_ascii (t : Text) (h : ∀ c ∈ t, c.isAscii = true) : lower t = t.map Char.toLower :=
  lowerAfter_ascii [] t h

theorem isAscii_of_toLower {c : Char} (h : c.toLower.isAscii = true) : c.isAscii = true := by
  unfold Char.toLower at h
  split at h
  · next hupper =>
    have hle : c.toNat ≤ 'Z'.toNat := hupper.2
    exact (isAscii_iff c).mpr (Nat.lt_of_le_of_lt hle (by decide))
  · exact h

/-! ## Outside ASCII -/

/-- No lower case of the run is in ASCII or among the surrogates. -/
def CaseRun.staysOutside (r : CaseRun) : Bool :=
  0x80 ≤ r.first + r.shift &&
    (r.last + r.shift < 0xD800 || 0xDFFF < r.first + r.shift && r.last + r.shift < 0x110000)

/-- The Kelvin sign. -/
def kelvin : Char := '\u212a'

theorem caseRuns_outside : caseRuns.all (fun r => r.last < 0x80 ||
    (r.first == kelvin.toNat && r.last == kelvin.toNat) || r.staysOutside) = true := by
  decide +kernel

theorem CaseRun.isAscii_eq_false {r : CaseRun} (hr : r.staysOutside = true) {n : Nat}
    (hn : r.covers n = true) : (Char.ofNat (n + r.shift).toNat).isAscii = false := by
  simp only [staysOutside, covers, Bool.and_eq_true, Bool.or_eq_true, decide_eq_true_eq] at hr hn
  have hvalid : (n + r.shift).toNat.isValidChar := by
    unfold Nat.isValidChar
    omega
  have hnat : (Char.ofNat (n + r.shift).toNat).toNat = (n + r.shift).toNat := by
    rw [Char.ofNat, dif_pos hvalid]
    rfl
  rw [Bool.eq_false_iff, ne_eq, isAscii_iff, hnat]
  omega

theorem lowerChar_outside {c : Char} (h : c.isAscii = false) :
    c = kelvin ∨ ∃ x ∈ lowerChar c, x.isAscii = false := by
  unfold lowerChar
  split
  · exact .inr ⟨'\u0307', by simp, by decide⟩
  · split
    · next r hfind =>
      have hmem := List.mem_of_find?_eq_some hfind
      have hcovers : r.covers c.toNat = true := by simpa using List.find?_some hfind
      have hcases := List.all_eq_true.mp caseRuns_outside r hmem
      have hrange : r.first ≤ c.toNat ∧ c.toNat ≤ r.last := by
        simp only [CaseRun.covers, Bool.and_eq_true, decide_eq_true_eq] at hcovers
        exact hcovers.1
      rw [Bool.eq_false_iff, ne_eq, isAscii_iff] at h
      simp only [Bool.or_eq_true, Bool.and_eq_true, decide_eq_true_eq, beq_iff_eq] at hcases
      rcases hcases with (hlast | ⟨hfirst, hlast⟩) | hstays
      · omega
      · left
        rw [← Char.toNat_inj]
        omega
      · exact .inr ⟨_, List.mem_singleton_self _, CaseRun.isAscii_eq_false hstays hcovers⟩
    · exact .inr ⟨c, List.mem_singleton_self c, h⟩

theorem lowerBetween_outside (before after : Text) {c : Char} (h : c.isAscii = false) :
    ∃ x ∈ lowerBetween before c after, x.isAscii = false ∨ x = 'k' := by
  unfold lowerBetween
  split
  · refine ⟨_, List.mem_singleton_self _, .inl ?_⟩
    split <;> decide
  · rcases lowerChar_outside h with rfl | ⟨x, hx, hout⟩
    · have hk : lowerChar kelvin = ['k'] := by decide +kernel
      exact ⟨'k', by rw [hk]; exact List.mem_singleton_self _, .inr rfl⟩
    · exact ⟨x, hx, .inl hout⟩

theorem isAscii_of_lowerAfter (before t : Text)
    (h : ∀ x ∈ lowerAfter before t, x.isAscii = true ∧ x ≠ 'k') : ∀ c ∈ t, c.isAscii = true := by
  induction t generalizing before with
  | nil => intro c hc; cases hc
  | cons a t ih =>
    rw [lowerAfter] at h
    have ht := ih (a :: before) fun x hx => h x (List.mem_append_right _ hx)
    have ha : a.isAscii = true := by
      cases hcase : a.isAscii with
      | true => rfl
      | false =>
        obtain ⟨x, hx, hout⟩ := lowerBetween_outside before t hcase
        obtain ⟨hascii, hk⟩ := h x (List.mem_append_left _ hx)
        rcases hout with hout | hout
        · rw [hascii] at hout
          cases hout
        · exact absurd hout hk
    intro c hc
    rcases List.mem_cons.mp hc with rfl | hc
    · exact ha
    · exact ht c hc

theorem isAscii_of_lower (t : Text) (h : ∀ x ∈ lower t, x.isAscii = true ∧ x ≠ 'k') :
    ∀ c ∈ t, c.isAscii = true :=
  isAscii_of_lowerAfter [] t h

end ZLang.Text
