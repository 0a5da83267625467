import ZLang.Proofs.Json.Printing

/-!
Squeezing a JSON text: the spaces and line feeds between its tokens are left out, and its strings
stay as they are. Every layout made of such blanks squeezes to the compact one.
-/
set_option autoImplicit false

namespace ZLang.Json

/-- Where a character stands: between strings, in a string, or behind a backslash in a string. -/
inductive Place where
  | outside
  | inside
  | escaped
  deriving DecidableEq, Repr

namespace Place

def next : Place → Char → Place
  | outside, c => if c = '"' then inside else outside
  | inside, c => if c = '"' then outside else if c = '\\' then escaped else inside
  | escaped, _ => inside

/-- The place behind a text that starts at `p`. -/
def after (p : Place) (t : Text) : Place := t.foldl next p

@[simp] theorem after_nil (p : Place) : p.after [] = p := rfl

@[simp] theorem after_cons (p : Place) (c : Char) (t : Text) :
    p.after (c :: t) = (p.next c).after t := rfl

theorem after_append (p : Place) (a b : Text) : p.after (a ++ b) = (p.after a).after b :=
  List.foldl_append

end Place

def squeezeFrom : Place → Text → Text
  | _, [] => []
  | p, c :: t =>
    if p = .outside ∧ (c = ' ' ∨ c = '\n') then squeezeFrom p t else c :: squeezeFrom (p.next c) t

/-- A text without the spaces and line feeds outside its strings. -/
def squeeze (t : Text) : Text := squeezeFrom .outside t

/-! ## Parts of a text -/

/-- From `p` on, a part of a text leads to `q`, and `u` is left of it. -/
structure Squeezes (p : Place) (t u : Text) (q : Place) : Prop where
  place : p.after t = q
  text : squeezeFrom p t = u

section Parts

variable {p q : Place} {t u : Text}

theorem squeezeFrom_append (p : Place) (a b : Text) :
    squeezeFrom p (a ++ b) = squeezeFrom p a ++ squeezeFrom (p.after a) b := by
  induction a generalizing p with
  | nil => rfl
  | cons c a ih =>
    simp only [List.cons_append, squeezeFrom, Place.after_cons]
    split
    · next h =>
      have hnext : p.next c = p := by
        obtain ⟨rfl, rfl | rfl⟩ := h <;> rfl
      rw [ih, hnext]
    · rw [ih, List.cons_append]

theorem Squeezes.nil : Squeezes p [] [] p := ⟨rfl, rfl⟩

theorem Squeezes.append {r : Place} {t' u' : Text} (h : Squeezes p t u q)
    (h' : Squeezes q t' u' r) : Squeezes p (t ++ t') (u ++ u') r := by
  constructor
  · rw [Place.after_append, h.place, h'.place]
  · rw [squeezeFrom_append, h.text, h.place, h'.text]

theorem Squeezes.cons {c : Char} (hc : p = .outside → c ≠ ' ' ∧ c ≠ '\n')
    (h : Squeezes (p.next c) t u q) : Squeezes p (c :: t) (c :: u) q := by
  refine ⟨h.place, ?_⟩
  rw [squeezeFrom, if_neg, h.text]
  rintro ⟨hp, rfl | rfl⟩
  · exact (hc hp).1 rfl
  · exact (hc hp).2 rfl

theorem Squeezes.blanks (h : ∀ c ∈ t, c = ' ' ∨ c = '\n') : Squeezes .outside t [] .outside := by
  induction t with
  | nil => exact .nil
  | cons c t ih =>
    have hc := h c List.mem_cons_self
    have hnext : Place.outside.next c = .outside := by
      rcases hc with rfl | rfl <;> rfl
    have ht := ih fun x hx => h x (List.mem_cons_of_mem c hx)
    constructor
    · rw [Place.after_cons, hnext, ht.place]
    · rw [squeezeFrom, if_pos ⟨rfl, hc⟩, ht.text]

/-- A character of a token other than a string. -/
def Bare (c : Char) : Prop := c ≠ '"' ∧ c ≠ ' ' ∧ c ≠ '\n'

instance (c : Char) : Decidable (Bare c) :=
  inferInstanceAs (Decidable (c ≠ '"' ∧ c ≠ ' ' ∧ c ≠ '\n'))

theorem Squeezes.bare_cons {c : Char} (hc : Bare c) (h : Squeezes .outside t u q) :
    Squeezes .outside (c :: t) (c :: u) q := by
  have hnext : Place.outside.next c = .outside := if_neg hc.1
  refine .cons (fun _ => hc.2) ?_
  rw [hnext]
  exact h

theorem Squeezes.bare (h : ∀ c ∈ t, Bare c) : Squeezes .outside t t .outside := by
  induction t with
  | nil => exact .nil
  | cons c t ih =>
    exact .bare_cons (h c List.mem_cons_self) (ih fun x hx => h x (List.mem_cons_of_mem c hx))

end Parts

/-! ## Strings and numbers -/

theorem next_inside {c : Char} (hquote : c ≠ '"') (hslash : c ≠ '\\') :
    Place.inside.next c = .inside := by
  simp [Place.next, hquote, hslash]

/-- An escaped character begins and ends inside the string. -/
theorem squeezes_escape (c : Char) : Squeezes .inside (escape c) (escape c) .inside := by
  unfold escape
  iterate 7
    split
    · exact ⟨rfl, rfl⟩
  split
  · next h =>
    have hdigit : ∀ n < 16, Nat.digitChar n ≠ '"' ∧ Nat.digitChar n ≠ '\\' := by decide
    have h1 := hdigit (c.toNat / 16) (by omega)
    have h2 := hdigit (c.toNat % 16) (by omega)
    have hpair : Squeezes .inside [Nat.digitChar (c.toNat / 16), Nat.digitChar (c.toNat % 16)]
        [Nat.digitChar (c.toNat / 16), Nat.digitChar (c.toNat % 16)] .inside := by
      refine .cons nofun ?_
      rw [next_inside h1.1 h1.2]
      refine .cons nofun ?_
      rw [next_inside h2.1 h2.2]
      exact .nil
    exact Squeezes.append (t := ['\\', 'u', '0', '0']) ⟨rfl, rfl⟩ hpair
  · next hquote hslash _ _ _ _ _ _ =>
    refine .cons nofun ?_
    rw [next_inside (by simpa using hquote) (by simpa using hslash)]
    exact .nil

theorem squeezes_escapes (s : Text) :
    Squeezes .inside (s.flatMap escape) (s.flatMap escape) .inside := by
  induction s with
  | nil => exact .nil
  | cons c s ih =>
    rw [List.flatMap_cons]
    exact (squeezes_escape c).append ih

theorem squeezes_quote (s : Text) : Squeezes .outside (quote s) (quote s) .outside := by
  have hclose : Squeezes .inside ['"'] ['"'] .outside := ⟨rfl, rfl⟩
  exact .cons (fun _ => by decide) ((squeezes_escapes s).append hclose)

theorem bare_of_isDigit {c : Char} (h : c.isDigit = true) : Bare c := by
  refine ⟨?_, ?_, ?_⟩ <;> rintro rfl <;> exact absurd h (by decide)

theorem bare_toDigits (n : Nat) : ∀ c ∈ Nat.toDigits 10 n, Bare c :=
  fun c hc => bare_of_isDigit ((digits_toDigits n).2 c hc)

theorem squeezes_exponentText (e : Option Int) :
    Squeezes .outside (Number.exponentText e) (Number.exponentText e) .outside := by
  cases e with
  | none => exact .nil
  | some e =>
    unfold Number.exponentText
    refine .bare_cons (by decide) (.bare_cons ?_ (.bare (bare_toDigits _)))
    split <;> decide

theorem squeezes_fractionText (ds : List Digit) :
    Squeezes .outside (Number.fractionText ds) (Number.fractionText ds) .outside := by
  unfold Number.fractionText
  split
  · exact .nil
  · refine .bare_cons (by decide) (.bare fun c hc => ?_)
    obtain ⟨d, -, rfl⟩ := List.mem_map.mp hc
    exact bare_of_isDigit (Digit.ofChar_char d).2

theorem squeezes_number (n : Number) : Squeezes .outside n.text n.text .outside := by
  have hsign : Squeezes .outside (if n.negative then ['-'] else [])
      (if n.negative then ['-'] else []) .outside := by
    cases n.negative <;> exact ⟨rfl, rfl⟩
  exact ((hsign.append (.bare (bare_toDigits _))).append (squeezes_fractionText _)).append
    (squeezes_exponentText _)

/-! ## Values -/

section Values

variable {l : Layout}

theorem Layout.Plain.squeezes_lineBreak (hl : l.Plain) (depth : Nat) :
    Squeezes .outside (l.lineBreak depth) (Layout.compact.lineBreak depth) .outside :=
  .blanks (hl.lineBreak depth)

theorem Layout.Plain.squeezes_key (hl : l.Plain) (depth : Nat) (k : Text) :
    Squeezes .outside (l.lineBreak depth ++ quote k ++ ':' :: l.afterColon)
      (Layout.compact.lineBreak depth ++ quote k ++ ':' :: Layout.compact.afterColon) .outside :=
  ((hl.squeezes_lineBreak depth).append (squeezes_quote k)).append
    (.bare_cons (by decide) (.blanks hl.afterColon))

mutual

theorem squeezes_render (hl : l.Plain) (depth : Nat) (v : Value) :
    Squeezes .outside (v.render l depth) (v.render .compact depth) .outside := by
  match v with
  | .null => exact ⟨rfl, rfl⟩
  | .bool true => exact ⟨rfl, rfl⟩
  | .bool false => exact ⟨rfl, rfl⟩
  | .number n => exact squeezes_number n
  | .string s => exact squeezes_quote s
  | .array [] => exact ⟨rfl, rfl⟩
  | .object [] => exact ⟨rfl, rfl⟩
  | .array (v :: r) =>
    have hv := squeezes_render hl (depth + 1) v
    have hr := squeezes_renderItems hl depth r
    have hclose : Squeezes .outside [']'] [']'] .outside := ⟨rfl, rfl⟩
    rw [Value.render, Value.render]
    exact .bare_cons (by decide) ((((hl.squeezes_lineBreak _).append hv).append hr).append
      (hl.squeezes_lineBreak _) |>.append hclose)
  | .object ((k, v) :: r) =>
    have hv := squeezes_render hl (depth + 1) v
    have hr := squeezes_renderMembers hl depth r
    have hclose : Squeezes .outside ['}'] ['}'] .outside := ⟨rfl, rfl⟩
    rw [Value.render, Value.render]
    exact .bare_cons (by decide) ((((hl.squeezes_key _ k).append hv).append hr).append
      (hl.squeezes_lineBreak _) |>.append hclose)

theorem squeezes_renderItems (hl : l.Plain) (depth : Nat) (r : List Value) :
    Squeezes .outside (Value.renderItems l depth r) (Value.renderItems .compact depth r)
      .outside := by
  match r with
  | [] => exact ⟨rfl, rfl⟩
  | v :: r =>
    have hv := squeezes_render hl (depth + 1) v
    have hr := squeezes_renderItems hl depth r
    rw [Value.renderItems, Value.renderItems]
    exact .bare_cons (by decide) (((hl.squeezes_lineBreak _).append hv).append hr)

theorem squeezes_renderMembers (hl : l.Plain) (depth : Nat) (r : List (Text × Value)) :
    Squeezes .outside (Value.renderMembers l depth r) (Value.renderMembers .compact depth r)
      .outside := by
  match r with
  | [] => exact ⟨rfl, rfl⟩
  | (k, v) :: r =>
    have hv := squeezes_render hl (depth + 1) v
    have hr := squeezes_renderMembers hl depth r
    rw [Value.renderMembers, Value.renderMembers]
    exact .bare_cons (by decide) (((hl.squeezes_key _ k).append hv).append hr)

end

/-- All plain layouts squeeze to one text. -/
theorem squeeze_print (hl : l.Plain) (v : Value) : squeeze (v.print l) = v.print .compact :=
  (squeezes_render hl 0 v).text

example : squeeze "[\n  \"a \\\" b\",\n  \" \\\\\"\n]".toList =
    (Value.array [.string "a \" b".toList, .string " \\".toList]).print .compact := by
  decide

end Values

end ZLang.Json
