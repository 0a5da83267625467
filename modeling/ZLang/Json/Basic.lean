import ZLang.Text.Basic

/-!
JSON values. A number keeps the digits it is written with, so that values of any size and precision
are held exactly; every `Number` has a written form, and every written number has its `Number`.
-/
set_option autoImplicit false

namespace ZLang.Json

/-- A decimal digit. -/
abbrev Digit := Fin 10

namespace Digit

def zero : Digit := ⟨0, by decide⟩

/-- The digit of a character from `0` to `9`. -/
def ofChar (c : Char) : Digit := ⟨(c.toNat - 48) % 10, Nat.mod_lt _ (by decide)⟩

def char (d : Digit) : Char := Nat.digitChar d.val

end Digit

/-- A number as it is written: sign, whole part, digits after the point (none: no point), and power
of ten. -/
structure Number where
  negative : Bool
  whole : Nat
  fraction : List Digit
  exponent : Option Int
  deriving DecidableEq, Repr

namespace Number

def ofNat (n : Nat) : Number := ⟨false, n, [], none⟩

def ofInt (i : Int) : Number := ⟨i < 0, i.natAbs, [], none⟩

/-- The integer a number is written as. A point, a power of ten or a negative zero makes it no
integer. -/
def toInt? (n : Number) : Option Int :=
  if n.fraction.isEmpty && n.exponent.isNone then
    if n.negative then (if n.whole == 0 then none else some (-(n.whole : Int)))
    else some n.whole
  else none

end Number

inductive Value where
  | null
  | bool (b : Bool)
  | number (n : Number)
  | string (s : Text)
  | array (items : List Value)
  | object (members : List (Text × Value))
  deriving Repr

namespace Value

/-- The value of a member; the last of two members of one name counts. -/
def get? (v : Value) (name : Text) : Option Value :=
  match v with
  | object members => (members.reverse.find? fun m => m.1 == name).map Prod.snd
  | _ => none

theorem get?_cons (k name : Text) (v : Value) (r : List (Text × Value)) :
    (object ((k, v) :: r)).get? name =
      ((object r).get? name).or (if k == name then some v else none) := by
  simp only [get?, List.reverse_cons, List.find?_append, Option.map_or]
  congr 1
  by_cases h : k == name <;> simp [h]

/-- Among members of different names each is found by its own. -/
theorem get?_object {members : List (Text × Value)} {name : Text} {v : Value}
    (hnames : (members.map Prod.fst).Nodup) (i : Nat) (h : members[i]? = some (name, v)) :
    (object members).get? name = some v := by
  induction members generalizing i with
  | nil => cases h
  | cons m r ih =>
    obtain ⟨k, w⟩ := m
    rw [List.map_cons, List.nodup_cons] at hnames
    rw [get?_cons]
    cases i with
    | zero =>
      cases h
      have hnone : (object r).get? name = none := by
        simp only [get?, Option.map_eq_none_iff, List.find?_eq_none, List.mem_reverse, beq_iff_eq]
        intro m hm hname
        exact hnames.1 (List.mem_map.mpr ⟨m, hm, hname⟩)
      rw [hnone, Option.none_or, beq_self_eq_true, if_pos rfl]
    | succ i => rw [ih hnames.2 i h, Option.some_or]

def ofNat (n : Nat) : Value := number (Number.ofNat n)

def ofInt (i : Int) : Value := number (Number.ofInt i)

end Value

end ZLang.Json
