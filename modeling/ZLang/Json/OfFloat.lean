import ZLang.Json.Basic

/-!
Floats as JSON numbers. A finite float is a mantissa times a power of two, and the reals that round
to it form an interval around it. Of the decimals in that interval `shortest` takes one with the
fewest digits, and of those the nearest to the float. All comparisons are exact, on natural numbers.

The shortest digits are written positionally from `10 ^ -5` up to, but not with, `10 ^ 16`, with one
digit after the point at least, and with a power of ten outside that range. What is not finite has
no number and is written `null`.
-/
set_option autoImplicit false

namespace ZLang.Decimal

/-- The magnitude `mantissa · 2 ^ exponent` of a finite float. In `narrow` floats the next smaller
float is half as far away as the next larger one. -/
structure Binary where
  mantissa : Nat
  exponent : Int
  narrow : Bool
  deriving DecidableEq, Repr

/-- A decimal `digits · 10 ^ exponent`. -/
structure Scaled where
  digits : Nat
  exponent : Int
  deriving DecidableEq, Repr

/-- The leading bit of a mantissa, which is not written. -/
def hidden : Nat := 0x10000000000000

/-- The magnitude of a float by its bits; `none` for infinities and for what is no number. -/
def magnitude? (x : Float) : Option Binary :=
  let bits := x.toBits.toNat
  let power := bits / hidden % 2048
  let fraction := bits % hidden
  if power == 2047 then none
  else if power == 0 then some ⟨fraction, -1074, false⟩
  else some ⟨hidden + fraction, (power : Int) - 1075, fraction == 0 && 1 < power⟩

/-- The sign bit is set. -/
def isNegative (x : Float) : Bool := 0x8000000000000000 ≤ x.toBits.toNat

/-- The order of `c · 10 ^ k` and `x · 2 ^ q`. -/
def compareScaled (c : Nat) (k : Int) (x : Nat) (q : Int) : Ordering :=
  compare (c * Nat.pow 10 k.toNat * Nat.pow 2 (-q).toNat)
    (x * Nat.pow 2 q.toNat * Nat.pow 10 (-k).toNat)

namespace Binary

/-- The decimal rounds to the float: it lies between the midpoints to both neighbours, which belong
to an even mantissa. Lengths are in quarters of the last binary place. -/
def holds (b : Binary) (d : Scaled) : Bool :=
  let low := 4 * b.mantissa - (if b.narrow then 1 else 2)
  let high := 4 * b.mantissa + 2
  let even := b.mantissa % 2 == 0
  let above := compareScaled d.digits d.exponent low (b.exponent - 2)
  let below := compareScaled d.digits d.exponent high (b.exponent - 2)
  (above == .gt || (even && above == .eq)) && (below == .lt || (even && below == .eq))

/-- The magnitude divided by `10 ^ k`, without its fraction. -/
def quotient (b : Binary) (k : Int) : Nat :=
  b.mantissa * Nat.pow 2 b.exponent.toNat * Nat.pow 10 (-k).toNat /
    (Nat.pow 2 (-b.exponent).toNat * Nat.pow 10 k.toNat)

/-- The power of ten of the leading digit. The least positive float is above `10 ^ -324`. -/
def leadingPower (b : Binary) : Int :=
  ((Nat.toDigits 10 (b.quotient (-324))).length : Int) - 325

/-- Twice the decimal's digits against the sum of two neighbours tells which of them is nearer. -/
def nearer (b : Binary) (low high : Scaled) : Scaled :=
  match compareScaled (low.digits + high.digits) low.exponent (2 * b.mantissa) b.exponent with
  | .gt => low
  | .lt => high
  | .eq => if low.digits % 2 == 0 then low else high

/-- The better of the float's two neighbours among the multiples of `10 ^ k`, if one rounds to
it. -/
def onGrid (b : Binary) (k : Int) : Option Scaled :=
  let low : Scaled := ⟨b.quotient k, k⟩
  let high : Scaled := ⟨b.quotient k + 1, k⟩
  match b.holds low, b.holds high with
  | true, true => some (b.nearer low high)
  | true, false => some low
  | false, true => some high
  | false, false => none

/-- The coarsest grid that has a decimal for the float; seventeen digits always have one. -/
def shortest (b : Binary) : Scaled :=
  let finest := b.leadingPower - 16
  let coarser := (List.range 16).findSome? fun i => b.onGrid (b.leadingPower - (i : Nat))
  (coarser.orElse fun _ => b.onGrid finest).getD ⟨b.quotient finest, finest⟩

end Binary

/-- The digits of a positive decimal without the zeros at its end, and the power of ten of the first
of them. -/
def Scaled.scientific (d : Scaled) : List Json.Digit × Int :=
  let ds := Nat.toDigits 10 d.digits
  let kept := (ds.reverse.dropWhile (· == '0')).reverse
  (kept.map Json.Digit.ofChar, d.exponent + ds.length - 1)

end ZLang.Decimal

namespace ZLang.Json

namespace Number

/-- Leading digits of `10 ^ low` to `10 ^ high` are written positionally. -/
def positionalLow : Int := -5

def positionalHigh : Int := 15

def ofDigitList (ds : List Digit) : Nat := ds.foldl (fun n d => n * 10 + d.val) 0

/-- A digit list with its point after the digit for units, which a leading digit at `10 ^ e`
determines. -/
def positional (negative : Bool) (ds : List Digit) (e : Int) : Number :=
  if e < 0 then ⟨negative, 0, List.replicate ((-e).toNat - 1) Digit.zero ++ ds, none⟩
  else
    let places := e.toNat + 1
    let whole := ds.take places ++ List.replicate (places - ds.length) Digit.zero
    let rest := ds.drop places
    ⟨negative, ofDigitList whole, if rest.isEmpty then [Digit.zero] else rest, none⟩

def scientific (negative : Bool) (ds : List Digit) (e : Int) : Number :=
  ⟨negative, ofDigitList (ds.take 1), ds.drop 1, some e⟩

/-- The number written for a float. -/
def ofFloat? (x : Float) : Option Number :=
  (Decimal.magnitude? x).map fun b =>
    let negative := Decimal.isNegative x
    if b.mantissa == 0 then ⟨negative, 0, [Digit.zero], none⟩
    else
      let (ds, e) := b.shortest.scientific
      if positionalLow ≤ e && e ≤ positionalHigh then positional negative ds e
      else scientific negative ds e

end Number

def Value.ofFloat (x : Float) : Value :=
  match Number.ofFloat? x with
  | some n => .number n
  | none => .null

end ZLang.Json
