import ApiBindings.Decimal.Binary64

/-!
# The shortest decimal that reads back

Among the decimals that round to a number, the one with the fewest digits, and of those the nearest.
The decimals with `n` digits form a grid; on each grid only the two neighbours of the number can be
the answer, so the grids are tried from one digit on.
-/

namespace ApiBindings.Decimal

/-- A decimal `digits · 10 ^ power`. -/
structure Digits where
  digits : Nat
  power : Int
  deriving DecidableEq, Repr

/-- What rounds to a number: its magnitude and the ends of the interval, all over one denominator. -/
structure Interval where
  value : Nat
  low : Nat
  high : Nat
  denominator : Nat
  closed : Bool

/-- The interval of the reals that round to a number other than zero; the ends belong to it when the
significand is even. -/
def Interval.of (x : Binary64) : Interval :=
  let m := x.significand
  let e := x.exponent - 2
  let below := if m = Nat.pow 2 52 ∧ Binary64.minExponent < x.exponent then 1 else 2
  let (f, d) : Nat × Nat := if 0 ≤ e then (Nat.pow 2 e.toNat, 1) else (1, Nat.pow 2 (-e).toNat)
  ⟨4 * m * f, (4 * m - below) * f, (4 * m + 2) * f, d, m % 2 == 0⟩

/-- Whether `n · 10 ^ power` lies in the interval. -/
def Interval.holds (i : Interval) (n : Nat) (power : Int) : Bool :=
  let (a, s) : Nat × Nat := if 0 ≤ power then (n * Nat.pow 10 power.toNat * i.denominator, 1)
    else (n * i.denominator, Nat.pow 10 (-power).toNat)
  if i.closed then i.low * s ≤ a && a ≤ i.high * s else i.low * s < a && a < i.high * s

/-- The power of ten at the first digit of a positive quotient. -/
def leadingPower (num den : Nat) : Int :=
  let atLeast (k : Int) : Bool :=
    if 0 ≤ k then Nat.pow 10 k.toNat * den ≤ num else den ≤ num * Nat.pow 10 (-k).toNat
  let k := (((num.log2 : Int) - den.log2) * 30103) / 100000
  if atLeast (k + 1) then k + 1 else if atLeast k then k else k - 1

/-- The neighbour of the value on the grid of one power that lies in the interval; of two the nearer,
and the even one of two that are equally near. -/
def Interval.onGrid (i : Interval) (power : Int) : Option Nat :=
  let (num, den) : Nat × Nat := if 0 ≤ power then (i.value, i.denominator * Nat.pow 10 power.toNat)
    else (i.value * Nat.pow 10 (-power).toNat, i.denominator)
  let n := num / den
  match i.holds n power, i.holds (n + 1) power with
  | true, true => some (Binary64.roundHalfEven num den)
  | true, false => some n
  | false, true => some (n + 1)
  | false, false => none

/-- The first hit on the grids from `power` downwards, at most `fuel` of them. -/
def Interval.search (i : Interval) (power : Int) : Nat → Option Digits
  | 0 => none
  | fuel + 1 =>
    match i.onGrid power with
    | some n => some ⟨n, power⟩
    | none => i.search (power - 1) fuel

/-- A decimal without zeros at its end, as far as `fuel` of them go. -/
def Digits.trim (d : Digits) : Nat → Digits
  | 0 => d
  | fuel + 1 =>
    if d.digits ≠ 0 ∧ d.digits % 10 = 0 then
      Digits.trim ⟨d.digits / 10, d.power + 1⟩ fuel
    else d

/-- The shortest decimal of the magnitude of a number; seventeen digits are always enough. -/
def shortest (x : Binary64) : Digits :=
  if x.isZero then ⟨0, 0⟩
  else
    let i := Interval.of x
    match i.search (leadingPower i.value i.denominator) 17 with
    | some d => d.trim 17
    | none => ⟨0, 0⟩

/-- The least positive number has one digit, and so has a tenth. -/
example : shortest ⟨false, 1, -1074⟩ = ⟨5, -324⟩ ∧ shortest ⟨false, 7205759403792794, -56⟩ = ⟨1, -1⟩ := by
  decide +kernel

end ApiBindings.Decimal
