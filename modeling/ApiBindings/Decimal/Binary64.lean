/-!
# Numbers of 64 bits

The finite numbers of the binary format of 64 bits, as sign, significand and exponent of two, and the
rounding of a quotient to the nearest of them. Every operation is exact arithmetic followed by one
rounding.
-/

namespace ApiBindings.Decimal

/-- A finite number `± significand · 2 ^ exponent` of the binary format of 64 bits. -/
structure Binary64 where
  negative : Bool
  significand : Nat
  exponent : Int
  deriving DecidableEq, Repr

namespace Binary64

/-- The least exponent of the format. -/
def minExponent : Int := -1074

/-- The greatest exponent of a significand with 53 bits. -/
def maxExponent : Int := 971

/-- Zero, with a sign. -/
def zero (negative : Bool) : Binary64 := ⟨negative, 0, minExponent⟩

/-- The quotient rounded to a whole number, a half to the even neighbour. -/
def roundHalfEven (num den : Nat) : Nat :=
  let q := num / den
  let r := num % den
  if 2 * r < den then q
  else if den < 2 * r then q + 1
  else q + q % 2

/-- The quotient `num / (den · 2 ^ e)` as a pair of naturals. -/
def scaled (num den : Nat) (e : Int) : Nat × Nat :=
  if 0 ≤ e then (num, den * Nat.pow 2 e.toNat) else (num * Nat.pow 2 (-e).toNat, den)

/-- The exponent at which a positive quotient has a significand of 53 bits, or the least one. -/
def exponentFor (num den : Nat) : Int :=
  let e : Int := (num.log2 : Int) - den.log2 - 52
  let (n, d) := scaled num den e
  max minExponent (if n / d < Nat.pow 2 52 then e - 1 else e)

/-- The number nearest to `± num / den`, a tie to the even significand; none where that is out of
range. -/
def nearest (negative : Bool) (num den : Nat) : Option Binary64 :=
  if num = 0 then some (zero negative)
  else
    let e := exponentFor num den
    let (n, d) := scaled num den e
    let m := roundHalfEven n d
    let (m, e) := if m = Nat.pow 2 53 then (Nat.pow 2 52, e + 1) else (m, e)
    if maxExponent < e then none else some ⟨negative, m, e⟩

/-- The magnitude as a quotient of naturals. -/
def ratio (x : Binary64) : Nat × Nat :=
  if 0 ≤ x.exponent then (x.significand * Nat.pow 2 x.exponent.toNat, 1)
  else (x.significand, Nat.pow 2 (-x.exponent).toNat)

/-- Whether the number is zero, of whichever sign. -/
def isZero (x : Binary64) : Bool := x.significand == 0

/-- The number nearest to `± digits · 10 ^ power`. -/
def ofDecimal (negative : Bool) (digits : Nat) (power : Int) : Option Binary64 :=
  if 0 ≤ power then nearest negative (digits * Nat.pow 10 power.toNat) 1
  else nearest negative digits (Nat.pow 10 (-power).toNat)

/-- The product, rounded. -/
def mul (x y : Binary64) : Option Binary64 :=
  let (a, b) := x.ratio
  let (c, d) := y.ratio
  nearest (x.negative != y.negative) (a * c) (b * d)

/-- The quotient by a number other than zero, rounded. -/
def div (x y : Binary64) : Option Binary64 :=
  let (a, b) := x.ratio
  let (c, d) := y.ratio
  nearest (x.negative != y.negative) (a * d) (b * c)

/-- The same magnitude under another sign. -/
def withSign (negative : Bool) (x : Binary64) : Binary64 := { x with negative }

/-- A half goes to the even neighbour. -/
example : roundHalfEven 5 2 = 2 ∧ roundHalfEven 7 2 = 4 ∧ roundHalfEven 8 3 = 3 := by decide

/-- One tenth has the significand 3602879701896397 · 2. -/
example : ofDecimal false 1 (-1) = some ⟨false, 7205759403792794, -56⟩ := by decide +kernel

/-- The least positive number, and what is halfway to it. -/
example : ofDecimal false 5 (-324) = some ⟨false, 1, -1074⟩ ∧ ofDecimal false 2 (-324) = some (zero false) := by
  decide +kernel

end Binary64

end ApiBindings.Decimal
