import ApiBindings.Decimal.Shortest

/-!
# Notations

How a decimal is laid out as text: with a point where that is short enough, else with an exponent. A
notation is a record of the choices; the fields are filled in where a format is written.
-/

namespace ApiBindings.Decimal

/-- The choices of a format for its numbers. -/
structure Style where
  /-- Least power of the first digit at which the point notation is used, if there is a bound. -/
  leastPoint : Option Int
  /-- Greatest power of the first digit at which the point notation is used, if there is a bound. -/
  greatestPoint : Option Int
  /-- Whether an exponent that is not negative is written with a plus sign. -/
  plusExponent : Bool

/-- The digits of a natural number in base ten. -/
def natDigits (n : Nat) : List Char := (Nat.repr n).toList

/-- Digits with a point after the first `places` of them; a zero stands where a side is empty. -/
def pointed (ds : List Char) (places : Int) : List Char :=
  if places ≤ 0 then
    ['0', '.'] ++ List.replicate (-places).toNat '0' ++ ds
  else
    let n := places.toNat
    if ds.length ≤ n then ds ++ List.replicate (n - ds.length) '0' ++ ['.', '0']
    else ds.take n ++ '.' :: ds.drop n

/-- Digits with one before the point, and an exponent. -/
def withExponent (plus : Bool) (ds : List Char) (power : Int) : List Char :=
  let head := match ds with
    | [] => []
    | [d] => [d]
    | d :: more => d :: '.' :: more
  let sign := if power < 0 then ['-'] else if plus then ['+'] else []
  head ++ 'e' :: sign ++ natDigits power.natAbs

/-- A number in a notation: the shortest digits that read back, after a minus sign for the negative
ones, zero among them. -/
def Style.write (style : Style) (x : Binary64) : List Char :=
  let d := shortest x
  let ds := natDigits d.digits
  let first := d.power + ds.length - 1
  let inPoint := x.isZero ||
    ((match style.leastPoint with | some k => k ≤ first | none => true) &&
      (match style.greatestPoint with | some k => first ≤ k | none => true))
  (if x.negative then ['-'] else []) ++
    (if inPoint then pointed ds (first + 1) else withExponent style.plusExponent ds first)

/-- The point notation for every number. -/
def Style.plain : Style := ⟨none, none, false⟩

end ApiBindings.Decimal
