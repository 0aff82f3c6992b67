import ApiBindings.Json.Reading

/-!
# Numbers of JSON

A number without point and exponent is an integer as long as it fits 64 bits. Of any other number the
digits that fit 64 bits count, with the power of ten that the rest leaves.
-/

namespace ApiBindings.Json

open ApiBindings.Decimal (Binary64)

/-- The greatest significand, which fits 64 bits. -/
def maxSignificand : Nat := Nat.pow 2 64 - 1

/-- The greatest exponent as it is written, which fits 32 bits with a sign. -/
def maxExponent : Nat := Nat.pow 2 31 - 1

/-- The value of a digit in base ten. -/
def digitValue (c : Char) : Nat := c.toNat - 48

/-- The number of the leading digits, after `n`, that stays within a limit, and the digits left over. -/
def fitting (limit n : Nat) : List Char → Nat × List Char
  | [] => (n, [])
  | c :: rest =>
    let m := n * 10 + digitValue c
    if limit < m then (n, c :: rest) else fitting limit m rest

/-- Division by ten to the 308th until the power is in reach, at most `fuel` times. -/
def reduce (x : Binary64) (power : Int) : Nat → Option (Binary64 × Int)
  | 0 => some (x, power)
  | fuel + 1 =>
    if power.natAbs ≤ 308 || x.isZero then some (x, power)
    else if 0 ≤ power then none
    else do
      let ten ← Binary64.ofDecimal false 1 308
      let y ← x.div ten
      reduce y (power + 308) fuel

/-- The number `± n · 10 ^ power` of 64 bits: `n` is rounded first, then the product with the rounded
power of ten or the quotient by it. None if it is out of range. -/
def scale (negative : Bool) (n : Nat) (power : Int) : Option Binary64 := do
  let x ← Binary64.nearest false n 1
  let (y, power) ← reduce x power (power.natAbs / 308 + 1)
  let z ← if y.isZero then some y
    else do
      let ten ← Binary64.ofDecimal false 1 power.natAbs
      if 0 ≤ power then y.mul ten else y.div ten
  return z.withSign negative

/-- The number of 64 bits with a significand and a power of ten, or a failure where it is too large. -/
def scaledNumber (negative : Bool) (n : Nat) (power : Int) : Reading Value := do
  match scale negative n power with
  | some x => return .real x
  | none => failHere .tooLarge

/-- The sign before an exponent: whether it is below zero. -/
def exponentSign : Reading Bool := do
  match ← peek with
  | some c =>
    if c = '-' then do let _ ← next; return true
    else if c = '+' then do let _ ← next; return false
    else return false
  | none => return false

/-- An exponent whose letter is taken. One that does not fit 32 bits makes the number zero or too
large. -/
def exponent (negative : Bool) (n : Nat) (power : Int) : Reading Value := do
  let below ← exponentSign
  match ← next with
  | none => failHere .endInValue
  | some c =>
    if !c.isDigit then
      failIn c .badNumber
    else do
      let before := (← get).offset
      let digits ← takeWhile Char.isDigit
      let (e, left) := fitting maxExponent (digitValue c) digits
      if left.isEmpty then
        scaledNumber negative n (if below then power - e else power + e)
      else if n ≠ 0 && !below then
        throw ⟨.tooLarge, before + (digits.length - left.length) + 1⟩
      else
        return .real (Binary64.zero negative)

/-- What follows the digits of a number with a point or too many digits for 64 bits. -/
def exponentOrEnd (negative : Bool) (n : Nat) (power : Int) : Reading Value := do
  match ← peek with
  | some c =>
    if c = 'e' || c = 'E' then do
      let _ ← next
      exponent negative n power
    else scaledNumber negative n power
  | none => scaledNumber negative n power

/-- The digits after a point, which is taken. Digits beyond 64 bits do not count. -/
def fraction (negative : Bool) (n : Nat) (power : Int) : Reading Value := do
  let digits ← takeWhile Char.isDigit
  if digits.isEmpty then
    match ← peek with
    | some _ => failNext .badNumber
    | none => failNext .endInValue
  else
    let (m, left) := fitting maxSignificand n digits
    exponentOrEnd negative m (power - (digits.length - left.length : Nat))

/-- What follows the whole part `n · 10 ^ power` of a number. -/
def afterWhole (negative : Bool) (n : Nat) (power : Nat) : Reading Value := do
  match ← peek with
  | some c =>
    if c = '.' then do
      let _ ← next
      fraction negative n power
    else if c = 'e' || c = 'E' then do
      let _ ← next
      exponent negative n power
    else whole
  | none => whole
where
  /-- A number without point and exponent. -/
  whole : Reading Value := do
    if power ≠ 0 then scaledNumber negative n power
    else if negative then
      if n = 0 || Nat.pow 2 63 < n then
        match Binary64.nearest true n 1 with
        | some x => return .real x
        | none => failHere .tooLarge
      else return .int (-n)
    else return .int n

/-- A number whose sign is taken. -/
def number (negative : Bool) : Reading Value := do
  match ← next with
  | none => failHere .endInValue
  | some c =>
    if c = '0' then
      match ← peek with
      | some d => if d.isDigit then failNext .badNumber else afterWhole negative 0 0
      | none => afterWhole negative 0 0
    else if c.isDigit then do
      let digits ← takeWhile Char.isDigit
      let (n, left) := fitting maxSignificand (digitValue c) digits
      afterWhole negative n left.length
    else failIn c .badNumber

end ApiBindings.Json
