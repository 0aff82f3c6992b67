import ApiBindings.Decimal.Binary64

/-!
# Digits

What digits write: a whole number in a base, a whole number of 64 bits, or the floating number of 64 bits nearest to
a decimal.
-/

namespace ApiBindings.Decimal

/-- The value of a digit, of whatever base up to sixteen; what is no digit has the value sixteen. -/
def digitValue (c : Char) : Nat :=
  if c.isDigit then c.toNat - 48
  else if 'a' ≤ c && c ≤ 'f' then c.toNat - 87
  else if 'A' ≤ c && c ≤ 'F' then c.toNat - 55
  else 16

/-- The number that digits of a base write; at least one is needed. -/
def natural? (base : Nat) (ds : List Char) : Option Nat :=
  if ds.isEmpty then none
  else if ds.all fun c => digitValue c < base then some (ds.foldl (fun n c => n * base + digitValue c) 0)
  else none

/-- The product of two words, unless it outgrows a word. -/
def product64? (m n : UInt64) : Option UInt64 :=
  if m.toNat * n.toNat < UInt64.size then some (m * n) else none

/-- The sum of two words, unless it outgrows a word. -/
def sum64? (m n : UInt64) : Option UInt64 :=
  if m.toNat + n.toNat < UInt64.size then some (m + n) else none

/-- A word with one more digit at its end. -/
def withDigit? (n : UInt64) (c : Char) : Option UInt64 := do
  sum64? (← product64? n 10) (UInt64.ofNat (digitValue c))

/-- The word that digits of base ten write, unless they outgrow it on the way; at least one is needed. -/
def word? (ds : List Char) : Option UInt64 :=
  if ds.isEmpty then none else ds.foldlM withDigit? 0

/-- The exponent that a text spells, after its letter. -/
def exponent? (s : List Char) : Option Int :=
  match s with
  | '-' :: rest => (natural? 10 rest).map fun n => -(n : Int)
  | '+' :: rest => (natural? 10 rest).map fun n => (n : Int)
  | _ => (natural? 10 s).map fun n => (n : Int)

/-- The greatest power of ten that makes a difference, far beyond the range of the format. -/
def powerBound : Int := 100000

/-- The number nearest to `± digits · 10 ^ power`, unless it is out of range. Digits that are all zero are
zero, and few digits with an endless power are zero or out of range. -/
def Binary64.ofDigits (negative : Bool) (digits : List Char) (power : Int) : Option Binary64 :=
  let n := digits.foldl (fun n c => n * 10 + digitValue c) 0
  if n = 0 then some (zero negative)
  else if power < -powerBound - digits.length then some (zero negative)
  else if powerBound < power then none
  else ofDecimal negative n power

end ApiBindings.Decimal
