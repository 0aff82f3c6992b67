import ApiBindings.Decimal.Digits

/-!
# Plain scalars

What an unquoted scalar stands for: null, a truth value, a number, or else the text itself. The writer
asks the same question to know which texts need quotes.
-/

namespace ApiBindings.Yaml

open ApiBindings.Decimal (Binary64 exponent? natural?)

/-- What a plain scalar stands for. -/
inductive Scalar where
  | null
  | bool (b : Bool)
  /-- An integer of 64 bits, signed or not. -/
  | int (n : Int)
  /-- An integer beyond 64 bits that fits 128. -/
  | wide (n : Int)
  | real (x : Binary64)
  | infinite (negative : Bool)
  | notNumber
  | text
  deriving DecidableEq

/-! ## Words -/

/-- The spellings of null. -/
def isNull (s : String) : Bool := s == "null" || s == "Null" || s == "NULL" || s == "~"

/-- The truth value that a text spells. -/
def truth? (s : String) : Option Bool :=
  if s == "true" || s == "True" || s == "TRUE" then some true
  else if s == "false" || s == "False" || s == "FALSE" then some false
  else none

/-! ## Integers -/

/-- What stands after the mark of a base, with the base. -/
def based? : List Char → Option (Nat × List Char)
  | '0' :: 'x' :: rest => some (16, rest)
  | '0' :: 'o' :: rest => some (8, rest)
  | '0' :: 'b' :: rest => some (2, rest)
  | _ => none

/-- Digits that are not a number, for the first of several is a zero. -/
def hasIdleZero (s : List Char) : Bool :=
  let digits := match s with
    | '-' :: rest => rest
    | '+' :: rest => rest
    | _ => s
  match digits with
  | '0' :: d :: rest => (d :: rest).all Char.isDigit
  | _ => false

/-- The magnitude that digits write, in a base of their own or in base ten. -/
def magnitude? (ds : List Char) : Option Nat :=
  match based? ds with
  | some (base, rest) => natural? base rest
  | none => if hasIdleZero ds then none else natural? 10 ds

/-- The integer that a text spells. -/
def integer? : List Char → Option Int
  | '-' :: rest => (magnitude? rest).map fun n => -(n : Int)
  | '+' :: rest => (magnitude? rest).map fun n => (n : Int)
  | s => (magnitude? s).map fun n => (n : Int)

/-! ## Numbers with a point or an exponent -/

/-- The number of 64 bits that a text without sign spells; digits may be left out on one side of the
point. -/
def unsignedReal? (negative : Bool) (s : List Char) : Option Binary64 := do
  let whole := s.takeWhile Char.isDigit
  let rest := s.dropWhile Char.isDigit
  let (part, rest) := match rest with
    | '.' :: rest => (rest.takeWhile Char.isDigit, rest.dropWhile Char.isDigit)
    | _ => ([], rest)
  guard (!(whole.isEmpty && part.isEmpty))
  let power ← match rest with
    | [] => some 0
    | c :: rest => if c = 'e' || c = 'E' then exponent? rest else none
  Binary64.ofDigits negative (whole ++ part) (power - part.length)

/-- The number of 64 bits that a text spells, unless it is out of range. -/
def real? : List Char → Option Binary64
  | '-' :: rest => unsignedReal? true rest
  | '+' :: rest => unsignedReal? false rest
  | s => unsignedReal? false s

/-- The infinity that a text spells, by its sign. -/
def infinity? (s : String) : Option Bool :=
  if s == ".inf" || s == ".Inf" || s == ".INF" || s == "+.inf" || s == "+.Inf" || s == "+.INF" then some false
  else if s == "-.inf" || s == "-.Inf" || s == "-.INF" then some true
  else none

/-- Whether a text spells what is no number. -/
def isNotNumber (s : String) : Bool := s == ".nan" || s == ".NaN" || s == ".NAN"

/-- What a text spells as a number with a point or an exponent. -/
def floating? (s : String) : Option Scalar :=
  match infinity? s with
  | some negative => some (.infinite negative)
  | none => if isNotNumber s then some .notNumber else (real? s.toList).map .real

/-- What a text spells as an integer of at most 128 bits. -/
def whole? (s : String) : Option Scalar :=
  match integer? s.toList with
  | some n =>
    if -(Nat.pow 2 63 : Int) ≤ n ∧ n < Nat.pow 2 64 then some (.int n)
    else if -(Nat.pow 2 127 : Int) ≤ n ∧ n < Nat.pow 2 128 then some (.wide n)
    else none
  | none => none

/-- What a plain scalar stands for. -/
def resolve (s : String) : Scalar :=
  if s.isEmpty || isNull s then .null
  else match truth? s with
    | some b => .bool b
    | none =>
      match whole? s with
      | some n => n
      | none =>
        if hasIdleZero s.toList then .text
        else (floating? s).getD .text

end ApiBindings.Yaml
